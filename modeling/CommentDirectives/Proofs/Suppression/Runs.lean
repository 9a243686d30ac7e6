import CommentDirectives.Proofs.Suppression.Immaterial

/-!
# Text that is left out does not matter

Two texts with lines that differ only where they do not matter in the run on the
first one give the same result, if that run succeeds
(`Config.processText_alike_of_immaterial`).

Both runs are paired step by step.  Their open files are the same but for the lines
of the main file, of which equally many were read, and their sessions are alike
with blocks of the same shapes.  Each step keeps this, unless the first run fails
in it (`paired_advance`), and what the steps keep relates the whole runs
(`Processing.run_abreast`).
-/

namespace CommentDirectives

set_option autoImplicit false

namespace Processing

/-! ## Two runs at the same step -/

/-- Open files that are the same but for the lines of the main file. -/
inductive PairedFiles (lines lines' : List (List Char)) : List OpenFile → List OpenFile → Prop where
  | done : PairedFiles lines lines' [] []
  | main (path : String) (number : Nat) : PairedFiles lines lines'
      [⟨path, number, lines.drop number, 0⟩] [⟨path, number, lines'.drop number, 0⟩]
  | inner (file : OpenFile) {outer outer' : List OpenFile} :
      PairedFiles lines lines' outer outer' →
        PairedFiles lines lines' (file :: outer) (file :: outer')

/-- States with the same open files but for the lines of the main file, and with sessions that are
alike. -/
structure Paired (lines lines' : List (List Char)) (processing processing' : Processing) :
    Prop where
  files : PairedFiles lines lines' processing.files processing'.files
  session : processing.session.AlikeWith Nesting.SameShape processing'.session

/-- Steps that lead to states that are paired, or stop in the same way, unless the first one
fails. -/
inductive PairedSteps (lines lines' : List (List Char)) : Step → Step → Prop where
  | failed (last : Processing) (cause : RunError) (step : Step) :
      PairedSteps lines lines' (.stop last (.failed cause)) step
  | stop {last last' : Processing} (ending : Ending) : last.session.Alike last'.session →
      PairedSteps lines lines' (.stop last ending) (.stop last' ending)
  | proceed {next next' : Processing} : Paired lines lines' next next' →
      PairedSteps lines lines' (.proceed next) (.proceed next')

/-- What two runs leave in the same way, unless the first one fails. -/
def PairedEnds (lines lines' : List (List Char)) (ended ended' : Processing × Ending) : Prop :=
  PairedSteps lines lines' (.stop ended.1 ended.2) (.stop ended'.1 ended'.2)

theorem PairedSteps.abreast {lines lines' : List (List Char)} {step step' : Step}
    (steps : PairedSteps lines lines' step step') :
    Abreast (Paired lines lines') (PairedEnds lines lines') step step' := by
  cases steps with
  | failed last cause => exact .decided _ fun _ => .failed last cause _
  | stop ending alike => exact .stop (.stop ending alike)
  | proceed paired => exact .proceed paired

variable {config : Config} {tree : FileTree} {lines lines' : List (List Char)}
  {session session' : Session} {outer outer' : List OpenFile}

theorem PairedFiles.length (files : PairedFiles lines lines' outer outer') :
    outer.length = outer'.length := by
  induction files with
  | done => rfl
  | main path number => rfl
  | inner file files ih => exact congrArg (· + 1) ih

theorem PairedFiles.isEmpty (files : PairedFiles lines lines' outer outer') :
    outer.isEmpty = outer'.isEmpty := by
  cases files with
  | done | main | inner => rfl

section Steps

variable (alike : session.AlikeWith Nesting.SameShape session')
  (files : PairedFiles lines lines' outer outer')
include alike files

/-- The innermost files come to their ends. -/
theorem paired_endFile {file file' : OpenFile} (base : file.baseDepth = file'.baseDepth) :
    PairedSteps lines lines' (endFile session file outer) (endFile session' file' outer') := by
  have onward :
      PairedSteps lines lines' (.proceed ⟨outer, session⟩) (.proceed ⟨outer', session'⟩) :=
    .proceed ⟨files, alike⟩
  have shape := alike.nesting
  unfold endFile
  rw [base, shape.depth]
  cases frames : session.nesting.frames with
  | nil =>
      have frames' : session'.nesting.frames = [] := by
        simpa [Nesting.SameShape, frames] using shape
      simpa only [Nesting.innermost?, frames, frames', List.head?_nil] using onward
  | cons frame own =>
      obtain ⟨frame', own', frames', _⟩ := shape.innermost frames
      simp only [Nesting.innermost?, frames, frames', List.head?_cons]
      split
      · exact .failed _ _ _
      · exact onward

/-- The innermost files are left. -/
theorem paired_leaveFile {file file' : OpenFile} (base : file.baseDepth = file'.baseDepth)
    (count : file.rest.length = file'.rest.length) :
    Paired lines lines' (leaveFile config session file outer)
      (leaveFile config session' file' outer') := by
  have dropped : Nesting.SameShape (session.nesting.truncate file.baseDepth)
      (session'.nesting.truncate file'.baseDepth) := by
    have shape := alike.nesting
    rw [Nesting.SameShape, Nesting.truncate, Nesting.truncate, List.map_drop, List.map_drop, shape,
      base, ← Nesting.depth, ← Nesting.depth, shape.depth]
  rw [leaveFile, leaveFile, files.isEmpty, count]
  exact ⟨files, (alike.nest dropped).skipLines config _⟩

/-- A file is included. -/
theorem paired_includeFile (location : Location) (target : String) :
    PairedSteps lines lines' (includeFile tree session location outer target)
      (includeFile tree session' location outer' target) := by
  simp only [includeFile, files.length]
  split
  · exact .failed _ _ _
  split
  · exact .failed _ _ _
  · have shape := alike.nesting
    refine .proceed ⟨?_, alike.trace _ _ _ _⟩
    simp only [Session.report, shape.depth]
    exact .inner _ files

/-- The same line is read from both files. -/
theorem paired_readLine {path : String} {number base : Nat} {rest rest' : List (List Char)}
    {line : List Char} (left left' : List (List Char)) (count : rest.length = rest'.length)
    (ahead : PairedFiles lines lines' (⟨path, number + 1, rest, base⟩ :: outer)
      (⟨path, number + 1, rest', base⟩ :: outer')) :
    PairedSteps lines lines'
      (readLine config tree session ⟨path, number, left, base⟩ outer line rest)
      (readLine config tree session' ⟨path, number, left', base⟩ outer' line rest') := by
  obtain ⟨after, after', outcome, ran, ran', alikeBehind⟩ :=
    (alike.processLine_of_bisimulation config (lineLocation path number line) base base
      (Nesting.sameShape_bisimulation base) line).parts
  rw [lineLocation] at ran ran'
  simp only [readLine, ran, ran']
  cases outcome with
  | error cause => exact .failed _ _ _
  | ok flow =>
      cases flow with
      | next => exact .proceed ⟨ahead, alikeBehind⟩
      | leaveFile => exact .proceed (paired_leaveFile alikeBehind files rfl count)
      | excludeFile => exact .stop _ (alikeBehind.trace _ _ _ _).toAlike
      | «include» target => exact paired_includeFile alikeBehind ahead _ target

end Steps

/-- A state in which the line of the main file with an index is read next. -/
def ReadsMain (processing : Processing) (index : Nat) : Prop :=
  ∃ file : OpenFile, processing.files = [file] ∧ file.number = index

/-- **Steps stay paired**, where lines of the main file that differ do not matter. -/
theorem paired_advance {processing processing' : Processing}
    (paired : Paired lines lines' processing processing') (count : lines.length = lines'.length)
    (differ : ∀ (index : Nat) (line line' : List Char), lines[index]? = some line →
      lines'[index]? = some line' → line ≠ line' → processing.ReadsMain index →
      Immaterial config.allowBlanks processing.session.nesting line line') :
    PairedSteps lines lines' (processing.advance config tree)
      (processing'.advance config tree) := by
  obtain ⟨files, session⟩ := processing
  obtain ⟨files', session'⟩ := processing'
  obtain ⟨pairedFiles, alike⟩ := paired
  simp only at pairedFiles alike
  cases pairedFiles with
  | done => exact .stop _ alike.toAlike
  | inner file outer =>
      cases left : file.rest with
      | nil =>
          simp only [advance, left]
          exact paired_endFile alike outer rfl
      | cons line rest =>
          simp only [advance, left]
          exact paired_readLine alike outer file.rest file.rest rfl (.inner _ outer)
  | main path number =>
      -- equally many lines are left on both sides, but the next ones may differ
      rcases Nat.lt_or_ge number lines.length with within | beyond
      · have within' : number < lines'.length := count ▸ within
        have ahead : (lines.drop (number + 1)).length = (lines'.drop (number + 1)).length := by
          rw [List.length_drop, List.length_drop, count]
        simp only [advance, List.drop_eq_getElem_cons within, List.drop_eq_getElem_cons within']
        by_cases same : lines[number] = lines'[number]
        · rw [same]
          exact paired_readLine alike .done _ _ ahead (.main path (number + 1))
        · obtain ⟨after, after', alikeBehind, ran, ran'⟩ := Session.Immaterial.sameOutcome
            (differ number _ _ (List.getElem?_eq_getElem within)
              (List.getElem?_eq_getElem within') same ⟨_, rfl, rfl⟩) alike
            (lineLocation path number lines[number]) (lineLocation path number lines'[number])
          rw [lineLocation] at ran ran'
          simp only [readLine, ran, ran']
          exact .proceed ⟨.main path (number + 1), alikeBehind⟩
      · have beyond' : lines'.length ≤ number := count ▸ beyond
        simp only [advance, List.drop_eq_nil_of_le beyond, List.drop_eq_nil_of_le beyond']
        exact paired_endFile alike .done rfl

/-! ## Whole runs -/

/-- Runs stay paired unless the first one fails. -/
theorem paired_run {first : Processing} (count : lines.length = lines'.length)
    (differ : ∀ (index : Nat) (line line' : List Char), lines[index]? = some line →
      lines'[index]? = some line' → line ≠ line' → ∀ processing : Processing,
      Reaches config tree first processing → processing.ReadsMain index →
      Immaterial config.allowBlanks processing.session.nesting line line')
    (processing : Processing) (reached : Reaches config tree first processing)
    (processing' : Processing) (paired : Paired lines lines' processing processing') :
    PairedSteps lines lines' (.stop (processing.run config tree).1 (processing.run config tree).2)
      (.stop (processing'.run config tree).1 (processing'.run config tree).2) := by
  refine run_abreast (Paired lines lines') (PairedEnds lines lines')
    (fun left right onward start => ?_) paired
  exact (paired_advance start count fun index line line' found found' other reads =>
    differ index line line' found found' other left (reached.trans onward) reads).abreast

end Processing

/-! ## Whole files -/

/-- Two texts whose results have a terminator at their ends in the same cases. -/
theorem FileResult.ofEnding_eq (config : Config) {source source' : String} (session : Session)
    (ending : Ending) (terminator : lacksLastTerminator source = lacksLastTerminator source') :
    ofEnding config source session ending = ofEnding config source' session ending := by
  cases ending with
  | complete => simp only [ofEnding, render, terminator]
  | excluded => rfl
  | failed cause => rfl

/-- Two texts that have lines in the same places and differ only where it does not matter in the
run on the first one: in front of each line of the main file that differs, the two lines do the
same, and lines that are never read do whatever they do. -/
structure ImmaterialChange (config : Config) (tree : FileTree) (globals : Layer)
    (providers : List Provider) (path text text' : String) : Prop where
  terminator : FileResult.lacksLastTerminator text = FileResult.lacksLastTerminator text'
  count : (Text.lines text.toList).length = (Text.lines text'.toList).length
  differ : ∀ (index : Nat) (line line' : List Char), (Text.lines text.toList)[index]? = some line →
    (Text.lines text'.toList)[index]? = some line' → line ≠ line' → ∀ processing : Processing,
    processing.ReadsMain index →
    Processing.Reaches config tree (Processing.start globals providers path text) processing →
    Immaterial config.allowBlanks processing.session.nesting line line'

/-- **Text that is left out does not matter.**  If a text gives output or is excluded, any text
that differs from it only where it does not matter gives the same output or is excluded too, and
leaves the same variables, providers, calls of the extension and reports behind. -/
theorem Config.processText_alike_of_immaterial {config : Config} {tree : FileTree}
    {globals : Layer} {providers : List Provider} {path text text' : String}
    (change : ImmaterialChange config tree globals providers path text text') {output : FileOutput}
    (succeeded : (config.processText tree globals providers path text).outcome = .ok output) :
    (config.processText tree globals providers path text').outcome = .ok output ∧
      (config.processText tree globals providers path text).session.Alike
        (config.processText tree globals providers path text').session := by
  have paired : Processing.Paired (Text.lines text.toList) (Text.lines text'.toList)
      (Processing.start globals providers path text)
      (Processing.start globals providers path text') :=
    ⟨.main path 0, { toAlike := Session.Alike.refl _, nesting := rfl }⟩
  have runs := Processing.paired_run change.count
    (fun index line line' found found' other processing reached reads =>
      change.differ index line line' found found' other processing reads reached)
    _ .refl _ paired
  simp only [processText] at succeeded ⊢
  obtain ⟨⟨last, ending⟩, ran⟩ : ∃ result,
    (Processing.start globals providers path text).run config tree = result := ⟨_, rfl⟩
  obtain ⟨⟨last', ending'⟩, ran'⟩ : ∃ result,
    (Processing.start globals providers path text').run config tree = result := ⟨_, rfl⟩
  rw [ran, ran'] at runs
  rw [ran] at succeeded ⊢
  rw [ran', ← FileResult.ofEnding_eq config last'.session ending' change.terminator]
  cases runs with
  | failed last cause step => cases succeeded
  | stop ending alike =>
      have same := FileResult.alike_ofEnding config text alike ending
      exact ⟨same.outcome.symm.trans succeeded, same.session⟩

/-- A text with a line that is left out. -/
def leftOutText : String := "//#ifdef debug\nleft out\n//#endif"

/-- The same text with a directive in place of that line which would fail. -/
def failingText : String := "//#ifdef debug\n//#error $\x7b\n//#endif"

/-- The directive that is left out does not matter. -/
theorem Config.outcome_failingText :
    ImmaterialChange {} (FileTree.empty []) Layer.empty [] "a.txt" leftOutText failingText ∧
      (Config.processText {} (FileTree.empty []) Layer.empty [] "a.txt" failingText).outcome =
        .ok (.text "") := by
  have lines : Text.lines leftOutText.toList =
      ["//#ifdef debug".toList, "left out".toList, "//#endif".toList] := by decide
  have lines' : Text.lines failingText.toList =
      ["//#ifdef debug".toList, "//#error $\x7b".toList, "//#endif".toList] := by decide
  have steps : ∃ first second third fourth : Session,
      Processing.advance {} (FileTree.empty [])
        (Processing.start Layer.empty [] "a.txt" leftOutText) =
          .proceed ⟨[⟨"a.txt", 1, ["left out".toList, "//#endif".toList], 0⟩], first⟩ ∧
      first.isActive = false ∧
      Processing.advance {} (FileTree.empty [])
        ⟨[⟨"a.txt", 1, ["left out".toList, "//#endif".toList], 0⟩], first⟩ =
          .proceed ⟨[⟨"a.txt", 2, ["//#endif".toList], 0⟩], second⟩ ∧
      Processing.advance {} (FileTree.empty [])
        ⟨[⟨"a.txt", 2, ["//#endif".toList], 0⟩], second⟩ =
          .proceed ⟨[⟨"a.txt", 3, [], 0⟩], third⟩ ∧
      Processing.advance {} (FileTree.empty []) ⟨[⟨"a.txt", 3, [], 0⟩], third⟩ =
        .proceed ⟨[], fourth⟩ :=
    ⟨_, _, _, _, rfl, rfl, rfl, rfl, rfl⟩
  obtain ⟨first, second, third, fourth, toFirst, inactive, toSecond, toThird, toFourth⟩ := steps
  have change : ImmaterialChange {} (FileTree.empty []) Layer.empty [] "a.txt" leftOutText
      failingText := by
    refine ⟨by decide, by rw [lines, lines']; rfl, ?_⟩
    intro index line line' found found' other processing reads reaches
    rw [lines] at found
    rw [lines'] at found'
    match index with
    | 0 | 2 => exact absurd (Option.some.inj (found.symm.trans found')) other
    | index + 3 => cases found
    | 1 =>
      obtain ⟨file, files, number⟩ := reads
      rcases reaches.of_proceed toFirst with rfl | onward
      · cases files
        cases number
      rcases onward.of_proceed toSecond with rfl | onward
      · cases found
        cases found'
        exact .outside inactive (by decide) (by decide)
      rcases onward.of_proceed toThird with rfl | onward
      · cases files
        cases number
      rcases onward.of_proceed toFourth with rfl | onward
      · cases files
        cases number
      · rw [onward.of_stop rfl] at files
        cases files
  have succeeded : (Config.processText {} (FileTree.empty []) Layer.empty [] "a.txt"
      leftOutText).outcome = .ok (.text "") := by cbv
  exact ⟨change, (Config.processText_alike_of_immaterial change succeeded).1⟩

end CommentDirectives
