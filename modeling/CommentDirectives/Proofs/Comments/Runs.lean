import CommentDirectives.Proofs.Session.OpenedComment
import CommentDirectives.Proofs.Suppression.Runs

/-!
# Texts that differ inside block comments

Where comments are removed, two texts whose lines differ only inside block comments give the same
output, if no line counts as blank in one text alone and both end with a terminator or neither does
(`Config.outcome_of_hiddenChange`).  Where empty lines stand for the lines that are left out, blank
lines need not agree, and the last terminator matters only where the configuration cares for it.

Both conditions are needed (`Config.outcome_differs_inside`): a blank line inside a comment stays in
the output as an empty line while any other line there is left out, and a terminator that is missing
at the end of a text is missing in the output, even where the text ends inside a comment.

The runs on both texts are paired step by step, with the same open files but for the lines of the
main file, and with the same session but for the place where the last comment was opened
(`Processing.parallel_advance`).
-/

namespace CommentDirectives

set_option autoImplicit false

namespace Processing

/-! ## Two runs at the same step -/

/-- States with the same open files but for the lines of the main file, and with the same session
but for the place where the last block comment was opened. -/
inductive Parallel (lines lines' : List (List Char)) : Processing → Processing → Prop where
  | intro {files files' : List OpenFile} (session : Session) (opened : Option Location) :
      PairedFiles lines lines' files files' →
        Parallel lines lines' ⟨files, session⟩ ⟨files', session.withOpened opened⟩

/-- Steps that lead to such states, or stop in the same way. -/
inductive ParallelSteps (lines lines' : List (List Char)) : Step → Step → Prop where
  | stop {last last' : Processing} (opened : Option Location) (ending : Ending) :
      last'.session = last.session.withOpened opened →
        ParallelSteps lines lines' (.stop last ending) (.stop last' ending)
  | proceed {next next' : Processing} : Parallel lines lines' next next' →
      ParallelSteps lines lines' (.proceed next) (.proceed next')

/-- What two runs leave in the same way, but for the place where the last block comment was
opened. -/
def ParallelEnds (ended ended' : Processing × Ending) : Prop :=
  ∃ opened, ended'.2 = ended.2 ∧ ended'.1.session = ended.1.session.withOpened opened

theorem ParallelSteps.abreast {lines lines' : List (List Char)} {step step' : Step}
    (steps : ParallelSteps lines lines' step step') :
    Abreast (Parallel lines lines') ParallelEnds step step' := by
  cases steps with
  | stop opened ending same => exact .stop ⟨opened, rfl, same⟩
  | proceed onward => exact .proceed onward

variable {config : Config} {tree : FileTree} {lines lines' : List (List Char)}
  {outer outer' : List OpenFile} (session : Session) (opened : Option Location)

section Steps

variable (files : PairedFiles lines lines' outer outer')
include files

/-- The innermost files come to their ends. -/
theorem parallel_endFile {file file' : OpenFile} (base : file.baseDepth = file'.baseDepth) :
    ParallelSteps lines lines' (endFile session file outer)
      (endFile (session.withOpened opened) file' outer') := by
  have onward : ParallelSteps lines lines' (.proceed ⟨outer, session⟩)
      (.proceed ⟨outer', session.withOpened opened⟩) := .proceed (.intro session opened files)
  have nesting : (session.withOpened opened).nesting = session.nesting := rfl
  unfold endFile
  rw [nesting, base]
  split
  · split
    · exact .stop opened _ rfl
    · exact onward
  · exact onward

/-- The innermost files are left. -/
theorem parallel_leaveFile {file file' : OpenFile} (base : file.baseDepth = file'.baseDepth)
    (count : file.rest.length = file'.rest.length) :
    Parallel lines lines' (leaveFile config session file outer)
      (leaveFile config (session.withOpened opened) file' outer') := by
  let dropped : Session := { session with nesting := session.nesting.truncate file.baseDepth }
  have left : leaveFile config (session.withOpened opened) file' outer' =
      ⟨outer', (leaveFile config session file outer).session.withOpened opened⟩ := by
    rw [leaveFile, leaveFile, ← files.isEmpty, ← count, ← base]
    exact congrArg (Processing.mk outer') (dropped.skipLines_withOpened opened config _)
  rw [left]
  exact .intro _ opened files

/-- A file is included. -/
theorem parallel_includeFile (location : Location) (target : String) :
    ParallelSteps lines lines' (includeFile tree session location outer target)
      (includeFile tree (session.withOpened opened) location outer' target) := by
  simp only [includeFile, files.length]
  split
  · exact .stop opened _ rfl
  split
  · exact .stop opened _ rfl
  · exact .proceed (.intro _ opened (.inner _ files))

/-- The same line is read from both files. -/
theorem parallel_readLine {path : String} {number base : Nat} {rest rest' : List (List Char)}
    {line : List Char} (left left' : List (List Char)) (count : rest.length = rest'.length)
    (ahead : PairedFiles lines lines' (⟨path, number + 1, rest, base⟩ :: outer)
      (⟨path, number + 1, rest', base⟩ :: outer')) :
    ParallelSteps lines lines'
      (readLine config tree session ⟨path, number, left, base⟩ outer line rest)
      (readLine config tree (session.withOpened opened) ⟨path, number, left', base⟩ outer' line
        rest') := by
  obtain ⟨opened', ran'⟩ := session.processLine_withOpened opened
    ⟨config, lineLocation path number line, base⟩ line
  obtain ⟨after, outcome, ran⟩ : ∃ after outcome,
    session.processLine ⟨config, lineLocation path number line, base⟩ line = (after, outcome) :=
    ⟨_, _, rfl⟩
  rw [ran] at ran'
  rw [lineLocation] at ran ran'
  simp only [readLine, ran, ran', Session.Outcome.withOpened]
  cases outcome with
  | error cause => exact .stop opened' _ rfl
  | ok flow =>
      cases flow with
      | next => exact .proceed (.intro after opened' ahead)
      | leaveFile => exact .proceed (parallel_leaveFile after opened' files rfl count)
      | excludeFile => exact .stop opened' _ rfl
      | «include» target => exact parallel_includeFile after opened' ahead _ target

end Steps

/-- A state in which a line of the main file is read next that is another one in the other text. -/
def Meets (lines lines' : List (List Char)) (processing : Processing) (line line' : List Char) :
    Prop :=
  ∃ index, lines[index]? = some line ∧ lines'[index]? = some line' ∧ line ≠ line' ∧
    processing.ReadsMain index

/-- **Steps stay paired**, where the lines of the main file differ only inside block comments. -/
theorem parallel_advance {processing processing' : Processing}
    (removal : config.keepComments = false)
    (parallel : Parallel lines lines' processing processing') (count : lines.length = lines'.length)
    (inside : ∀ line line', processing.Meets lines lines' line line' →
      Comments.DifferInside config.allowBlanks processing.session.inBlock line line')
    (blank : ∀ line line', processing.Meets lines lines' line line' →
      processing.session.isActive = true → config.keepLines = false →
        (Text.trim line).isEmpty = (Text.trim line').isEmpty) :
    ParallelSteps lines lines' (processing.advance config tree)
      (processing'.advance config tree) := by
  obtain ⟨session, opened, files⟩ := parallel
  cases files with
  | done => exact .stop opened _ rfl
  | inner file outer =>
      cases left : file.rest with
      | nil =>
          simp only [advance, left]
          exact parallel_endFile session opened outer rfl
      | cons line rest =>
          simp only [advance, left]
          exact parallel_readLine session opened outer file.rest file.rest rfl (.inner _ outer)
  | main path number =>
      -- equally many lines are left on both sides, but the next ones may differ
      rcases Nat.lt_or_ge number lines.length with within | beyond
      · have within' : number < lines'.length := count ▸ within
        have ahead : (lines.drop (number + 1)).length = (lines'.drop (number + 1)).length := by
          rw [List.length_drop, List.length_drop, count]
        simp only [advance, List.drop_eq_getElem_cons within, List.drop_eq_getElem_cons within']
        by_cases same : lines[number] = lines'[number]
        · rw [same]
          exact parallel_readLine session opened .done _ _ ahead (.main path (number + 1))
        · have meets : Meets lines lines' ⟨[⟨path, number, lines.drop number, 0⟩], session⟩
              lines[number] lines'[number] :=
            ⟨number, List.getElem?_eq_getElem within, List.getElem?_eq_getElem within', same, _,
              rfl, rfl⟩
          obtain ⟨after, opened', ran, ran'⟩ := Session.processLine_of_differInside opened
            (lineLocation path number lines[number]) (lineLocation path number lines'[number]) 0
            removal (inside _ _ meets) (blank _ _ meets)
          rw [lineLocation] at ran ran'
          simp only [readLine, ran, ran']
          exact .proceed (.intro after opened' (.main path (number + 1)))
      · have beyond' : lines'.length ≤ number := count ▸ beyond
        simp only [advance, List.drop_eq_nil_of_le beyond, List.drop_eq_nil_of_le beyond']
        exact parallel_endFile session opened .done rfl

/-- Runs stay paired. -/
theorem parallel_run {first : Processing} (removal : config.keepComments = false)
    (count : lines.length = lines'.length)
    (inside : ∀ processing, Reaches config tree first processing → ∀ line line',
      processing.Meets lines lines' line line' →
        Comments.DifferInside config.allowBlanks processing.session.inBlock line line')
    (blank : ∀ processing, Reaches config tree first processing → ∀ line line',
      processing.Meets lines lines' line line' →
        processing.session.isActive = true → config.keepLines = false →
          (Text.trim line).isEmpty = (Text.trim line').isEmpty)
    (processing : Processing) (reached : Reaches config tree first processing)
    (processing' : Processing) (parallel : Parallel lines lines' processing processing') :
    ParallelEnds (processing.run config tree) (processing'.run config tree) := by
  refine run_abreast (Parallel lines lines') ParallelEnds (fun left right onward start => ?_)
    parallel
  have reached' := reached.trans onward
  exact (parallel_advance removal start count (inside left reached') (blank left reached')).abreast

end Processing

/-! ## Texts without directives -/

/-- Whether a line is read inside a block comment, where all lines in front of it are text. -/
def Comments.openBefore (lines : List (List Char)) (index : Nat) : Bool :=
  (lines.take index).foldl (fun inBlock line => (strip inBlock line).2) false

theorem Comments.openBefore_succ {lines : List (List Char)} {index : Nat}
    (within : index < lines.length) :
    openBefore lines (index + 1) = (strip (openBefore lines index) lines[index]).2 := by
  rw [openBefore, List.take_succ_eq_append_getElem within, List.foldl_append]
  rfl

namespace Processing

variable {config : Config} {tree : FileTree} {lines : List (List Char)} {path : String}

/-- A state in the reading of a text without directives. -/
inductive ReadsText (path : String) (lines : List (List Char)) : Processing → Prop where
  | reading (number : Nat) {session : Session} (nesting : session.nesting = Nesting.empty)
      (inBlock : session.inBlock = Comments.openBefore lines number) :
      ReadsText path lines ⟨[⟨path, number, lines.drop number, 0⟩], session⟩
  | done (session : Session) : ReadsText path lines ⟨[], session⟩

/-- A text without directives and marked expressions is read line by line up to its end. -/
theorem ReadsText.step {processing next : Processing} (removal : config.keepComments = false)
    (plain : ∀ line ∈ lines, LineForm.ofLine config.allowBlanks line = .plain)
    (unmarked : ∀ line ∈ lines, ¬ Substitution.opening <:+: line)
    (reads : ReadsText path lines processing)
    (leads : advance config tree processing = .proceed next) : ReadsText path lines next := by
  cases reads with
  | done session => cases leads
  | @reading number session nesting inBlock =>
      rcases Nat.lt_or_ge number lines.length with within | beyond
      · have member : lines[number] ∈ lines := List.getElem_mem within
        have active : session.isActive = true := by
          rw [Session.isActive, nesting]
          rfl
        obtain ⟨after, ran, mode, blocks⟩ := session.processLine_of_unmarked
          (lineLocation path number lines[number]) 0 removal active (plain _ member)
          (unmarked _ member)
        rw [lineLocation] at ran
        simp only [advance, List.drop_eq_getElem_cons within, readLine, ran] at leads
        cases leads
        refine .reading (number + 1) (blocks.trans nesting) ?_
        rw [mode, inBlock, Comments.openBefore_succ within]
      · simp only [advance, List.drop_eq_nil_of_le beyond, endFile, nesting] at leads
        cases leads
        exact .done session

theorem Reaches.readsText {processing reached : Processing}
    (reaches : Reaches config tree processing reached) (removal : config.keepComments = false)
    (plain : ∀ line ∈ lines, LineForm.ofLine config.allowBlanks line = .plain)
    (unmarked : ∀ line ∈ lines, ¬ Substitution.opening <:+: line)
    (reads : ReadsText path lines processing) : ReadsText path lines reached := by
  induction reaches with
  | refl => exact reads
  | tail _ leads ih => exact ih.step removal plain unmarked leads

/-- A line of such a text is read next inside a block comment if the lines in front of it leave one
open. -/
theorem ReadsText.inBlock_eq {processing : Processing} {index : Nat}
    (reads : ReadsText path lines processing) (readsMain : processing.ReadsMain index) :
    processing.session.inBlock = Comments.openBefore lines index := by
  obtain ⟨file, files, number⟩ := readsMain
  cases reads with
  | done session => cases files
  | reading number' nesting inBlock =>
      cases files
      cases number
      exact inBlock

end Processing

/-! ## Whole files -/

/-- Two texts with equally many lines that differ only inside block comments, as the run on the
first one meets the lines.  Lines that are never read may differ in any way. -/
structure InteriorChange (config : Config) (tree : FileTree) (globals : Layer)
    (providers : List Provider) (path text text' : String) : Prop where
  count : (Text.lines text.toList).length = (Text.lines text'.toList).length
  inside : ∀ processing : Processing,
    Processing.Reaches config tree (Processing.start globals providers path text) processing →
    ∀ line line' : List Char,
    processing.Meets (Text.lines text.toList) (Text.lines text'.toList) line line' →
    Comments.DifferInside config.allowBlanks processing.session.inBlock line line'

/-- Two texts of which the first one has no directives and marked expressions, and whose lines
differ only inside the block comments of the first one. -/
theorem InteriorChange.ofText {config : Config} {tree : FileTree} {globals : Layer}
    {providers : List Provider} {path text text' : String} (removal : config.keepComments = false)
    (count : (Text.lines text.toList).length = (Text.lines text'.toList).length)
    (plain : ∀ line ∈ Text.lines text.toList, LineForm.ofLine config.allowBlanks line = .plain)
    (unmarked : ∀ line ∈ Text.lines text.toList, ¬ Substitution.opening <:+: line)
    (inside : ∀ (index : Nat) (line line' : List Char),
      (Text.lines text.toList)[index]? = some line →
      (Text.lines text'.toList)[index]? = some line' → line ≠ line' →
      Comments.DifferInside config.allowBlanks
        (Comments.openBefore (Text.lines text.toList) index) line line') :
    InteriorChange config tree globals providers path text text' where
  count := count
  inside := by
    rintro processing reaches line line' ⟨index, found, found', other, readsMain⟩
    have reads : Processing.ReadsText path (Text.lines text.toList) processing :=
      reaches.readsText removal plain unmarked (.reading 0 rfl rfl)
    rw [reads.inBlock_eq readsMain]
    exact inside index line line' found found' other

/-- A text with a blank line in a comment. -/
def blankInteriorText : String := "/*\n\n*/\n"

/-- The same text with a word in that line. -/
def wordInteriorText : String := "/*\nx\n*/\n"

/-- These texts differ only in the comment. -/
theorem interiorChange_wordInterior : InteriorChange {} (FileTree.empty []) Layer.empty [] "a.txt"
    blankInteriorText wordInteriorText := by
  have lines : Text.lines blankInteriorText.toList = ["/*".toList, "".toList, "*/".toList] := by
    decide
  have lines' : Text.lines wordInteriorText.toList = ["/*".toList, "x".toList, "*/".toList] := by
    decide
  refine .ofText rfl (by rw [lines, lines']; rfl) (by rw [lines]; decide)
    (by simp only [lines, ← Substitution.cut_eq_none]; decide) ?_
  intro index line line' found found' other
  rw [lines] at found ⊢
  rw [lines'] at found'
  match index with
  | 0 | 2 => exact absurd (Option.some.inj (found.symm.trans found')) other
  | 1 =>
    cases found
    cases found'
    exact ⟨by decide, by decide, Substitution.cut_eq_none.mp (by decide),
      Substitution.cut_eq_none.mp (by decide), by decide⟩
  | index + 3 => cases found

/-- A text that ends inside a comment, with a terminator. -/
def openCommentText : String := "x /* a\n"

/-- The same text without the terminator. -/
def cutCommentText : String := "x /* a"

/-- The lines of these texts do not differ. -/
theorem interiorChange_cutComment : InteriorChange { careForLastTerminator := true }
    (FileTree.empty []) Layer.empty [] "a.txt" openCommentText cutCommentText := by
  have lines : Text.lines openCommentText.toList = ["x /* a".toList] := by decide
  have lines' : Text.lines cutCommentText.toList = ["x /* a".toList] := by decide
  refine .ofText rfl (by rw [lines, lines']) (by rw [lines]; decide)
    (by simp only [lines, ← Substitution.cut_eq_none]; decide) ?_
  intro index line line' found found' other
  rw [lines] at found
  rw [lines'] at found'
  exact absurd (Option.some.inj (found.symm.trans found')) other

/-- **What stands inside block comments is seen in two cases**: a blank line there stays in the
output, and so does the terminator of a text that ends there, where it is cared for. -/
theorem Config.outcome_differs_inside :
    (InteriorChange {} (FileTree.empty []) Layer.empty [] "a.txt" blankInteriorText
        wordInteriorText ∧
      (Config.processText {} (FileTree.empty []) Layer.empty [] "a.txt"
        blankInteriorText).outcome = .ok (.text "\n") ∧
      (Config.processText {} (FileTree.empty []) Layer.empty [] "a.txt"
        wordInteriorText).outcome = .ok (.text "")) ∧
    (InteriorChange { careForLastTerminator := true } (FileTree.empty []) Layer.empty [] "a.txt"
        openCommentText cutCommentText ∧
      (Config.processText { careForLastTerminator := true } (FileTree.empty []) Layer.empty []
        "a.txt" openCommentText).outcome = .ok (.text "x\n") ∧
      (Config.processText { careForLastTerminator := true } (FileTree.empty []) Layer.empty []
        "a.txt" cutCommentText).outcome = .ok (.text "x")) :=
  ⟨⟨interiorChange_wordInterior, by cbv, by cbv⟩, ⟨interiorChange_cutComment, by cbv, by cbv⟩⟩

/-- Two such texts that both end with a terminator or both do not, where that is cared for, and of
which no line that counts is blank in one text alone, unless empty lines stand for those that are
left out. -/
structure HiddenChange (config : Config) (tree : FileTree) (globals : Layer)
    (providers : List Provider) (path text text' : String) : Prop extends
    InteriorChange config tree globals providers path text text' where
  blank : ∀ processing : Processing,
    Processing.Reaches config tree (Processing.start globals providers path text) processing →
    ∀ line line' : List Char,
    processing.Meets (Text.lines text.toList) (Text.lines text'.toList) line line' →
    processing.session.isActive = true → config.keepLines = false →
    (Text.trim line).isEmpty = (Text.trim line').isEmpty
  terminator : config.careForLastTerminator = true →
    FileResult.lacksLastTerminator text = FileResult.lacksLastTerminator text'

/-- **What stands inside block comments does not matter.**  Where comments are removed, two texts
that differ only there, and neither in blank lines nor at their ends, give the same output, are both
excluded, or fail at the same place for the same cause. -/
theorem Config.outcome_of_hiddenChange {config : Config} {tree : FileTree} {globals : Layer}
    {providers : List Provider} {path text text' : String}
    (removal : config.keepComments = false)
    (change : HiddenChange config tree globals providers path text text') :
    (config.processText tree globals providers path text').outcome =
      (config.processText tree globals providers path text).outcome := by
  have parallel : Processing.Parallel (Text.lines text.toList) (Text.lines text'.toList)
      (Processing.start globals providers path text)
      (Processing.start globals providers path text') := .intro _ none (.main path 0)
  obtain ⟨opened, ending, session⟩ := Processing.parallel_run removal change.count change.inside
    change.blank _ .refl _ parallel
  have complete : (config.careForLastTerminator && FileResult.lacksLastTerminator text') =
      (config.careForLastTerminator && FileResult.lacksLastTerminator text) := by
    cases cares : config.careForLastTerminator with
    | false => rfl
    | true => rw [change.terminator cares]
  simp only [processText, ending, session]
  cases ((Processing.start globals providers path text).run config tree).2 with
  | complete =>
      simp only [FileResult.ofEnding, FileResult.render, complete]
      rfl
  | excluded | failed cause => rfl

/-- A text with a comment over two lines. -/
def commentedText : String := "a /* first\nlast */ b\n"

/-- The same text with other words in the comment, among them what would open a quote and a line
comment outside. -/
def otherCommentText : String := "a /* \"\n// */ b\n"

/-- The words in the comment do not matter. -/
theorem Config.outcome_otherCommentText :
    HiddenChange {} (FileTree.empty []) Layer.empty [] "a.txt" commentedText otherCommentText ∧
      (Config.processText {} (FileTree.empty []) Layer.empty [] "a.txt" otherCommentText).outcome =
        .ok (.text "a\n b\n") := by
  have lines : Text.lines commentedText.toList = ["a /* first".toList, "last */ b".toList] := by
    decide
  have lines' : Text.lines otherCommentText.toList = ["a /* \"".toList, "// */ b".toList] := by
    decide
  have interior : InteriorChange {} (FileTree.empty []) Layer.empty [] "a.txt" commentedText
      otherCommentText := by
    refine .ofText rfl (by rw [lines, lines']; rfl) (by rw [lines]; decide)
      (by simp only [lines, ← Substitution.cut_eq_none]; decide) ?_
    intro index line line' found found' other
    rw [lines] at found ⊢
    rw [lines'] at found'
    match index with
    | 0 | 1 =>
      cases found
      cases found'
      exact ⟨by decide, by decide, Substitution.cut_eq_none.mp (by decide),
        Substitution.cut_eq_none.mp (by decide), by decide⟩
    | index + 2 => cases found
  have change : HiddenChange {} (FileTree.empty []) Layer.empty [] "a.txt" commentedText
      otherCommentText := by
    refine { interior with blank := ?_, terminator := nofun }
    rintro processing reaches line line' ⟨index, found, found', other, readsMain⟩ active counted
    rw [lines] at found
    rw [lines'] at found'
    match index with
    | 0 | 1 =>
      cases found
      cases found'
      decide
    | index + 2 => cases found
  have succeeded : (Config.processText {} (FileTree.empty []) Layer.empty [] "a.txt"
      commentedText).outcome = .ok (.text "a\n b\n") := by cbv
  exact ⟨change, (Config.outcome_of_hiddenChange rfl change).trans succeeded⟩

end CommentDirectives
