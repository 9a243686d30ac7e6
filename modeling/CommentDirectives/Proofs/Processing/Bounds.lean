import CommentDirectives.Proofs.Processing.Transition
import CommentDirectives.Proofs.Session.Outcome

/-!
# How long the reading of files takes, and how deep it goes

A file with so many lines is read in one step for each line and one for its end, and each of the
lines may include a file one level further down.  So the files of a tree bound the steps that the
reading of a text takes (`mostSteps`), however often they include themselves and each other.  What
is left to do in the open files is at most a number of steps that every step makes smaller
(`stepsLeft_lt`), and that bounds the steps up to the end (`stopsWithin`).

No more files are open at any time than the main one and one for each level
(`Reaches.length_le`), and a line that includes a file where all of these are open is refused for
that and for no other reason (`advance_of_includes`).
-/

namespace CommentDirectives

set_option autoImplicit false

/-- The state that a step leads to, if it leads on. -/
def Step.next? : Step → Option Processing
  | .proceed next => some next
  | .stop _ _ => none

theorem Step.next?_eq_some {step : Step} {next : Processing} :
    step.next? = some next ↔ step = .proceed next := by
  cases step <;> simp [Step.next?]

/-! ## The lines of the files of a tree -/

/-- The number of lines of a file that holds text. -/
def Node.lineCount : Node → Nat
  | .folder => 0
  | .file content _ =>
    match String.fromUTF8? content with
    | none => 0
    | some text => (Text.lines text.toList).length

/-- The number of lines of the file in a tree that has the most. -/
def FileTree.mostLines (tree : FileTree) : Nat :=
  (tree.nodes.entries.map fun entry => entry.2.lineCount).foldr max 0

/-- A path that leads to a file leads to an entry of the tree. -/
theorem FileTree.mem_of_lookup {tree : FileTree} {path : String} {content : ByteArray} {mode : Nat}
    (found : tree.lookup path = .ok (.file content mode)) :
    ∃ place, (place, Node.file content mode) ∈ tree.nodes.entries := by
  unfold FileTree.lookup at found
  split at found
  · cases found
  · next place located =>
    split at found
    · cases found
    · next node present =>
      obtain rfl := Except.ok.inj found
      unfold FileTree.node? nodeAmong? at present
      split at present
      · cases present
      · exact ⟨place, SortedMap.mem_of_find? present⟩

/-- A text that is read from a tree has no more lines than the file that has the most. -/
theorem FileTree.length_lines_le {tree : FileTree} {path text : String}
    (content : tree.readText path = .ok text) :
    (Text.lines text.toList).length ≤ tree.mostLines := by
  unfold FileTree.readText FileTree.readBytes at content
  cases found : tree.lookup path with
  | error cause => simp [found] at content
  | ok node =>
      cases node with
      | folder => simp [found] at content
      | file bytes mode =>
          cases decoded : String.fromUTF8? bytes with
          | none => simp [found, decoded] at content
          | some held =>
              obtain rfl : held = text := by simpa [found, decoded] using content
              obtain ⟨place, present⟩ := FileTree.mem_of_lookup found
              have counted : (Node.file bytes mode).lineCount = (Text.lines held.toList).length := by
                simp [Node.lineCount, decoded]
              rw [← counted]
              exact List.le_max_of_le (List.mem_map_of_mem present) (Nat.le_refl _)

namespace Processing

variable {config : Config} {tree : FileTree}

/-! ## The number of steps -/

/-- The most steps that the reading of a file takes with all that is included below it, where files
can be open on so many levels and none of them has more lines than a given number. -/
def mostSteps (lines : Nat) : (levels : Nat) → Nat
  | 0 => 0
  | levels + 1 => lines * (mostSteps lines levels + 1) + 1

/-- The most steps that are left to do in some open files, the innermost first: each line may
include a file on the levels that are left below, and each file comes to its end. -/
def stepsLeft (lines : Nat) : List OpenFile → Nat
  | [] => 0
  | file :: outer =>
    file.rest.length * (mostSteps lines (includeLimit - outer.length) + 1) + 1
      + stepsLeft lines outer

/-- What some steps lead to: the state behind them, or where and how one of them stopped. -/
def iterate (config : Config) (tree : FileTree) : (steps : Nat) → Processing → Step
  | 0, processing => .proceed processing
  | steps + 1, processing =>
    match advance config tree processing with
    | .stop last ending => .stop last ending
    | .proceed next => iterate config tree steps next

/-- A state that some steps lead to is reached. -/
theorem Reaches.of_iterate {steps : Nat} {first reached : Processing}
    (leads : iterate config tree steps first = .proceed reached) :
    Reaches config tree first reached := by
  induction steps generalizing first with
  | zero =>
      cases leads
      exact .refl
  | succ steps ih =>
      rw [iterate] at leads
      cases step : advance config tree first with
      | stop last ending =>
          rw [step] at leads
          cases leads
      | proceed next =>
          rw [step] at leads
          exact .head step (ih leads)

/-- A line that is read leaves less to do. -/
theorem stepsLeft_lt_of_read (lines : Nat) (path : String) (number base : Nat) (line : List Char)
    (rest : List (List Char)) (outer : List OpenFile) :
    mostSteps lines (includeLimit - outer.length) +
        stepsLeft lines (⟨path, number + 1, rest, base⟩ :: outer) <
      stepsLeft lines (⟨path, number, line :: rest, base⟩ :: outer) := by
  simp only [stepsLeft, List.length_cons, Nat.succ_mul]
  omega

/-- A file takes at least one step. -/
theorem stepsLeft_lt_of_close (lines : Nat) (file : OpenFile) (outer : List OpenFile) :
    stepsLeft lines outer < stepsLeft lines (file :: outer) := by
  simp only [stepsLeft]
  omega

/-- A file that is opened takes no more steps than a level allows for. -/
theorem stepsLeft_of_enter {lines : Nat} {text : String} (path : String) (base : Nat)
    (short : (Text.lines text.toList).length ≤ lines) (outer : List OpenFile)
    (room : outer.length ≤ includeLimit) :
    stepsLeft lines (OpenFile.ofText path text base :: outer) ≤
      mostSteps lines (includeLimit + 1 - outer.length) + stepsLeft lines outer := by
  have levels : includeLimit + 1 - outer.length = includeLimit - outer.length + 1 := by omega
  have product := Nat.mul_le_mul_right (mostSteps lines (includeLimit - outer.length) + 1) short
  simp only [stepsLeft, OpenFile.ofText, levels, mostSteps]
  omega

/-- **Every step that leads on leaves less to do**, if no file has more lines than are counted
with. -/
theorem stepsLeft_lt {lines : Nat} (enough : tree.mostLines ≤ lines) {processing next : Processing}
    (leads : advance config tree processing = .proceed next) :
    stepsLeft lines next.files < stepsLeft lines processing.files := by
  cases transition_of_proceed leads with
  | close ended closed => exact stepsLeft_lt_of_close lines _ _
  | next outcome =>
      exact Nat.lt_of_le_of_lt (Nat.le_add_left _ _) (stepsLeft_lt_of_read lines _ _ _ _ _ _)
  | leave outcome => exact stepsLeft_lt_of_close lines _ _
  | @enter _ _ path target text number base line rest outer outcome room content =>
      have short := Nat.le_trans (FileTree.length_lines_le content) enough
      have opened := stepsLeft_of_enter (includedPath path target) base short
        (⟨path, number + 1, rest, base⟩ :: outer) room
      have read := stepsLeft_lt_of_read lines path number base line rest outer
      rw [List.length_cons, Nat.add_sub_add_right] at opened
      exact Nat.lt_of_le_of_lt opened read

/-- **A run stops within the steps that are left to do**, and one more. -/
theorem stopsWithin {lines : Nat} (enough : tree.mostLines ≤ lines) (steps : Nat)
    (processing : Processing) (bound : stepsLeft lines processing.files ≤ steps) :
    iterate config tree (steps + 1) processing =
      .stop (processing.run config tree).1 (processing.run config tree).2 := by
  induction steps generalizing processing with
  | zero =>
      cases step : advance config tree processing with
      | stop last ending => rw [iterate, step, run_of_stop step]
      | proceed next => exact absurd (stepsLeft_lt enough step) (by omega)
  | succ steps ih =>
      rw [iterate]
      cases step : advance config tree processing with
      | stop last ending => rw [run_of_stop step]
      | proceed next =>
          have fewer := stepsLeft_lt enough step
          rw [run_of_proceed step]
          exact ih next (by omega)

/-! ## The number of open files -/

/-- **No more files are open than the main one and one for each level.** -/
theorem Reaches.length_le {first reached : Processing} (reaches : Reaches config tree first reached)
    (starts : first.files.length ≤ includeLimit + 1) :
    reached.files.length ≤ includeLimit + 1 := by
  let withinLimit (processing : Processing) : Prop := processing.files.length ≤ includeLimit + 1
  refine (reaches.keeps starts ?_ : withinLimit reached)
  intro processing next within leads
  cases leads with
  | close ended closed => exact Nat.le_trans (Nat.le_succ _) within
  | next outcome => exact within
  | leave outcome => exact Nat.le_trans (Nat.le_succ _) within
  | enter outcome room content => exact Nat.succ_le_succ (Nat.succ_le_of_lt room)

/-! ## Where inclusion is refused -/

/-- A state whose next line, at a place, includes the file that a text names: the directive is
followed, and its argument can be read and has that text for its value. -/
inductive Includes (config : Config) : Processing → Location → String → Prop where
  | intro {session : Session} {path target : String} {number base : Nat} {line tail : List Char}
      {rest : List (List Char)} {outer : List OpenFile} {expr : Expr}
      (form : LineForm.ofLine config.allowBlanks line =
        .directive Directive.include.keyword tail)
      (active : session.isActive = true)
      (readable : Directive.readExpression tail = .ok expr)
      (answer : expr.eval (session.scope ⟨config, lineLocation path number line, base⟩) =
        .ok (.string target)) :
      Includes config ⟨⟨path, number, line :: rest, base⟩ :: outer, session⟩
        (lineLocation path number line) target

end Processing

/-- Where the argument can be read and has a text for its value, that is the path. -/
theorem Session.readPath_eq_ok {session : Session} {context : LineContext} {tail : List Char}
    {expr : Expr} {target : String} (readable : Directive.readExpression tail = .ok expr)
    (answer : expr.eval (session.scope context) = .ok (.string target)) :
    session.readPath context tail = .ok target := by
  rw [Session.readPath, Session.ofArgument, readable]
  show (session.evaluate context expr >>= _) = _
  rw [Session.evaluate, answer]
  rfl

namespace Processing

variable {config : Config} {tree : FileTree}

/-- A line that includes a file is processed by asking for that file. -/
theorem processLine_of_include {session : Session} {path target : String} {number base : Nat}
    {line tail : List Char} {expr : Expr}
    (form : LineForm.ofLine config.allowBlanks line = .directive Directive.include.keyword tail)
    (active : session.isActive = true) (readable : Directive.readExpression tail = .ok expr)
    (answer : expr.eval (session.scope ⟨config, lineLocation path number line, base⟩) =
      .ok (.string target)) :
    (session.processLine ⟨config, lineLocation path number line, base⟩ line).2 =
      .ok (.include target) := by
  have skipped : (session.skip config).scope ⟨config, lineLocation path number line, base⟩ =
      session.scope ⟨config, lineLocation path number line, base⟩ := by
    unfold Session.skip
    split <;> rfl
  let context : LineContext := ⟨config, lineLocation path number line, base⟩
  have here : LineForm.ofLine context.config.allowBlanks line =
      .directive Directive.include.keyword tail := form
  obtain ⟨traced, alike, nesting, outcome⟩ :=
    Session.processLine_of_directive session here (by rw [active, Bool.true_or])
  have scope := alike.scope config (lineLocation path number line) base base
  rw [skipped] at scope
  rw [← scope] at answer
  rw [outcome, Session.perform, Session.turn, Session.readPath_eq_ok readable answer]
  rfl

/-- **Inclusion is refused for its depth exactly where all levels are taken.** -/
theorem advance_of_includes {processing : Processing} {location : Location} {target : String}
    (includes : Includes config processing location target)
    (within : processing.files.length ≤ includeLimit + 1) :
    (∃ last, advance config tree processing =
        .stop last (.failed (.line location .includeDepth))) ↔
      processing.files.length = includeLimit + 1 := by
  cases includes with
  | @intro session path target number base line tail rest outer expr form active readable answer =>
      obtain ⟨after, outcome⟩ : ∃ after,
          session.processLine ⟨config, lineLocation path number line, base⟩ line =
            (after, .ok (.include target)) :=
        ⟨_, Prod.ext rfl (processLine_of_include form active readable answer)⟩
      simp only [advance_of_include outcome, includeFile, List.length_cons] at within ⊢
      by_cases deep : includeLimit < outer.length + 1
      · rw [if_pos deep]
        exact ⟨fun _ => by omega, fun _ => ⟨_, rfl⟩⟩
      · rw [if_neg deep]
        constructor
        · intro ⟨last, refused⟩
          split at refused <;> cases refused
        · intro full
          omega

end Processing

/-! ## Whole texts -/

namespace Config

/-- **The reading of a text ends, and never has more than sixty-five files open.**  Whatever files
include each other, the steps are bounded by the lines of the text and of the files; at every
moment at most sixty-five files are open; and a line that includes a file is refused for its depth
exactly where sixty-five are open already. -/
theorem reading_bounded (config : Config) (tree : FileTree) (globals : Layer)
    (providers : List Provider) (path text : String) :
    let start := Processing.start globals providers path text
    let lines := max (Text.lines text.toList).length tree.mostLines
    Processing.iterate config tree (Processing.mostSteps lines 65 + 1) start =
        .stop (start.run config tree).1 (start.run config tree).2 ∧
      ∀ reached : Processing, Processing.Reaches config tree start reached →
        reached.files.length ≤ 65 ∧
          ∀ (location : Location) (target : String), reached.Includes config location target →
            ((∃ last, reached.advance config tree =
                .stop last (.failed (.line location .includeDepth))) ↔
              reached.files.length = 65) := by
  intro start lines
  constructor
  · have enough : tree.mostLines ≤ lines := Nat.le_max_right _ _
    refine Processing.stopsWithin enough _ start ?_
    have opened : Processing.stepsLeft lines start.files ≤ Processing.mostSteps lines 65 + 0 :=
      Processing.stepsLeft_of_enter path 0 (Nat.le_max_left _ _) [] (Nat.zero_le _)
    exact opened
  · intro reached reaches
    have within : reached.files.length ≤ includeLimit + 1 :=
      reaches.length_le (Nat.succ_le_succ (Nat.zero_le _))
    exact ⟨within, fun location target includes =>
      Processing.advance_of_includes includes within⟩

end Config

/-- The tree with one file, in the folder of all folders. -/
def FileTree.ofFile (name content : String) : FileTree :=
  (FileTree.empty []).insert [] name (.file content.toUTF8 FileTree.newFileMode) rfl (.inr nofun)

/-- A text that includes the file which holds it. -/
def selfIncludingText : String := "//#include \"a.txt\""

/-- A tree with that file. -/
def selfIncludingTree : FileTree :=
  (FileTree.empty []).insert [] "a.txt" (.file selfIncludingText.toUTF8 FileTree.newFileMode) rfl
    (.inr nofun)

/-- The file is included for the first time where it is the only one that is open. -/
theorem Config.includes_selfIncluding :
    let start := Processing.start Layer.empty [] "a.txt" selfIncludingText
    let location : Location := ⟨"a.txt", 1, selfIncludingText⟩
    start.Includes {} location "a.txt" ∧
      ¬∃ last, start.advance {} selfIncludingTree =
        .stop last (.failed (.line location .includeDepth)) := by
  intro start location
  have read : start = ⟨[⟨"a.txt", 0, [selfIncludingText.toList], 0⟩],
      { globals := Layer.empty, providers := [] }⟩ := by cbv
  have includes : start.Includes {} location "a.txt" := by
    rw [read]
    have form : LineForm.ofLine false selfIncludingText.toList =
        .directive Directive.include.keyword " \"a.txt\"".toList := by decide
    have readable : Directive.readExpression " \"a.txt\"".toList =
        .ok (.literal (.string "a.txt") 0) := by cbv
    exact .intro form rfl readable rfl
  have bounded := (Config.reading_bounded {} selfIncludingTree Layer.empty [] "a.txt"
    selfIncludingText).2 start .refl
  refine ⟨includes, fun refused => ?_⟩
  have full : start.files.length = 65 := (bounded.2 location "a.txt" includes).mp refused
  rw [read] at full
  cases full

end CommentDirectives
