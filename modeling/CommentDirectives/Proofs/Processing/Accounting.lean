import CommentDirectives.Proofs.Processing.Bounds
import CommentDirectives.Proofs.Session.Effect

/-!
# How the lines of the output are accounted for

Where lines are kept, the output has one line for each line of the text, and for each file that is
included one for each of its lines that is read before the file is left
(`Config.lines_accounted`).  For a file that is left before its end, no empty lines are added, but
for the text itself they are.

The lines of included files are counted along the states that the reading comes to, for each
inclusion in turn (`Processing.inclusions`).  Together they are the states that read a line of an
included file (`Processing.sum_inclusions`), since such a state counts for the one inclusion on its
level that is under way.  These are also the lines that come on top of those of the text
(`Processing.size_of_run`).
-/

namespace CommentDirectives

set_option autoImplicit false

namespace Processing

variable {config : Config} {tree : FileTree}

/-! ## The states of a run -/

/-- The states that the reading of files comes to, from a given one on, in order. -/
def states (config : Config) (tree : FileTree) (processing : Processing) : List Processing :=
  processing ::
    match step config tree processing with
    | ⟨.stop _ _, _⟩ => []
    | ⟨.proceed next, _less⟩ => states config tree next
termination_by processing.rank
decreasing_by exact _less next rfl

theorem states_of_stop {processing last : Processing} {ending : Ending}
    (stops : advance config tree processing = .stop last ending) :
    states config tree processing = [processing] := by
  rw [states, step]
  split <;> simp_all

theorem states_of_proceed {processing next : Processing}
    (leads : advance config tree processing = .proceed next) :
    states config tree processing = processing :: states config tree next := by
  rw [states, step]
  split <;> simp_all

theorem exists_states (config : Config) (tree : FileTree) (processing : Processing) :
    ∃ later, states config tree processing = processing :: later := by
  rw [states]
  exact ⟨_, rfl⟩

/-! ## The lines of included files -/

/-- Whether a state reads a line of a file that was opened where so many files were open. -/
def readsAt (level : Nat) (processing : Processing) : Bool :=
  match processing.files with
  | [] => false
  | file :: outer => outer.length == level && !file.rest.isEmpty

/-- The lines that are read, from a state on, of the file that was opened where so many files were
open, until it is left. -/
def linesReadAt (level : Nat) (states : List Processing) : Nat :=
  (states.takeWhile fun state => level < state.files.length).countP (readsAt level)

/-- For each file that is included along some states, how many of its lines are read before it is
left.  A file is included where a state leads to one in which more files are open. -/
def inclusions : List Processing → List Nat
  | state :: next :: states =>
    if state.files.length < next.files.length then
      linesReadAt state.files.length (next :: states) :: inclusions (next :: states)
    else inclusions (next :: states)
  | _ => []

/-- Whether a state reads a line of a file that was included. -/
def readsIncluded (processing : Processing) : Bool :=
  match processing.files with
  | file :: _ :: _ => !file.rest.isEmpty
  | _ => false

theorem linesReadAt_cons (level : Nat) (state : Processing) (states : List Processing) :
    linesReadAt level (state :: states) =
      if level < state.files.length then
        (if readsAt level state then 1 else 0) + linesReadAt level states
      else 0 := by
  unfold linesReadAt
  by_cases within : level < state.files.length
  · rw [List.takeWhile_cons_of_pos (by simpa using within), List.countP_cons, if_pos within,
      Nat.add_comm]
  · rw [List.takeWhile_cons_of_neg (by simpa using within), if_neg within, List.countP_nil]

/-- A state that reads a line of an included file does so on one of the levels that are open. -/
theorem sum_readsAt (processing : Processing) :
    ∑ level ∈ Finset.Ico 1 processing.files.length, (if readsAt level processing then 1 else 0) =
      if readsIncluded processing then 1 else 0 := by
  obtain ⟨files, session⟩ := processing
  match files with
  | [] => rfl
  | [file] => rfl
  | ⟨path, number, [], base⟩ :: second :: outer => simp [readsAt, readsIncluded]
  | ⟨path, number, line :: rest, base⟩ :: second :: outer =>
      -- The one level that counts is that of the innermost file.
      simp [readsAt, readsIncluded]

/-- A step opens or closes one file at most, and is made where a file is open. -/
theorem length_of_transition {processing next : Processing}
    (leads : Transition config tree processing (.proceed next)) :
    1 ≤ processing.files.length ∧
      (next.files.length = processing.files.length ∨
        next.files.length + 1 = processing.files.length ∨
        next.files.length = processing.files.length + 1) := by
  cases leads with
  | close ended closed => exact ⟨Nat.succ_pos _, .inr (.inl rfl)⟩
  | next outcome => exact ⟨Nat.succ_pos _, .inl rfl⟩
  | leave outcome => exact ⟨Nat.succ_pos _, .inr (.inl rfl)⟩
  | enter outcome room content => exact ⟨Nat.succ_pos _, .inr (.inr rfl)⟩

/-- **The lines that are counted for inclusions are those that are read of included files.**  The
files that are open in the first state count as well, for what is left of them. -/
theorem sum_inclusions (config : Config) (tree : FileTree) (processing : Processing) :
    (inclusions (states config tree processing)).sum +
        ∑ level ∈ Finset.Ico 1 processing.files.length,
          linesReadAt level (states config tree processing) =
      (states config tree processing).countP readsIncluded := by
  induction processing using ofSteps config tree with
  | back processing ih =>
      have here (later : List Processing) :
          ∑ level ∈ Finset.Ico 1 processing.files.length, linesReadAt level (processing :: later) =
            (if readsIncluded processing then 1 else 0) +
              ∑ level ∈ Finset.Ico 1 processing.files.length, linesReadAt level later := by
        rw [← sum_readsAt, ← Finset.sum_add_distrib]
        refine Finset.sum_congr rfl fun level within => ?_
        rw [linesReadAt_cons, if_pos (Finset.mem_Ico.mp within).2]
      cases taken : advance config tree processing with
      | stop last ending =>
          have nothing (level : Nat) : linesReadAt level [] = 0 := rfl
          have included : inclusions [processing] = [] := rfl
          rw [states_of_stop taken, here, included, List.countP_singleton]
          simp [nothing]
      | proceed next =>
          obtain ⟨later, onward⟩ := exists_states config tree next
          have behind := ih next taken
          obtain ⟨isOpen, levels⟩ := length_of_transition (transition_of_proceed taken)
          rw [states_of_proceed taken, here, List.countP_cons, ← behind, onward]
          rcases levels with same | closed | opened
          · rw [inclusions, if_neg (by omega), same]
            omega
          · -- The file that is closed has no lines left to count.
            have none_ : linesReadAt next.files.length (next :: later) = 0 := by
              rw [linesReadAt_cons, if_neg (Nat.lt_irrefl _)]
            rw [inclusions, if_neg (by omega), ← closed]
            cases Nat.eq_zero_or_pos next.files.length with
            | inl empty => simp [empty]
            | inr pos =>
                have least : 1 ≤ next.files.length := pos
                rw [Finset.sum_Ico_succ_top least, none_]
                omega
          · -- The file that is opened is the one that the inclusion counts for.
            rw [inclusions, if_pos (by omega), List.sum_cons, opened, Finset.sum_Ico_succ_top isOpen]
            omega

/-! ## The output -/

/-- The lines of the outermost file that were not read yet. -/
def mainLinesLeft : List OpenFile → Nat
  | [] => 0
  | [file] => file.rest.length
  | _ :: second :: outer => mainLinesLeft (second :: outer)

section Kept

variable (kept : config.keepLines = true)
include kept

/-- **A step adds a line to the output for each line that it takes from the text, and one if it
reads a line of an included file.** -/
theorem size_of_transition {processing next : Processing}
    (leads : Transition config tree processing (.proceed next)) :
    next.session.output.size + mainLinesLeft next.files =
      processing.session.output.size + mainLinesLeft processing.files +
        if readsIncluded processing then 1 else 0 := by
  cases leads with
  | @close session file outer ended closed =>
      cases outer <;> simp [readsIncluded, mainLinesLeft, ended]
  | @next session after path number base line rest outer outcome =>
      have added := Session.size_of_processLine kept outcome
      cases outer <;> simp [readsIncluded, mainLinesLeft, added] <;> omega
  | @leave session after path number base line rest outer outcome =>
      have added := Session.size_of_processLine kept outcome
      have skipped := Session.size_skipLines kept
        { after with nesting := after.nesting.truncate base }
        (if outer.isEmpty then rest.length else 0)
      have left : (leaveFile config after ⟨path, number + 1, rest, base⟩
          outer).session.output.size = after.output.size +
            if outer.isEmpty then rest.length else 0 := skipped
      rw [left]
      cases outer <;> simp [leaveFile, readsIncluded, mainLinesLeft, added] <;> omega
  | @enter session after path target text number base line rest outer outcome room content =>
      have added := Session.size_of_processLine kept outcome
      cases outer <;> simp [readsIncluded, mainLinesLeft, Session.report, added] <;> omega

/-- **A run that reads all lines adds a line to the output for each line of the text, and one for
each line of an included file that it reads.** -/
theorem size_of_run {processing last : Processing}
    (ran : processing.run config tree = (last, .complete)) :
    last.session.output.size =
      processing.session.output.size + mainLinesLeft processing.files +
        (states config tree processing).countP readsIncluded := by
  induction processing using ofSteps config tree with
  | back processing ih =>
      cases taken : advance config tree processing with
      | stop stopped ending =>
          rw [run_of_stop taken] at ran
          cases ran
          rw [states_of_stop taken]
          cases transition_of_stop taken with
          | complete session => rfl
      | proceed next =>
          rw [run_of_proceed taken] at ran
          have added := size_of_transition kept (transition_of_proceed taken)
          rw [ih next taken ran, added, states_of_proceed taken, List.countP_cons]
          omega

end Kept

end Processing

namespace Config

/-- **Every line is accounted for.**  Where lines are kept and a text has an output, the lines of
the output are put together to that, and there is one for each line of the text and, for each file
that is included, one for each of its lines that is read before the file ends or is left.  So
without inclusions there is exactly one line of the output for each line of the text. -/
theorem lines_accounted {config : Config} (kept : config.keepLines = true) (tree : FileTree)
    (globals : Layer) (providers : List Provider) (path text : String) {output : String}
    (ended : (config.processText tree globals providers path text).outcome =
      .ok (.text output)) :
    let lines := Text.lines text.toList
    let inclusions := Processing.inclusions
      (Processing.states config tree (Processing.start globals providers path text))
    let written := (config.processText tree globals providers path text).session.output
    output = FileResult.render config text written.toList ∧
      written.size = lines.length + inclusions.sum ∧
      (inclusions = [] → written.size = lines.length) := by
  intro lines inclusions written
  let start := Processing.start globals providers path text
  obtain ⟨last, ending, ran⟩ : ∃ last ending, start.run config tree = (last, ending) :=
    ⟨_, _, rfl⟩
  have result : config.processText tree globals providers path text =
      FileResult.ofEnding config text last.session ending := by
    rw [processText, ran]
  rw [result] at ended
  cases ending with
  | excluded | failed cause => cases ended
  | complete =>
      have same : written = last.session.output := by
        unfold written
        rw [result, FileResult.ofEnding, FileResult.reportOpenComment]
        split
        · split <;> rfl
        · rfl
      have counted := Processing.size_of_run kept ran
      have included := Processing.sum_inclusions config tree start
      have total : written.size = lines.length + inclusions.sum := by
        rw [same, counted, ← included]
        have empty : start.session.output.size = 0 := rfl
        have unread : Processing.mainLinesLeft start.files = lines.length := rfl
        have alone : Finset.Ico 1 start.files.length = ∅ := rfl
        rw [empty, unread, alone, Finset.sum_empty, Nat.zero_add, Nat.add_zero]
      refine ⟨?_, total, fun none_ => ?_⟩
      · cases ended
        rw [same]
      · rw [total, none_, List.sum_nil, Nat.add_zero]

/-- A text that includes a file and is left before its end. -/
def leftText : String :=
  "//#include \"b.txt\"\nz\n//#" ++ Directive.exit.keyword ++ "\nunread"

/-- A tree with that file, which is left before its end as well. -/
def leftTree : FileTree := .ofFile "b.txt" ("x\n//#" ++ Directive.exit.keyword ++ "\ny")

/-- Two lines of the included file are read, and the text has four. -/
theorem lines_accounted_leftText :
    let config : Config := { keepLines := true }
    let start := Processing.start Layer.empty [] "a.txt" leftText
    let result := config.processText leftTree Layer.empty [] "a.txt" leftText
    config.keepLines = true ∧ result.outcome = .ok (.text "\nx\n\nz\n\n\n") ∧
      Processing.inclusions (Processing.states config leftTree start) = [2] ∧
      result.session.output.size = 4 + [2].sum := by
  intro config start result
  have ended : result.outcome = .ok (.text "\nx\n\nz\n\n\n") := by
    unfold result config
    cbv
  have included : Processing.inclusions (Processing.states config leftTree start) = [2] := by
    unfold start config
    cbv
  have kept : config.keepLines = true := rfl
  have accounted := lines_accounted kept leftTree Layer.empty [] "a.txt" leftText ended
  have lines : (Text.lines leftText.toList).length = 4 := by decide
  have written := accounted.2.1
  rw [included, lines] at written
  exact ⟨kept, ended, included, written⟩

end Config

end CommentDirectives
