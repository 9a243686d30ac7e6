import CommentDirectives.Proofs.Processing.Steps

/-!
# Transitions of the reading of files

A step of the reading of files ends a file, or reads a line and does what the outcome of the line
asks for.  The relation `Processing.Transition` lists the kinds of steps, each with what it needs
and with what it leads to, and every step is of one of these kinds (`Processing.transition`).  So a
property of states is followed through a run by cases on the kind of step, and the functions that
make up a step need not be opened again.
-/

namespace CommentDirectives

set_option autoImplicit false

namespace Processing

/-- What a step leads to, by its kind. -/
inductive Transition (config : Config) (tree : FileTree) : Processing → Step → Prop where
  /-- No file is open any more. -/
  | complete (session : Session) :
      Transition config tree ⟨[], session⟩ (.stop ⟨[], session⟩ .complete)
  /-- A file comes to its end and has closed all its blocks. -/
  | close {session : Session} {file : OpenFile} {outer : List OpenFile} (ended : file.rest = [])
      (closed : session.nesting.depth ≤ file.baseDepth) :
      Transition config tree ⟨file :: outer, session⟩ (.proceed ⟨outer, session⟩)
  /-- A file comes to its end with a block open. -/
  | unclosed {session : Session} {file : OpenFile} {outer : List OpenFile} {frame : Frame}
      (ended : file.rest = []) (innermost : session.nesting.innermost? = some frame)
      (opened : file.baseDepth < session.nesting.depth) :
      Transition config tree ⟨file :: outer, session⟩
        (.stop ⟨outer, session⟩ (.failed (.line frame.opened (.unbalanced .unclosed))))
  /-- A line fails. -/
  | failed {session after : Session} {path : String} {number base : Nat} {line : List Char}
      {rest : List (List Char)} {outer : List OpenFile} {cause : LineError}
      (outcome : session.processLine ⟨config, lineLocation path number line, base⟩ line =
        (after, .error cause)) :
      Transition config tree ⟨⟨path, number, line :: rest, base⟩ :: outer, session⟩
        (.stop ⟨⟨path, number + 1, rest, base⟩ :: outer, after⟩
          (.failed (.line (lineLocation path number line) cause)))
  /-- The next line follows. -/
  | next {session after : Session} {path : String} {number base : Nat} {line : List Char}
      {rest : List (List Char)} {outer : List OpenFile}
      (outcome : session.processLine ⟨config, lineLocation path number line, base⟩ line =
        (after, .ok .next)) :
      Transition config tree ⟨⟨path, number, line :: rest, base⟩ :: outer, session⟩
        (.proceed ⟨⟨path, number + 1, rest, base⟩ :: outer, after⟩)
  /-- A line leaves its file. -/
  | leave {session after : Session} {path : String} {number base : Nat} {line : List Char}
      {rest : List (List Char)} {outer : List OpenFile}
      (outcome : session.processLine ⟨config, lineLocation path number line, base⟩ line =
        (after, .ok .leaveFile)) :
      Transition config tree ⟨⟨path, number, line :: rest, base⟩ :: outer, session⟩
        (.proceed (leaveFile config after ⟨path, number + 1, rest, base⟩ outer))
  /-- A line excludes the file. -/
  | exclude {session after : Session} {path : String} {number base : Nat} {line : List Char}
      {rest : List (List Char)} {outer : List OpenFile}
      (outcome : session.processLine ⟨config, lineLocation path number line, base⟩ line =
        (after, .ok .excludeFile)) :
      Transition config tree ⟨⟨path, number, line :: rest, base⟩ :: outer, session⟩
        (.stop ⟨⟨path, number + 1, rest, base⟩ :: outer,
          after.report .debug "file excluded" [("file", path)]⟩ .excluded)
  /-- A line includes a file where too many are open. -/
  | tooDeep {session after : Session} {path target : String} {number base : Nat} {line : List Char}
      {rest : List (List Char)} {outer : List OpenFile}
      (outcome : session.processLine ⟨config, lineLocation path number line, base⟩ line =
        (after, .ok (.include target)))
      (deep : includeLimit ≤ outer.length) :
      Transition config tree ⟨⟨path, number, line :: rest, base⟩ :: outer, session⟩
        (.stop ⟨⟨path, number + 1, rest, base⟩ :: outer, after⟩
          (.failed (.line (lineLocation path number line) .includeDepth)))
  /-- A line includes a file that cannot be read. -/
  | unreadable {session after : Session} {path target : String} {number base : Nat}
      {line : List Char} {rest : List (List Char)} {outer : List OpenFile} {cause : FileError}
      (outcome : session.processLine ⟨config, lineLocation path number line, base⟩ line =
        (after, .ok (.include target)))
      (room : outer.length < includeLimit)
      (content : tree.readText (includedPath path target) = .error cause) :
      Transition config tree ⟨⟨path, number, line :: rest, base⟩ :: outer, session⟩
        (.stop ⟨⟨path, number + 1, rest, base⟩ :: outer, after⟩
          (.failed (.line (lineLocation path number line)
            (.include (includedPath path target) cause))))
  /-- A line includes a file. -/
  | enter {session after : Session} {path target text : String} {number base : Nat}
      {line : List Char} {rest : List (List Char)} {outer : List OpenFile}
      (outcome : session.processLine ⟨config, lineLocation path number line, base⟩ line =
        (after, .ok (.include target)))
      (room : outer.length < includeLimit)
      (content : tree.readText (includedPath path target) = .ok text) :
      Transition config tree ⟨⟨path, number, line :: rest, base⟩ :: outer, session⟩
        (.proceed
          ⟨OpenFile.ofText (includedPath path target) text after.nesting.depth ::
              ⟨path, number + 1, rest, base⟩ :: outer,
            after.report .debug "include" [("file", includedPath path target),
              ("depth", toString (outer.length + 1))]⟩)

variable {config : Config} {tree : FileTree}

/-- The end of a file. -/
theorem transition_endFile {session : Session} {file : OpenFile} {outer : List OpenFile}
    (ended : file.rest = []) :
    Transition config tree ⟨file :: outer, session⟩ (endFile session file outer) := by
  unfold endFile
  cases innermost : session.nesting.innermost? with
  | none =>
      have empty : session.nesting.frames = [] := List.head?_eq_none_iff.mp innermost
      have closed : session.nesting.depth ≤ file.baseDepth := by
        rw [Nesting.depth, empty]
        exact Nat.zero_le _
      exact .close ended closed
  | some frame =>
      by_cases opened : file.baseDepth < session.nesting.depth
      · simp only [if_pos opened]
        exact .unclosed ended innermost opened
      · simp only [if_neg opened]
        exact .close ended (Nat.le_of_not_lt opened)

/-- The inclusion of a file at a line. -/
theorem transition_includeFile {session after : Session} {path target : String} {number base : Nat}
    {line : List Char} {rest : List (List Char)} {outer : List OpenFile}
    (outcome : session.processLine ⟨config, lineLocation path number line, base⟩ line =
      (after, .ok (.include target))) :
    Transition config tree ⟨⟨path, number, line :: rest, base⟩ :: outer, session⟩
      (includeFile tree after (lineLocation path number line)
        (⟨path, number + 1, rest, base⟩ :: outer) target) := by
  unfold includeFile
  by_cases deep : includeLimit < outer.length + 1
  · simp only [List.length_cons, if_pos deep]
    exact .tooDeep outcome (Nat.le_of_lt_succ deep)
  · have room : outer.length < includeLimit := Nat.lt_of_succ_le (Nat.le_of_not_lt deep)
    simp only [List.length_cons, if_neg deep]
    cases content : tree.readText (includedPath path target) with
    | error cause =>
        simp only [lineLocation, content]
        exact .unreadable outcome room content
    | ok text =>
        simp only [lineLocation, content]
        exact .enter outcome room content

/-- **Every step is of one of the kinds.** -/
theorem transition (config : Config) (tree : FileTree) (processing : Processing) :
    Transition config tree processing (advance config tree processing) := by
  obtain ⟨files, session⟩ := processing
  cases files with
  | nil => exact .complete session
  | cons file outer =>
      obtain ⟨path, number, lines, base⟩ := file
      cases lines with
      | nil => exact transition_endFile rfl
      | cons line rest =>
          obtain ⟨after, result, outcome⟩ : ∃ after result,
            session.processLine ⟨config, lineLocation path number line, base⟩ line =
              (after, result) := ⟨_, _, rfl⟩
          have read := outcome
          rw [lineLocation] at read
          simp only [advance, readLine, read]
          cases result with
          | error cause => exact .failed outcome
          | ok flow =>
              cases flow with
              | next => exact .next outcome
              | leaveFile => exact .leave outcome
              | excludeFile => exact .exclude outcome
              | «include» target => exact transition_includeFile outcome

/-- A step that leads on is of a kind that leads on. -/
theorem transition_of_proceed {processing next : Processing}
    (leads : advance config tree processing = .proceed next) :
    Transition config tree processing (.proceed next) :=
  leads ▸ transition config tree processing

/-- A step that stops is of a kind that stops. -/
theorem transition_of_stop {processing last : Processing} {ending : Ending}
    (stops : advance config tree processing = .stop last ending) :
    Transition config tree processing (.stop last ending) :=
  stops ▸ transition config tree processing

/-- **What every step keeps holds in every state that is reached.** -/
theorem Reaches.keeps {property : Processing → Prop} {first reached : Processing}
    (reaches : Reaches config tree first reached) (starts : property first)
    (keeps : ∀ processing next, property processing →
      Transition config tree processing (.proceed next) → property next) : property reached := by
  induction reaches with
  | refl => exact starts
  | tail _ leads ih => exact keeps _ _ ih (transition_of_proceed leads)

/-- A run goes on in the same way from every state that it reaches. -/
theorem Reaches.run_eq {first reached : Processing} (reaches : Reaches config tree first reached) :
    first.run config tree = reached.run config tree := by
  induction reaches with
  | refl => rfl
  | tail _ leads ih => exact ih.trans (run_of_proceed leads)

/-- A run ends with the step behind some state that is reached. -/
theorem exists_last_step (config : Config) (tree : FileTree) (first : Processing) :
    ∃ reached, Reaches config tree first reached ∧
      advance config tree reached =
        .stop (first.run config tree).1 (first.run config tree).2 := by
  induction first using ofSteps config tree with
  | back first ih =>
      cases step : advance config tree first with
      | stop last ending =>
          rw [run_of_stop step]
          exact ⟨first, .refl, step⟩
      | proceed next =>
          obtain ⟨reached, reaches, stops⟩ := ih next step
          rw [run_of_proceed step]
          exact ⟨reached, .head step reaches, stops⟩

end Processing

/-- A text that fails has come to a step that fails, and leaves the session of that step behind. -/
theorem Config.exists_step_of_error {config : Config} {tree : FileTree} {globals : Layer}
    {providers : List Provider} {path text : String} {cause : RunError}
    (failed : (config.processText tree globals providers path text).outcome = .error cause) :
    ∃ reached last : Processing,
      Processing.Reaches config tree (Processing.start globals providers path text) reached ∧
      reached.advance config tree = .stop last (.failed cause) ∧
      (config.processText tree globals providers path text).session = last.session := by
  obtain ⟨reached, reaches, stops⟩ :=
    Processing.exists_last_step config tree (Processing.start globals providers path text)
  obtain ⟨last, ending, ran⟩ : ∃ last ending,
    (Processing.start globals providers path text).run config tree = (last, ending) := ⟨_, _, rfl⟩
  simp only [processText, ran] at failed stops ⊢
  cases ending with
  | complete | excluded => cases failed
  | failed found =>
      cases failed
      exact ⟨reached, last, reaches, stops, rfl⟩

end CommentDirectives
