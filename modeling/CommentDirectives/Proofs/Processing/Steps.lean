import CommentDirectives.Proofs.Session.Alike
import CommentDirectives.Processing.Run
import Mathlib

/-!
# Steps of the reading of files

What a single step does, by the outcome of the line that it reads, and how a run
goes on behind it.  A state is reached when finitely many steps lead to it
(`Processing.Reaches`); a property of states that passes from what a step leads
on to back to the state in front of it holds of all states (`Processing.ofSteps`).

Two runs are followed side by side: what their steps keep relates what they leave
(`Processing.run_abreast`).

Files whose reading ended in the same way have alike results when the sessions in
which it ended are alike (`FileResult.alike_ofEnding`).
-/

namespace CommentDirectives

set_option autoImplicit false

/-- The session to which a step leads, or in which it stops. -/
def Step.session : Step → Session
  | .proceed next => next.session
  | .stop last _ => last.session

namespace Processing

variable {config : Config} {tree : FileTree}

/-! ## Steps and runs -/

/-- A state to which finitely many steps lead. -/
abbrev Reaches (config : Config) (tree : FileTree) : Processing → Processing → Prop :=
  Relation.ReflTransGen fun processing next => advance config tree processing = .proceed next

theorem run_of_proceed {processing next : Processing}
    (leads : advance config tree processing = .proceed next) :
    run config tree processing = run config tree next := by
  rw [run_eq, leads]

theorem run_of_stop {processing last : Processing} {ending : Ending}
    (stops : advance config tree processing = .stop last ending) :
    run config tree processing = (last, ending) := by
  rw [run_eq, stops]

/-- A state that is reached is the present one or is reached from the next one. -/
theorem Reaches.of_proceed {processing next reached : Processing}
    (reaches : Reaches config tree processing reached)
    (leads : advance config tree processing = .proceed next) :
    reached = processing ∨ Reaches config tree next reached := by
  rcases Relation.ReflTransGen.cases_head reaches with here | ⟨next', leads', onward⟩
  · exact .inl here.symm
  · obtain rfl : next = next' := Step.proceed.inj (leads.symm.trans leads')
    exact .inr onward

/-- Behind a step that stops, no other state is reached. -/
theorem Reaches.of_stop {processing last reached : Processing} {ending : Ending}
    (reaches : Reaches config tree processing reached)
    (stops : advance config tree processing = .stop last ending) : reached = processing := by
  rcases Relation.ReflTransGen.cases_head reaches with here | ⟨next, leads, _⟩
  · exact here.symm
  · cases stops.symm.trans leads

/-- Of two states that are reached, one is reached from the other. -/
theorem Reaches.total {first left right : Processing} (reaches : Reaches config tree first left)
    (reaches' : Reaches config tree first right) :
    Reaches config tree left right ∨ Reaches config tree right left :=
  Relation.ReflTransGen.total_of_right_unique
    (fun _ _ _ leads leads' => Step.proceed.inj (leads.symm.trans leads')) reaches reaches'

/-- A property of states that passes from what a step leads on to back to the state in front of
the step. -/
theorem ofSteps (config : Config) (tree : FileTree) {property : Processing → Prop}
    (back : ∀ processing, (∀ next, advance config tree processing = .proceed next →
      property next) → property processing) (processing : Processing) : property processing := by
  have founded : WellFounded Before := InvImage.wf rank (Rank.order includeLimit).wf
  induction processing using founded.induction with
  | _ processing ih => exact back processing fun next leads => ih next (before_of_advance leads)

/-! ## Two runs side by side -/

/-- Steps of two runs that stay side by side: both lead on to related states, both stop and what
they leave fits, or the first one stops and what it leaves fits whatever the second one does. -/
inductive Abreast (related : Processing → Processing → Prop)
    (fits : Processing × Ending → Processing × Ending → Prop) : Step → Step → Prop where
  | proceed {next next' : Processing} (onward : related next next') :
      Abreast related fits (.proceed next) (.proceed next')
  | stop {last last' : Processing} {ending ending' : Ending}
      (ended : fits (last, ending) (last', ending')) :
      Abreast related fits (.stop last ending) (.stop last' ending')
  | decided {last : Processing} {ending : Ending} (step : Step)
      (ended : ∀ result, fits (last, ending) result) :
      Abreast related fits (.stop last ending) step

/-- Equal steps lead on to equal states or leave the same. -/
theorem Abreast.same {fits : Processing × Ending → Processing × Ending → Prop}
    (refl : ∀ result, fits result result) (step : Step) : Abreast Eq fits step step := by
  cases step with
  | stop last ending => exact .stop (refl _)
  | proceed next => exact .proceed rfl

/-- **What two runs leave fits** if their steps stay side by side, from each state that is reached in
the first run on. -/
theorem run_abreast {config' : Config} {tree' : FileTree}
    (related : Processing → Processing → Prop)
    (fits : Processing × Ending → Processing × Ending → Prop) {first first' : Processing}
    (steps : ∀ left right, Reaches config tree first left → related left right →
      Abreast related fits (advance config tree left) (advance config' tree' right))
    (start : related first first') :
    fits (run config tree first) (run config' tree' first') := by
  suffices onward : ∀ left, Reaches config tree first left → ∀ right, related left right →
      fits (run config tree left) (run config' tree' right) from onward first .refl first' start
  intro left
  induction left using ofSteps config tree with
  | back left ih =>
      intro reached right start
      have abreast := steps left right reached start
      obtain ⟨step, stepped⟩ : ∃ step, advance config tree left = step := ⟨_, rfl⟩
      obtain ⟨step', stepped'⟩ : ∃ step, advance config' tree' right = step := ⟨_, rfl⟩
      rw [stepped, stepped'] at abreast
      rw [run_eq config tree left, run_eq config' tree' right, stepped, stepped']
      cases abreast with
      | proceed onward => exact ih _ stepped (reached.tail stepped) _ onward
      | stop ended => exact ended
      | decided step ended => exact ended _

/-! ## Reading a line -/

section Line

variable {session session' : Session} {path : String} {number base : Nat} {line : List Char}
  {rest : List (List Char)} {outer : List OpenFile}

/-- The place of the next line of a file. -/
def lineLocation (path : String) (number : Nat) (line : List Char) : Location :=
  ⟨path, number + 1, String.ofList line⟩

/-- Behind a line that the next line follows, the run goes on with that one. -/
theorem run_of_next
    (outcome : session.processLine ⟨config, lineLocation path number line, base⟩ line =
      (session', .ok .next)) :
    run config tree ⟨⟨path, number, line :: rest, base⟩ :: outer, session⟩ =
      run config tree ⟨⟨path, number + 1, rest, base⟩ :: outer, session'⟩ := by
  refine run_of_proceed ?_
  rw [lineLocation] at outcome
  simp only [advance, readLine, outcome]

/-- A line that fails ends the run. -/
theorem run_of_error {cause : LineError}
    (outcome : session.processLine ⟨config, lineLocation path number line, base⟩ line =
      (session', .error cause)) :
    run config tree ⟨⟨path, number, line :: rest, base⟩ :: outer, session⟩ =
      (⟨⟨path, number + 1, rest, base⟩ :: outer, session'⟩,
        .failed (.line (lineLocation path number line) cause)) := by
  refine run_of_stop ?_
  rw [lineLocation] at outcome
  simp only [advance, readLine, outcome, lineLocation]

/-- Behind a line that leaves its file, the run goes on in the file that includes it. -/
theorem run_of_leaveFile
    (outcome : session.processLine ⟨config, lineLocation path number line, base⟩ line =
      (session', .ok .leaveFile)) :
    run config tree ⟨⟨path, number, line :: rest, base⟩ :: outer, session⟩ =
      run config tree (leaveFile config session' ⟨path, number + 1, rest, base⟩ outer) := by
  refine run_of_proceed ?_
  rw [lineLocation] at outcome
  simp only [advance, readLine, outcome]

/-- A line that excludes the file ends the run. -/
theorem run_of_excludeFile
    (outcome : session.processLine ⟨config, lineLocation path number line, base⟩ line =
      (session', .ok .excludeFile)) :
    run config tree ⟨⟨path, number, line :: rest, base⟩ :: outer, session⟩ =
      (⟨⟨path, number + 1, rest, base⟩ :: outer,
        session'.report .debug "file excluded" [("file", path)]⟩, .excluded) := by
  refine run_of_stop ?_
  rw [lineLocation] at outcome
  simp only [advance, readLine, outcome]

/-- A line that includes a file, by what that leads to. -/
theorem advance_of_include {target : String}
    (outcome : session.processLine ⟨config, lineLocation path number line, base⟩ line =
      (session', .ok (.include target))) :
    advance config tree ⟨⟨path, number, line :: rest, base⟩ :: outer, session⟩ =
      includeFile tree session' (lineLocation path number line)
        (⟨path, number + 1, rest, base⟩ :: outer) target := by
  rw [lineLocation] at outcome
  simp only [advance, readLine, outcome, lineLocation]

end Line

/-- Behind the last line of the only file, where no block is open, all lines were read. -/
theorem run_of_complete {session : Session} {file : OpenFile} (ended : file.rest = [])
    (closed : session.nesting = Nesting.empty) :
    run config tree ⟨[file], session⟩ = (⟨[], session⟩, .complete) := by
  have leaves : advance config tree ⟨[file], session⟩ = .proceed ⟨[], session⟩ := by
    simp only [advance, ended, endFile, closed]
    rfl
  rw [run_of_proceed leaves]
  exact run_of_stop rfl

end Processing

namespace FileResult

/-! ## Results that are alike -/

/-- Two results with the same outcome, and with sessions that are alike. -/
structure Alike (left right : FileResult) : Prop where
  outcome : left.outcome = right.outcome
  session : left.session.Alike right.session

/-- Files whose reading ended in the same way, with sessions that are alike, have alike results. -/
theorem alike_ofEnding (config : Config) (source : String) {left right : Session}
    (alike : left.Alike right) (ending : Ending) :
    Alike (ofEnding config source left ending) (ofEnding config source right ending) := by
  cases ending with
  | complete =>
      refine ⟨by simp only [ofEnding, alike.output], ?_⟩
      simp only [ofEnding, reportOpenComment, alike.commentOpened, alike.inBlock]
      split
      · split
        · exact (alike.regardless.report .warning _ _).toAlike
        · exact alike
      · exact alike
  | excluded => exact ⟨rfl, alike⟩
  | failed cause => exact ⟨rfl, alike⟩

end FileResult

end CommentDirectives
