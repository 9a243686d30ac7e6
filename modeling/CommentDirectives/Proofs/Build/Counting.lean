import CommentDirectives.Proofs.Build.Visits

/-!
# What the summary of a run tells of its files

The counts of a summary never go down (`Build.Walk.grows`), and every file that is visited adds one
to the count of what became of it.  So a run that returns a summary without failures has treated
every file that it visited (`Build.treated_of_run`), and a run that counts no file as processed or
copied has left all of them alone (`Build.left_alone_of_run`).
-/

namespace CommentDirectives

set_option autoImplicit false

/-- How many files were put into the destination or found there. -/
def Summary.delivered (summary : Summary) : Nat :=
  summary.processed + summary.copied + summary.unchanged

/-- A summary that counts at most as much as another of every fate. -/
structure Summary.Below (before after : Summary) : Prop where
  processed : before.processed ≤ after.processed
  copied : before.copied ≤ after.copied
  unchanged : before.unchanged ≤ after.unchanged
  excluded : before.excluded ≤ after.excluded
  failed : before.failed ≤ after.failed

namespace Summary.Below

theorem refl (summary : Summary) : summary.Below summary :=
  ⟨le_rfl, le_rfl, le_rfl, le_rfl, le_rfl⟩

theorem trans {first second third : Summary} (front : first.Below second)
    (back : second.Below third) : first.Below third :=
  ⟨front.processed.trans back.processed, front.copied.trans back.copied,
    front.unchanged.trans back.unchanged, front.excluded.trans back.excluded,
    front.failed.trans back.failed⟩

theorem record (summary : Summary) (treatment : Treatment) :
    summary.Below (summary.record treatment) := by
  cases treatment <;> constructor <;> simp [Summary.record]

end Summary.Below

namespace Build

variable {config : Config} {build : Build} {tree : FileTree} {summary : Summary}

/-! ## Single files -/

/-- A file that is treated adds one to the count of its treatment. -/
theorem outcome_of_treated {visit : Visit} {treatment : Treatment}
    (treated : (treat config visit.state visit.file).2 = .ok treatment) :
    outcome config visit =
      ({ (treat config visit.state visit.file).1 with
        summary := visit.state.summary.record treatment }, .ok ()) := by
  have kept := (treat_keeps config visit.state visit.file).2.2
  unfold outcome
  rw [treatAll]
  cases done : treat config visit.state visit.file with
  | mk next result =>
      rw [done] at treated kept
      obtain rfl : result = .ok treatment := treated
      rw [← kept]
      rfl

/-- A file that fails ends the run or adds one to the failures. -/
theorem outcome_of_failed {visit : Visit} {cause : RunError}
    (failed : (treat config visit.state visit.file).2 = .error cause) :
    (outcome config visit).2 = .error cause ∨
      (outcome config visit).1.summary =
        { visit.state.summary with failed := visit.state.summary.failed + 1 } := by
  have kept := (treat_keeps config visit.state visit.file).2.2
  unfold outcome
  rw [treatAll]
  cases done : treat config visit.state visit.file with
  | mk next result =>
      rw [done] at failed kept
      obtain rfl : result = .error cause := failed
      dsimp only at kept ⊢
      split
      · rw [← kept]
        exact .inr rfl
      · exact .inl rfl

theorem below_outcome (config : Config) (visit : Visit) :
    visit.state.summary.Below (outcome config visit).1.summary := by
  have kept := (treat_keeps config visit.state visit.file).2.2
  unfold outcome
  rw [treatAll]
  split
  · next next treatment done =>
    rw [done] at kept
    dsimp only at kept ⊢
    rw [treatAll, ← kept]
    exact .record _ _
  · next next cause done =>
    rw [done] at kept
    dsimp only at kept ⊢
    split
    · rw [treatAll, ← kept]
      exact ⟨le_rfl, le_rfl, le_rfl, le_rfl, Nat.le_succ _⟩
    · rw [← kept]
      exact .refl _

/-- **The counts of a run never go down.** -/
theorem Walk.grows {before after : BuildState} {visits : List Visit}
    (walk : Walk config before visits after) : before.summary.Below after.summary := by
  induction visits generalizing before with
  | nil =>
      rw [BuildState.Alike.summary walk]
      exact .refl _
  | cons visit later ih =>
      have here := below_outcome config visit
      rw [walk.1.summary] at here
      exact here.trans (ih walk.2)

/-- What a visit counts is counted behind the whole walk. -/
theorem Walk.below_of_mem {before after : BuildState} {visits : List Visit}
    (walk : Walk config before visits after) {visit : Visit} (inside : visit ∈ visits) :
    (outcome config visit).1.summary.Below after.summary := by
  obtain ⟨earlier, later, rfl⟩ := List.append_of_mem inside
  obtain ⟨_, _, _, behind⟩ := walk.split
  exact behind.grows

/-! ## Runs that return a summary -/

theorem ok_of_treatAll {state : BuildState} {files : List SourceFile}
    (ended : (treatAll config state files).2 = .ok ()) :
    ∀ visit ∈ visitsAmong config state files, (outcome config visit).2 = .ok () := by
  induction files generalizing state with
  | nil => exact fun _ inside => absurd inside List.not_mem_nil
  | cons file rest ih =>
      rw [treatAll_cons config state file rest] at ended
      rw [visitsAmong]
      cases first : treatAll config state [file] with
      | mk next result =>
          rw [first] at ended
          cases result with
          | error cause => cases ended
          | ok done =>
              refine List.forall_mem_cons.mpr ⟨?_, ih ended⟩
              rw [outcome, first]

theorem ok_of_treatRoot {turn : Turn} (ended : (treatRoot build turn.state turn.root).2 = .ok ()) :
    ∀ visit ∈ visitsAt build turn, (outcome build.config visit).2 = .ok () := by
  rw [treatRoot_eq] at ended
  unfold visitsAt
  split
  · next there =>
    rw [if_pos there] at ended
    exact ok_of_treatAll ended
  · exact fun _ inside => absurd inside List.not_mem_nil

/-- Roots of which none ends the run are all come to. -/
theorem turns_of_treatRoots {state : BuildState} {roots : List String}
    (ended : (treatRoots build state roots).2 = .ok ()) :
    (turnsAmong build state roots).map (fun turn => turn.root) = roots ∧
      ∀ turn ∈ turnsAmong build state roots, (treatRoot build turn.state turn.root).2 = .ok () := by
  induction roots generalizing state with
  | nil => exact ⟨rfl, fun _ inside => absurd inside List.not_mem_nil⟩
  | cons root rest ih =>
      rw [treatRoots] at ended
      rw [turnsAmong, List.map_cons]
      cases first : treatRoot build state root with
      | mk next result =>
          rw [first] at ended
          cases result with
          | error cause => cases ended
          | ok done =>
              obtain ⟨roots, others⟩ := ih ended
              refine ⟨congrArg (root :: ·) roots, List.forall_mem_cons.mpr ⟨?_, others⟩⟩
              dsimp only
              rw [first]

/-- A run that returns a summary has opened. -/
theorem opened_of_run (ran : (run build tree).2 = .ok summary) :
    (opening build tree).2 = .ok () := by
  rw [run_eq] at ran
  cases opened : opening build tree with
  | mk state result =>
      rw [opened] at ran
      cases result with
      | error cause => cases ran
      | ok done => rfl

/-- A run that returns a summary has come to all its roots, and was ended by none. -/
theorem turns_of_run (ran : (run build tree).2 = .ok summary) :
    (turns build tree).map (fun turn => turn.root) = build.config.sources ∧
      ∀ turn ∈ turns build tree, (treatRoot build turn.state turn.root).2 = .ok () := by
  rw [run_eq] at ran
  unfold turns
  cases opened : opening build tree with
  | mk state result =>
      rw [opened] at ran
      cases result with
      | error cause => cases ran
      | ok done =>
          dsimp only at ran ⊢
          refine turns_of_treatRoots ?_
          split at ran
          · cases ran
          · next treated => rw [treated]

/-- A run that returns a summary was ended by no file. -/
theorem ok_of_run (ran : (run build tree).2 = .ok summary) :
    ∀ visit ∈ visits build tree, (outcome build.config visit).2 = .ok () := by
  intro visit inside
  obtain ⟨turn, come, at_⟩ := List.mem_flatMap.mp inside
  exact ok_of_treatRoot ((turns_of_run ran).2 turn come) visit at_

/-- What a run returns is its summary. -/
theorem summary_of_run (ran : (run build tree).2 = .ok summary) :
    (run build tree).1.summary = summary := by
  rw [run_eq] at ran ⊢
  cases opened : opening build tree with
  | mk state result =>
      rw [opened] at ran
      cases result with
      | error cause => cases ran
      | ok done =>
          dsimp only at ran ⊢
          split at ran
          · cases ran
          · cases ran
            rfl

/-- A run that does not fail returns its summary. -/
theorem ran_of_isOk (ends : (run build tree).2.isOk = true) :
    (run build tree).2 = .ok (run build tree).1.summary := by
  cases ended : (run build tree).2 with
  | error cause =>
      rw [ended] at ends
      cases ends
  | ok summary => rw [summary_of_run ended]

/-- **A run that returns a summary without failures has treated every file that it visited.** -/
theorem treated_of_run (ran : (run build tree).2 = .ok summary) (noFailure : summary.failed = 0)
    {visit : Visit} (inside : visit ∈ visits build tree) :
    ∃ treatment, (treat build.config visit.state visit.file).2 = .ok treatment := by
  cases treated : (treat build.config visit.state visit.file).2 with
  | ok treatment => exact ⟨treatment, rfl⟩
  | error cause =>
      rcases outcome_of_failed treated with ended | counted
      · cases ended.symm.trans (ok_of_run ran visit inside)
      · have grown := ((walk_run build tree).below_of_mem inside).failed
        rw [counted, summary_of_run ran, noFailure] at grown
        cases grown

/-- **A run that counts no file as processed, copied or failed has left every file alone.** -/
theorem left_alone_of_run (ran : (run build tree).2 = .ok summary) (noFailure : summary.failed = 0)
    (noneProcessed : summary.processed = 0) (noneCopied : summary.copied = 0) {visit : Visit}
    (inside : visit ∈ visits build tree) :
    (treat build.config visit.state visit.file).2 = .ok .unchanged ∨
      (treat build.config visit.state visit.file).2 = .ok .excluded := by
  obtain ⟨treatment, treated⟩ := treated_of_run ran noFailure inside
  have grown := (walk_run build tree).below_of_mem inside
  rw [outcome_of_treated treated, summary_of_run ran] at grown
  cases treatment with
  | unchanged => exact .inl treated
  | excluded => exact .inr treated
  | processed =>
      have counted := grown.processed
      rw [noneProcessed] at counted
      cases counted
  | copied =>
      have counted := grown.copied
      rw [noneCopied] at counted
      cases counted

end Build

end CommentDirectives
