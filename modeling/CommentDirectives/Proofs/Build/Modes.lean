import CommentDirectives.Proofs.Build.Apart
import CommentDirectives.Proofs.Build.Outputs

/-!
# Modes of outputs

If a run hands on modes, then a file that is put into the destination has the mode of the file that
it was made from (`Build.mode?_of_treat`).  A file that is left alone because it holds the wanted
bytes already is left alone altogether (`Build.treat_of_unchanged`), so it also has the mode that it
had, whatever the mode of the file that gives these bytes.  As long as the roots stand apart from
the destination and no two files have the same target, both still hold behind the run
(`Build.run_hands_on_modes`).

So only a run that leaves no file alone gives every output the mode of its file.  One that does may
leave another mode at a target (`Build.not_run_hands_on_modes`).
-/

namespace CommentDirectives

set_option autoImplicit false

open FileTree (AgreesBut Keeps)

namespace Build

variable {config : Config} {build : Build} {tree : FileTree} {state : BuildState}
  {file : SourceFile} {summary : Summary} {visit : Visit}

/-! ## Single files -/

/-- Bytes that are put at a path have the mode of their source, if modes are handed on. -/
theorem lookup_of_put {source target : String} {bytes : ByteArray} {mode : Nat} {after : FileTree}
    (handsOn : config.keepMode = true) (has : tree.mode? source = some mode)
    (put : put config tree source target bytes = (after, .ok ())) :
    after.lookup target = .ok (.file bytes mode) := by
  obtain ⟨received, located⟩ := receives_of_put put
  refine FileTree.lookup_eq_ok.mpr ?_
  rw [received.placeOf]
  refine ⟨located, ?_⟩
  have kept := keeps_makeFoldersFor tree target
  unfold Build.put at put
  split at put
  · cases put
  · next made _ making =>
    rw [making] at kept
    have still : made.mode? source = some mode := by
      obtain ⟨content, found⟩ := FileTree.mode?_eq_some.mp has
      exact FileTree.mode?_eq_some.mpr ⟨content, kept.lookup id found⟩
    dsimp only at put
    rw [handsOn, if_pos rfl, still] at put
    split at put
    · cases put
    · next written writing =>
      cases put
      obtain ⟨_, _, _, old, changed⟩ := FileTree.write_cases writing
      rw [kept.placeOf] at changed
      exact (changed _).trans (if_pos rfl)

/-- A file that gives bytes has been read. -/
theorem exists_lookup_of_output? {bytes : ByteArray}
    (gives : output? config state file = some bytes) :
    ∃ content mode, state.tree.lookup file.path = .ok (.file content mode) := by
  suffices read : ∃ content, state.tree.readBytes file.path = .ok content by
    obtain ⟨content, read⟩ := read
    exact ⟨content, FileTree.readBytes_eq_ok.mp read⟩
  unfold output? prepare at gives
  cases read : state.tree.readBytes file.path with
  | ok content => exact ⟨content, rfl⟩
  | error cause =>
      have unread : state.tree.readText file.path = .error cause := by
        rw [FileTree.readText, read]
      simp only [Config.processFile, unread, read] at gives
      split at gives
      · next given => split at given <;> (try split at given) <;> cases given
      · cases gives

/-- **A file that is put at its target hands on its mode.** -/
theorem mode?_of_treat (handsOn : config.keepMode = true) (wet : config.dryRun = false)
    {treatment : Treatment} (treated : (treat config state file).2 = .ok treatment)
    (made : treatment = .processed ∨ treatment = .copied) :
    ∃ content bytes mode, state.tree.lookup file.path = .ok (.file content mode) ∧
      (treat config state file).1.tree.lookup (targetOf config file) = .ok (.file bytes mode) := by
  rcases treated_cases wet treated with ⟨rfl, _⟩ | ⟨bytes, gives, ⟨rfl, _⟩ | ⟨_, put⟩⟩
  · rcases made with made | made <;> cases made
  · rcases made with made | made <;> cases made
  · obtain ⟨content, mode, found⟩ := exists_lookup_of_output? gives
    have has := FileTree.mode?_eq_some.mpr ⟨content, found⟩
    exact ⟨content, bytes, mode, found, lookup_of_put handsOn has put⟩

/-- **A file that is left alone changes nothing.** -/
theorem treat_of_unchanged (wet : config.dryRun = false)
    (treated : (treat config state file).2 = .ok .unchanged) :
    config.skipUnchanged = true ∧ (treat config state file).1.tree = state.tree ∧
      ∃ bytes mode, output? config state file = some bytes ∧
        state.tree.lookup (targetOf config file) = .ok (.file bytes mode) := by
  rcases treated_cases wet treated with
    ⟨made, _⟩ | ⟨bytes, gives, ⟨_, skips, held, same⟩ | ⟨made, _⟩⟩
  · cases made
  · obtain ⟨mode, found⟩ := FileTree.readBytes_eq_ok.mp (holds_iff.mp held)
    exact ⟨skips, same, bytes, mode, gives, found⟩
  · rcases made with made | made <;> cases made

/-! ## Runs -/

/-- What is at a target behind the turn of its file is there behind the run. -/
theorem Separate.lookup_target (separate : build.Separate tree) {earlier later : List Visit}
    (made : visits build tree = earlier ++ visit :: later) {node : Node}
    (found : (treat build.config visit.state visit.file).1.tree.lookup
      (targetOf build.config visit.file) = .ok node) :
    (run build tree).1.tree.lookup (targetOf build.config visit.file) = .ok node := by
  obtain ⟨_, back⟩ := walk_around_visit made
  rw [← tree_outcome] at found
  refine back.keeps.lookup ?_ found
  rintro ⟨other, behind, _, same⟩
  exact separate.target_ne made (List.mem_append_right _ behind) _ same

/-- **A run hands on modes.**  Take a run that hands on modes and is not a dry one, whose roots
stand apart from its destination and whose files all have different paths seen from their roots.
If it returns a summary without failures, then every file that it comes to has been treated; the
target of every file that is processed or copied has the mode that the file has and had from the
start; and the target of every file that is counted as unchanged holds what it held from the start,
with the mode that it had, and a file is counted so only if unchanged files are left alone. -/
theorem run_hands_on_modes (build : Build) (tree : FileTree) (summary : Summary)
    (handsOn : build.config.keepMode = true) (wet : build.config.dryRun = false)
    (separate : build.Separate tree) (ran : (build.run tree).2 = .ok summary)
    (noFailure : summary.failed = 0) :
    let config := build.config
    let after := (build.run tree).1.tree
    ∀ visit ∈ build.visits tree,
      ∃ treatment, (treat config visit.state visit.file).2 = .ok treatment ∧
        (treatment = .processed ∨ treatment = .copied →
          ∃ content mode, tree.node? (tree.placeOf visit.file.path) = some (.file content mode) ∧
            after.mode? visit.file.path = some mode ∧
            after.mode? (targetOf config visit.file) = some mode) ∧
        (treatment = .unchanged → config.skipUnchanged = true ∧
          ∃ bytes mode, output? config visit.state visit.file = some bytes ∧
            tree.node? (tree.placeOf (targetOf config visit.file)) = some (.file bytes mode) ∧
            after.lookup (targetOf config visit.file) = .ok (.file bytes mode)) := by
  intro config after visit inside
  obtain ⟨treatment, treated⟩ := treated_of_run ran noFailure inside
  obtain ⟨earlier, later, made⟩ := List.append_of_mem inside
  obtain ⟨before, behind⟩ := separate.around_visit inside
  refine ⟨treatment, treated, fun delivered => ?_, fun unchanged => ?_⟩
  · obtain ⟨content, bytes, mode, source, target⟩ := mode?_of_treat handsOn wet treated delivered
    have outside := separate.source_not_prefix inside
    have present := (FileTree.lookup_eq_ok.mp source).2
    rw [before.placeOf] at present
    refine ⟨content, mode, before.file_before outside present, ?_, ?_⟩
    · refine FileTree.mode?_eq_some.mpr ⟨content, behind.lookup ?_ source⟩
      rwa [before.placeOf]
    · exact FileTree.mode?_eq_some.mpr ⟨bytes, separate.lookup_target made target⟩
  · rw [unchanged] at treated
    obtain ⟨skips, same, bytes, mode, gives, target⟩ := treat_of_unchanged wet treated
    have present := (FileTree.lookup_eq_ok.mp target).2
    rw [before.placeOf] at present
    refine ⟨skips, bytes, mode, gives, ?_, separate.lookup_target made (same ▸ target)⟩
    exact node?_before_opening
      ((separate.untouched made).file_before (fun other => other rfl) present)

end Build

/-! ### Files with different modes -/

/-- The tree in which a file has another mode, if the file exists. -/
def FileTree.withMode (tree : FileTree) (path : String) (mode : Nat) : FileTree :=
  match tree.readBytes path with
  | .error _ => tree
  | .ok bytes => ((tree.write path bytes (some mode)).toOption).getD tree

theorem FileTree.named_withMode {tree : FileTree} (named : tree.Named) (path : String)
    (mode : Nat) : (tree.withMode path mode).Named := by
  unfold withMode
  split
  · exact named
  · next bytes _ =>
    cases written : tree.write path bytes (some mode) with
    | error cause => exact named
    | ok after => exact (receives_of_write written).named named

/-- A result that is a value. -/
theorem eq_ok_of_toOption {ε α : Type} {result : Except ε α} {value : α}
    (given : result.toOption = some value) : result = .ok value := by
  cases result with
  | error cause => cases given
  | ok other =>
      cases given
      rfl

namespace Build

/-- A run that hands on modes and leaves unchanged files alone. -/
def installing : Build :=
  ⟨{ sources := ["src"], destination := "out", keepMode := true, skipUnchanged := true }, [],
    Layer.empty⟩

/-- A tree for that run, with two files that may be executed.  The destination holds the bytes of
the second already, in a file that may not. -/
def installingTree : FileTree :=
  ((FileTree.ofFiles [("src/a.md", "new"), ("src/b.md", "same"), ("out/b.md", "same")]).withMode
    "src/a.md" 0o755).withMode "src/b.md" 0o755

theorem separate_installing : installing.Separate installingTree where
  named := FileTree.named_withMode (FileTree.named_withMode (FileTree.named_ofFiles _) _ _) _ _
  roots := by decide +kernel
  distinct := by decide +kernel

/-- The first file is copied with its mode. -/
theorem run_hands_on_modes_installing :
    let after := (installing.run installingTree).1.tree
    installing.config.keepMode = true ∧ installing.config.dryRun = false ∧
      installing.Separate installingTree ∧
      (installing.run installingTree).2 = .ok { copied := 1, unchanged := 1 } ∧
      (∃ visit ∈ installing.visits installingTree, visit.file = ⟨"src/a.md", "a.md"⟩ ∧
        (treat installing.config visit.state visit.file).2 = .ok .copied) ∧
      after.mode? "src/a.md" = some 0o755 ∧ after.mode? "out/a.md" = some 0o755 ∧
      after.mode? "src/b.md" = some 0o755 ∧ after.mode? "out/b.md" = some 0o644 := by
  intro after
  have counted : (installing.run installingTree).1.summary = { copied := 1, unchanged := 1 } := by
    decide +kernel
  have ran : (installing.run installingTree).2 = .ok { copied := 1, unchanged := 1 } := by
    rw [ran_of_isOk (by decide +kernel), counted]
  obtain ⟨visit, inside, isFirst, copied⟩ : ∃ visit ∈ installing.visits installingTree,
      visit.file = ⟨"src/a.md", "a.md"⟩ ∧
        (treat installing.config visit.state visit.file).2.toOption = some .copied := by
    decide +kernel
  have treated := eq_ok_of_toOption copied
  obtain ⟨treatment, treated', delivered, _⟩ :=
    run_hands_on_modes installing installingTree _ rfl rfl separate_installing ran rfl visit inside
  cases treated.symm.trans treated'
  obtain ⟨_, mode, _, source, target⟩ := delivered (.inr rfl)
  rw [isFirst] at source target
  have first : after.mode? "src/a.md" = some 0o755 := by decide +kernel
  obtain rfl : 0o755 = mode := Option.some.inj (first.symm.trans source)
  exact ⟨rfl, rfl, separate_installing, ran, ⟨visit, inside, isFirst, treated⟩, source, target,
    by decide +kernel, by decide +kernel⟩

/-- **A run may leave another mode at a target**, that of a file which holds the wanted bytes
already. -/
theorem not_run_hands_on_modes :
    ¬∀ (config : Config) (tree : FileTree) (build : Build) (summary : Summary),
      new config tree = .ok build → config.keepMode = true → config.dryRun = false →
      build.Separate tree → (build.run tree).2 = .ok summary → summary.failed = 0 →
      ∀ visit ∈ build.visits tree, ∀ treatment,
        (treat config visit.state visit.file).2 = .ok treatment →
        treatment = .processed ∨ treatment = .copied ∨ treatment = .unchanged →
        (build.run tree).1.tree.mode? (targetOf config visit.file) =
          (build.run tree).1.tree.mode? visit.file.path := by
  intro claim
  have ran : (installing.run installingTree).2 = .ok (installing.run installingTree).1.summary :=
    ran_of_isOk (by decide +kernel)
  have all := claim installing.config installingTree installing _ rfl rfl rfl separate_installing
    ran (by decide +kernel)
  obtain ⟨visit, inside, isSecond, unchanged⟩ : ∃ visit ∈ installing.visits installingTree,
      visit.file = ⟨"src/b.md", "b.md"⟩ ∧
        (treat installing.config visit.state visit.file).2.toOption = some .unchanged := by
    decide +kernel
  have same := all visit inside .unchanged (eq_ok_of_toOption unchanged) (.inr (.inr rfl))
  rw [isSecond] at same
  revert same
  decide +kernel

end Build

end CommentDirectives
