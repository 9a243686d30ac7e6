import CommentDirectives.Proofs.Build.Visits

/-!
# A run writes finished outputs only

A run that does not clear the destination removes no file, and the only files that are new or hold
something else behind it are targets of files that were read, and processed if need be, without a
failure; each holds all that the last of these gives (`Build.run_writes_outputs`).  Nothing reaches
the destination before the whole of a file is known, so a file that is left out or fails leaves its
target as it is, whether or not the run goes on behind it.

A dry run leaves the tree as it is, whatever its settings (`Build.tree_run_of_dryRun`).
-/

namespace CommentDirectives

set_option autoImplicit false

open FileTree (Keeps Receives)

namespace Build

variable {config : Config} {build : Build}

/-! ## Dry runs -/

/-- Visits leave the tree as it is in a dry run. -/
theorem Walk.tree_of_dryRun (dry : config.dryRun = true) {before after : BuildState}
    {visits : List Visit} (walk : Walk config before visits after) : after.tree = before.tree := by
  induction visits generalizing before with
  | nil => exact BuildState.Alike.tree walk
  | cons visit later ih =>
      rw [ih walk.2, tree_outcome, tree_treat_of_dryRun dry, walk.1.tree]

theorem tree_opening_of_dryRun (dry : build.config.dryRun = true) (tree : FileTree) :
    (opening build tree).1.tree = tree := by
  simp only [opening, clear, dry, if_true]
  split
  · split <;> rfl
  · rfl

/-- **A dry run leaves the tree as it is.** -/
theorem tree_run_of_dryRun (dry : build.config.dryRun = true) (tree : FileTree) :
    (run build tree).1.tree = tree := by
  rw [(walk_run build tree).tree_of_dryRun dry, tree_opening_of_dryRun dry]

/-! ## Outputs -/

theorem tree_opening_of_not_cleared (notCleared : build.config.clearDestination = false)
    (tree : FileTree) : (opening build tree).1.tree = tree := by
  rw [opening, notCleared, if_neg Bool.false_ne_true]

/-- What is written is the output of the file. -/
theorem output?_of_written? {state : BuildState} {file : SourceFile} {bytes : ByteArray}
    (written : written? config state file = some bytes) :
    output? config state file = some bytes := by
  unfold written? at written
  split at written
  · cases written
  · split at written
    · exact written
    · exact written
    · cases written

/-- **A run writes finished outputs only.**  If the destination is not cleared, then whatever a run
gives, no file is removed; every file that is new or holds other bytes is found at the target of a
file that the run has come to, and holds the bytes that the last file gives which was written there;
a file that stands where no output is meant to go stays as it is; a file that gives no output leaves
the tree as it is; and a dry run changes nothing. -/
theorem run_writes_outputs (build : Build) (tree : FileTree)
    (notCleared : build.config.clearDestination = false) :
    let config := build.config
    let after := (build.run tree).1.tree
    (∀ place content mode, tree.node? place = some (.file content mode) →
      ∃ content' mode', after.node? place = some (.file content' mode')) ∧
    (∀ place content mode, after.node? place = some (.file content mode) →
      (∀ mode', tree.node? place ≠ some (.file content mode')) →
      ∃ earlier visit later, build.visits tree = earlier ++ visit :: later ∧
        output? config visit.state visit.file = some content ∧
        written? config visit.state visit.file = some content ∧
        after.locate (targetOf config visit.file) = .ok place ∧
        ∀ other ∈ later, written? config other.state other.file ≠ none →
          tree.placeOf (targetOf config other.file) ≠ place) ∧
    (∀ place content mode, tree.node? place = some (.file content mode) →
      (∀ visit ∈ build.visits tree, output? config visit.state visit.file ≠ none →
        tree.placeOf (targetOf config visit.file) ≠ place) →
      after.node? place = some (.file content mode)) ∧
    (∀ visit ∈ build.visits tree, output? config visit.state visit.file = none →
      (treat config visit.state visit.file).1.tree = visit.state.tree) ∧
    (config.dryRun = true → after = tree) := by
  intro config after
  have walk := walk_run build tree
  have opened := tree_opening_of_not_cleared notCleared tree
  have kept := walk.keeps
  rw [opened] at kept
  refine ⟨kept.files, fun place content mode present differs => ?_,
    fun place content mode present free => ?_,
    fun visit _ nothing => tree_treat_of_output?_eq_none nothing,
    fun dry => tree_run_of_dryRun dry tree⟩
  · rcases walk.origin present with ⟨mode', before⟩ | ⟨earlier, visit, later, made, written, _,
      located, last⟩
    · rw [opened] at before
      exact absurd before (differs mode')
    · rw [opened] at last
      exact ⟨earlier, visit, later, made, output?_of_written? written, written, located,
        fun other inside wrote at_ => last ⟨other, inside, wrote, at_⟩⟩
  · refine kept.node ?_ present
    rintro ⟨visit, inside, wrote, at_⟩
    refine free visit inside (fun nothing => wrote ?_) at_
    cases written : written? config visit.state visit.file with
    | none => rfl
    | some bytes => cases nothing.symm.trans (output?_of_written? written)

end Build

/-- The tree with some files, each at a path whose folders are made. -/
def FileTree.ofFiles (files : List (String × String)) : FileTree :=
  files.foldl (fun tree file => (Build.put {} tree "" file.1 file.2.toUTF8).1) (FileTree.empty [])

theorem FileTree.named_ofFiles (files : List (String × String)) :
    (FileTree.ofFiles files).Named := by
  have added (tree : FileTree) (named : tree.Named) :
      (files.foldl (fun tree file => (Build.put {} tree "" file.1 file.2.toUTF8).1) tree).Named := by
    induction files generalizing tree with
    | nil => exact named
    | cons file rest ih => exact ih _ (Build.named_put named _ _ _ _)
  exact added _ (FileTree.named_empty [])

namespace Build

/-- A run that copies a file over an old one, and leaves out another. -/
def copying : Build := ⟨{ sources := ["src"], destination := "out" }, [], Layer.empty⟩

/-- A tree for that run. -/
def copyingTree : FileTree :=
  .ofFiles [("src/a.md", "new"), ("src/b.xml", "left out"), ("out/a.md", "old"),
    ("out/b.xml", "kept")]

/-- The file that is copied is the only one that changes. -/
theorem run_writes_outputs_copying :
    let after := (copying.run copyingTree).1.tree
    copying.config.clearDestination = false ∧
      copyingTree.node? ["out", "a.md"] = some (.file "old".toUTF8 FileTree.newFileMode) ∧
      after.node? ["out", "a.md"] = some (.file "new".toUTF8 FileTree.newFileMode) ∧
      (∃ earlier visit later, copying.visits copyingTree = earlier ++ visit :: later ∧
        written? copying.config visit.state visit.file = some "new".toUTF8 ∧
        after.locate (targetOf copying.config visit.file) = .ok ["out", "a.md"]) ∧
      after.node? ["out", "b.xml"] = some (.file "kept".toUTF8 FileTree.newFileMode) := by
  intro after
  have notCleared : copying.config.clearDestination = false := rfl
  have old : copyingTree.node? ["out", "a.md"] =
    some (.file "old".toUTF8 FileTree.newFileMode) := by decide +kernel
  have new : after.node? ["out", "a.md"] =
    some (.file "new".toUTF8 FileTree.newFileMode) := by decide +kernel
  have kept : copyingTree.node? ["out", "b.xml"] =
    some (.file "kept".toUTF8 FileTree.newFileMode) := by decide +kernel
  have differs (mode : Nat) :
      copyingTree.node? ["out", "a.md"] ≠ some (.file "new".toUTF8 mode) := by
    intro same
    have bytes : "old".toUTF8.data = "new".toUTF8.data := by
      cases old.symm.trans same
    revert bytes
    decide
  have free : ∀ visit ∈ copying.visits copyingTree,
      output? copying.config visit.state visit.file ≠ none →
        copyingTree.placeOf (targetOf copying.config visit.file) ≠ ["out", "b.xml"] := by
    decide +kernel
  have outputs := run_writes_outputs copying copyingTree notCleared
  obtain ⟨earlier, visit, later, made, _, written, located, _⟩ := outputs.2.1 _ _ _ new differs
  exact ⟨notCleared, old, new, ⟨earlier, visit, later, made, written, located⟩,
    outputs.2.2.1 _ _ _ kept free⟩

end Build

end CommentDirectives
