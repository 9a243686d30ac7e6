import CommentDirectives.Proofs.Build.Counting

/-!
# Runs whose roots stand apart from their destination

If no root contains the destination or is contained in it, then whatever a run writes it writes in
the destination, and whatever it reads from its roots it reads elsewhere (`Build.Separate`).  So
what is read at one point of the run is the same at every other (`Build.Separate.around_visit`,
`Build.Separate.source_not_prefix`).  If the files also have different paths seen from their roots,
then no file is written over the output of another, so every output is at its target behind the run
(`Build.Separate.readBytes_target`), and each target is untouched until its turn comes
(`Build.Separate.untouched`).  Settings and included files may still be read from the destination,
unless they are set apart, too (`Build.SetApart`).
-/

namespace CommentDirectives

set_option autoImplicit false

open FileTree (AgreesBut Keeps)

namespace Build

variable {build : Build} {tree : FileTree} {visit : Visit} {turn : Turn}

/-! ## The course of a run -/

/-- The place of the destination. -/
def destination (build : Build) (tree : FileTree) : Place :=
  tree.placeOf build.config.destination

theorem root_mem_of_turnsAmong {state : BuildState} {roots : List String}
    (come : turn ∈ turnsAmong build state roots) : turn.root ∈ roots := by
  induction roots generalizing state with
  | nil => cases come
  | cons root rest ih =>
      rw [turnsAmong] at come
      rcases List.mem_cons.mp come with rfl | behind
      · exact List.mem_cons_self
      · split at behind
        · exact List.mem_cons_of_mem _ (ih behind)
        · cases behind

theorem root_mem_of_turns (come : turn ∈ turns build tree) : turn.root ∈ build.config.sources := by
  unfold turns at come
  split at come
  · exact root_mem_of_turnsAmong come
  · cases come

/-- The visits of some roots divide at each of them. -/
theorem walk_around_turnsAmong {state : BuildState} {roots : List String}
    (come : turn ∈ turnsAmong build state roots) :
    ∃ earlier later,
      ((turnsAmong build state roots).flatMap fun turn => visitsAt build turn) =
        earlier ++ later ∧
      Walk build.config state earlier turn.state ∧
      Walk build.config turn.state later (treatRoots build state roots).1 := by
  induction roots generalizing state with
  | nil => cases come
  | cons root rest ih =>
      have all := walk_treatRoots build state (root :: rest)
      have first := walk_treatRoot build ⟨root, state⟩
      rw [turnsAmong] at come
      rcases List.mem_cons.mp come with rfl | behind
      · exact ⟨[], _, rfl, .refl state, all⟩
      · rw [turnsAmong, List.flatMap_cons, treatRoots]
        dsimp only at first
        cases treated : treatRoot build state root with
        | mk next result =>
            rw [treated] at behind first
            cases result with
            | error cause => cases behind
            | ok done =>
                obtain ⟨earlier, later, made, front, back⟩ := ih behind
                dsimp only at made ⊢
                rw [made]
                exact ⟨_ ++ earlier, later, (List.append_assoc _ _ _).symm, first.append front, back⟩

/-- **The visits of a run divide at each root.** -/
theorem walk_around_turn (come : turn ∈ turns build tree) :
    ∃ earlier later, visits build tree = earlier ++ later ∧
      Walk build.config (opening build tree).1 earlier turn.state ∧
      Walk build.config turn.state later (run build tree).1 := by
  have all := walk_run build tree
  unfold turns at come
  rw [run_eq] at all ⊢
  unfold visits turns at all ⊢
  cases opened : opening build tree with
  | mk state result =>
      rw [opened] at come all
      cases result with
      | error cause => cases come
      | ok done =>
          obtain ⟨earlier, later, made, front, back⟩ := walk_around_turnsAmong come
          refine ⟨earlier, later, made, front, ?_⟩
          dsimp only
          cases treated : treatRoots build state build.config.sources with
          | mk last ended =>
              rw [treated] at back
              cases ended with
              | error cause => exact back
              | ok done => exact back.to_alike (BuildState.alike_report _ _ _ _)

/-- **The visits of a run divide at each visit.** -/
theorem walk_around_visit {earlier later : List Visit}
    (made : visits build tree = earlier ++ visit :: later) :
    Walk build.config (opening build tree).1 earlier visit.state ∧
      Walk build.config (outcome build.config visit).1 later (run build tree).1 := by
  have all := walk_run build tree
  rw [made] at all
  obtain ⟨middle, front, alike, back⟩ := all.split
  exact ⟨front.to_alike alike, back⟩

/-- In front of the first root, the tree is as it was, or the destination is gone. -/
theorem tree_opening_cases (build : Build) (tree : FileTree) :
    (opening build tree).1.tree = tree ∨
      (opening build tree).1.tree = tree.removeBelow (build.destination tree) := by
  unfold opening clear
  dsimp only
  split
  · split
    · split
      · exact .inl rfl
      · split
        · exact .inl rfl
        · next removed =>
          simp only [BuildState.progress, BuildState.report, FileTree.removeFolder] at removed
          split at removed
          · cases removed
          · next place located =>
            obtain rfl := FileTree.locate_eq_placeOf located
            split at removed <;> cases removed
            exact .inr rfl
    · exact .inl rfl
  · exact .inl rfl

/-- In front of the first root, the tree is as it was but for what was in the destination. -/
theorem agreesBut_opening (build : Build) (tree : FileTree) :
    AgreesBut (build.destination tree <+: ·) tree (opening build tree).1.tree ∧
      (tree.Named → (opening build tree).1.tree.Named) := by
  rcases tree_opening_cases build tree with same | removed
  · rw [same]
    exact ⟨⟨rfl, fun _ _ => .inl rfl⟩, id⟩
  · rw [removed]
    exact ⟨FileTree.agreesBut_removeBelow _ _, fun named => FileTree.named_removeBelow named _⟩

/-- Whatever stands somewhere in front of the first root stood there before. -/
theorem node?_before_opening {place : Place} {node : Node}
    (stands : (opening build tree).1.tree.node? place = some node) :
    tree.node? place = some node := by
  rcases tree_opening_cases build tree with same | removed
  · rwa [same] at stands
  · rw [removed] at stands
    by_cases root : place = []
    · rw [root] at stands ⊢
      exact stands
    · rw [FileTree.node?_of_ne_nil root, FileTree.get?_removeBelow] at stands
      split at stands
      · cases stands
      · rwa [FileTree.node?_of_ne_nil root]

/-! ## Roots apart from the destination -/

/-- A tree for a run in which files have names, no root contains the destination or is contained in
it, and no two files that the run comes to have the same path seen from their roots. -/
structure Separate (build : Build) (tree : FileTree) : Prop where
  named : tree.Named
  roots : ∀ root ∈ build.config.sources, ¬build.destination tree <+: tree.placeOf root ∧
    ¬tree.placeOf root <+: build.destination tree
  distinct : ((visits build tree).map fun visit => visit.file.relative).Nodup

namespace Separate

variable (separate : build.Separate tree)
include separate

/-- What is in a root is not in the destination. -/
theorem not_prefix {root : String} (source : root ∈ build.config.sources) {place : Place}
    (below : tree.placeOf root <+: place) : ¬build.destination tree <+: place := by
  intro inside
  obtain ⟨outside, outside'⟩ := separate.roots root source
  rcases List.prefix_or_prefix_of_prefix inside below with contains | contained
  · exact outside contains
  · exact outside' contained

/-- What is known of the files that a run comes to. -/
theorem collected (inside : visit ∈ visits build tree) :
    ∃ turn ∈ turns build tree, turn.state.tree.contains turn.root = true ∧
      visit.file ∈ Collection.files turn.state.tree build.patterns turn.root ∧
      Collection.Collected turn.state.tree turn.root visit.file := by
  obtain ⟨turn, come, there, among⟩ := exists_turn inside
  obtain ⟨_, _, _, front, _⟩ := walk_around_turn come
  have named := front.keeps.named ((agreesBut_opening build tree).2 separate.named)
  exact ⟨turn, come, there, among, Collection.collected_of_mem named there among⟩

/-- Every target names a place below the destination. -/
theorem placeOf_target (inside : visit ∈ visits build tree) :
    ∃ names, visit.file.relative = Collection.pathOf names ∧ names ≠ [] ∧
      (∀ name ∈ names, Path.IsName name) ∧
      ∀ other : FileTree, other.placeOf (targetOf build.config visit.file) =
        other.placeOf build.config.destination ++ names := by
  obtain ⟨turn, _, _, _, collected⟩ := separate.collected inside
  obtain ⟨names, someNames, isName, relative⟩ := collected.relative
  refine ⟨names, relative, someNames, isName, fun other => ?_⟩
  rw [targetOf, relative]
  exact FileTree.placeOf_join other _ isName someNames

/-- Some visits of a run change nothing outside the destination. -/
theorem keeps {before after : BuildState} {visits : List Visit}
    (some_ : ∀ visit ∈ visits, visit ∈ build.visits tree)
    (working : before.tree.workingFolder = tree.workingFolder)
    (walk : Walk build.config before visits after) :
    Keeps (build.destination tree <+: ·) before.tree after.tree := by
  refine walk.keeps.mono ?_
  rintro place ⟨visit, inside, _, rfl⟩
  obtain ⟨names, _, _, _, target⟩ := separate.placeOf_target (some_ visit inside)
  rw [target, FileTree.placeOf_eq working]
  exact List.prefix_append _ _

/-- **Nothing changes outside the destination**, in front of a root and behind it. -/
theorem around_turn (come : turn ∈ turns build tree) :
    AgreesBut (build.destination tree <+: ·) tree turn.state.tree ∧
      Keeps (build.destination tree <+: ·) turn.state.tree (run build tree).1.tree := by
  obtain ⟨earlier, later, made, front, back⟩ := walk_around_turn come
  have opened := (agreesBut_opening build tree).1
  have first := separate.keeps
    (fun visit inside => made ▸ List.mem_append_left _ inside) opened.working front
  have before := opened.trans first.toAgreesBut
  exact ⟨before, separate.keeps (fun visit inside => made ▸ List.mem_append_right _ inside)
    before.working back⟩

/-- **Nothing changes outside the destination**, in front of a file and behind it. -/
theorem around_visit (inside : visit ∈ visits build tree) :
    AgreesBut (build.destination tree <+: ·) tree visit.state.tree ∧
      Keeps (build.destination tree <+: ·) visit.state.tree (run build tree).1.tree := by
  obtain ⟨earlier, later, made⟩ := List.append_of_mem inside
  obtain ⟨front, back⟩ := walk_around_visit made
  have opened := (agreesBut_opening build tree).1
  have first := separate.keeps
    (fun visit inside => made ▸ List.mem_append_left _ inside) opened.working front
  have before := opened.trans first.toAgreesBut
  have whole : Walk build.config visit.state (visit :: later) (run build tree).1 :=
    ⟨.refl _, back⟩
  exact ⟨before, separate.keeps (fun visit inside => made ▸ List.mem_append_right _ inside)
    before.working whole⟩

/-- A file that the run comes to is not in the destination. -/
theorem source_not_prefix (inside : visit ∈ visits build tree) :
    ¬build.destination tree <+: tree.placeOf visit.file.path := by
  obtain ⟨turn, come, _, _, collected⟩ := separate.collected inside
  have working := (separate.around_turn come).1.working
  have below := collected.below
  rw [FileTree.placeOf_eq working, FileTree.placeOf_eq working] at below
  exact separate.not_prefix (root_mem_of_turns come) below

/-- **No other file has the same target.** -/
theorem target_ne {earlier later : List Visit}
    (made : visits build tree = earlier ++ visit :: later) {other : Visit}
    (inside : other ∈ earlier ++ later) (at_ : FileTree) :
    at_.placeOf (targetOf build.config other.file) ≠
      at_.placeOf (targetOf build.config visit.file) := by
  have inVisits : visit ∈ visits build tree := made ▸ List.mem_append_right _ List.mem_cons_self
  have otherInVisits : other ∈ visits build tree := by
    rw [made]
    rcases List.mem_append.mp inside with front | back
    · exact List.mem_append_left _ front
    · exact List.mem_append_right _ (List.mem_cons_of_mem _ back)
  obtain ⟨names, relative, _, _, target⟩ := separate.placeOf_target inVisits
  obtain ⟨names', relative', _, _, target'⟩ := separate.placeOf_target otherInVisits
  rw [target, target']
  intro same
  have sameRelative : other.file.relative = visit.file.relative := by
    rw [relative, relative', List.append_cancel_left same]
  have distinct := separate.distinct
  rw [made, List.map_append, List.map_cons] at distinct
  have fresh := (List.nodup_middle.mp distinct)
  refine (List.nodup_cons.mp fresh).1 ?_
  rw [← List.map_append, ← sameRelative]
  exact List.mem_map_of_mem inside

/-- **Every output is at its target behind the run.** -/
theorem readBytes_target (wet : build.config.dryRun = false) (inside : visit ∈ visits build tree)
    {treatment : Treatment}
    (treated : (treat build.config visit.state visit.file).2 = .ok treatment) {bytes : ByteArray}
    (gives : output? build.config visit.state visit.file = some bytes) :
    (run build tree).1.tree.readBytes (targetOf build.config visit.file) = .ok bytes := by
  obtain ⟨earlier, later, made⟩ := List.append_of_mem inside
  obtain ⟨_, back⟩ := walk_around_visit made
  have put := readBytes_treat wet treated gives
  rw [← tree_outcome] at put
  refine back.keeps.readBytes ?_ put
  rintro ⟨other, behind, _, same⟩
  exact separate.target_ne made (List.mem_append_right _ behind) _ same

/-- **Every target is untouched until its turn comes.** -/
theorem untouched {earlier later : List Visit}
    (made : visits build tree = earlier ++ visit :: later) :
    AgreesBut (· ≠ tree.placeOf (targetOf build.config visit.file)) (opening build tree).1.tree
      visit.state.tree := by
  obtain ⟨front, _⟩ := walk_around_visit made
  have working := (agreesBut_opening build tree).1.working
  refine front.keeps.toAgreesBut.mono ?_
  rintro place ⟨other, before, _, rfl⟩
  rw [FileTree.placeOf_eq working]
  exact separate.target_ne made (List.mem_append_left _ before) tree

end Separate

/-- A tree for a run in which files have names, no root contains the destination or is contained in
it, no file with settings and no file that is included is in the destination, and no two files that
the run comes to have the same path seen from their roots. -/
structure SetApart (build : Build) (tree : FileTree) : Prop where
  named : tree.Named
  roots : ∀ root ∈ build.config.sources, ¬build.destination tree <+: tree.placeOf root ∧
    ¬tree.placeOf root <+: build.destination tree
  settings : ∀ path ∈ build.config.settingsFiles, ¬build.destination tree <+: tree.placeOf path
  includes : ∀ visit ∈ visits build tree,
    ∀ path ∈ includesOf build.config visit.state visit.file,
      ¬build.destination tree <+: tree.placeOf path
  distinct : ((visits build tree).map fun visit => visit.file.relative).Nodup

/-- Included files apart, such a tree is a separate one. -/
theorem SetApart.separate (apart : build.SetApart tree) : build.Separate tree :=
  ⟨apart.named, apart.roots, apart.distinct⟩

end Build

end CommentDirectives
