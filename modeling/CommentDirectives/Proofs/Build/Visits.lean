import CommentDirectives.Proofs.Build.Collected
import CommentDirectives.Proofs.Build.Treatment

/-!
# The files that a run comes to

A run comes to its roots one after the other (`Build.turns`), and at each root that exists to the
files that are collected there (`Build.visits`), until it ends or fails.  Each file is visited in
the state that the files in front of it leave behind, but for reports (`Build.Walk`,
`Build.walk_run`).  So what one visit does to the tree is known of the whole run: everything stays
but for the contents of the files that are written (`Build.Walk.keeps`), and a file that is new or
changed holds what the last visit has written that writes at its place (`Build.Walk.origin`).
-/

namespace CommentDirectives

set_option autoImplicit false

open FileTree (Keeps Receives)

namespace BuildState

/-- Two states that differ at most in what was reported. -/
structure Alike (left right : BuildState) : Prop where
  tree : right.tree = left.tree
  globals : right.globals = left.globals
  providers : right.providers = left.providers
  summary : right.summary = left.summary
  actions : right.actions = left.actions

theorem Alike.refl (state : BuildState) : state.Alike state := ⟨rfl, rfl, rfl, rfl, rfl⟩

theorem Alike.trans {first second third : BuildState} (front : first.Alike second)
    (back : second.Alike third) : first.Alike third :=
  ⟨back.tree.trans front.tree, back.globals.trans front.globals,
    back.providers.trans front.providers, back.summary.trans front.summary,
    back.actions.trans front.actions⟩

theorem Alike.symm {left right : BuildState} (alike : left.Alike right) : right.Alike left :=
  ⟨alike.tree.symm, alike.globals.symm, alike.providers.symm, alike.summary.symm,
    alike.actions.symm⟩

/-- A report changes nothing else. -/
theorem alike_report (state : BuildState) (severity : Severity) (message : String)
    (details : List (String × String)) : state.Alike (state.report severity message details) :=
  ⟨rfl, rfl, rfl, rfl, rfl⟩

end BuildState

/-- A file that a run comes to. -/
structure Visit where
  file : SourceFile
  /-- The state in front of the file. -/
  state : BuildState

/-- A root that a run comes to. -/
structure Turn where
  root : String
  /-- The state in front of the root. -/
  state : BuildState

namespace Build

variable {config : Config} {build : Build}

/-! ## Steps of a run -/

theorem treatAll_cons (config : Config) (state : BuildState) (file : SourceFile)
    (rest : List SourceFile) :
    treatAll config state (file :: rest) =
      match treatAll config state [file] with
      | (next, .ok _) => treatAll config next rest
      | (next, .error cause) => (next, .error cause) := by
  rw [treatAll, treatAll]
  split
  · rfl
  · split <;> rfl

/-- What becomes of a file that is visited. -/
def outcome (config : Config) (visit : Visit) : BuildState × Except RunError Unit :=
  treatAll config visit.state [visit.file]

theorem tree_outcome (config : Config) (visit : Visit) :
    (outcome config visit).1.tree = (treat config visit.state visit.file).1.tree := by
  unfold outcome
  rw [treatAll]
  split
  · next treated => rw [treated, treatAll]
  · next treated =>
    split <;> rw [treated]
    rfl

/-- Behind a file that is visited, the variables and providers are those that reading it leaves
behind. -/
theorem outcome_keeps (config : Config) (visit : Visit) :
    (outcome config visit).1.globals = (prepare config visit.state visit.file).1.globals ∧
      (outcome config visit).1.providers = (prepare config visit.state visit.file).1.providers := by
  obtain ⟨globals, providers, _⟩ := treat_keeps config visit.state visit.file
  rw [← globals, ← providers, outcome, treatAll]
  split
  · next done =>
    rw [done]
    exact ⟨rfl, rfl⟩
  · next done =>
    rw [done]
    split <;> exact ⟨rfl, rfl⟩

/-! ## The visits of a run -/

/-- The visits where some files are treated, up to the first failure that ends the run. -/
def visitsAmong (config : Config) (state : BuildState) : List SourceFile → List Visit
  | [] => []
  | file :: rest =>
    ⟨file, state⟩ ::
      match treatAll config state [file] with
      | (next, .ok _) => visitsAmong config next rest
      | (_, .error _) => []

/-- The state in which the files of a root are treated. -/
def enterRoot (build : Build) (turn : Turn) : BuildState :=
  (Collection.excludedFolders turn.state.tree build.patterns turn.root).foldl
    (fun state folder => state.report .debug "folder excluded" [("folder", folder)]) turn.state

/-- The visits at a root. -/
def visitsAt (build : Build) (turn : Turn) : List Visit :=
  if turn.state.tree.contains turn.root then
    visitsAmong build.config (enterRoot build turn)
      (Collection.files turn.state.tree build.patterns turn.root)
  else []

/-- The roots that are come to, up to the first failure that ends the run. -/
def turnsAmong (build : Build) (state : BuildState) : List String → List Turn
  | [] => []
  | root :: rest =>
    ⟨root, state⟩ ::
      match treatRoot build state root with
      | (next, .ok _) => turnsAmong build next rest
      | (_, .error _) => []

/-- The state in front of the first root. -/
def opening (build : Build) (tree : FileTree) : BuildState × Except RunError Unit :=
  let state : BuildState :=
    { tree := tree, globals := build.globals, providers := build.config.providers }
  if build.config.clearDestination then clear build.config state else (state, .ok ())

/-- In front of the first root nothing is counted yet and no variable has changed. -/
theorem opening_keeps (build : Build) (tree : FileTree) :
    (opening build tree).1.globals = build.globals ∧
      (opening build tree).1.providers = build.config.providers ∧
      (opening build tree).1.summary = {} := by
  unfold opening clear
  dsimp only
  split
  · split
    · split
      · exact ⟨rfl, rfl, rfl⟩
      · split <;> exact ⟨rfl, rfl, rfl⟩
    · exact ⟨rfl, rfl, rfl⟩
  · exact ⟨rfl, rfl, rfl⟩

/-- The roots that a run comes to. -/
def turns (build : Build) (tree : FileTree) : List Turn :=
  match opening build tree with
  | (state, .ok _) => turnsAmong build state build.config.sources
  | (_, .error _) => []

/-- The files that a run comes to. -/
def visits (build : Build) (tree : FileTree) : List Visit :=
  (turns build tree).flatMap fun turn => visitsAt build turn

/-- Every file is collected from a root that exists. -/
theorem file_mem_of_visitsAmong {state : BuildState} {files : List SourceFile} {visit : Visit}
    (inside : visit ∈ visitsAmong config state files) : visit.file ∈ files := by
  induction files generalizing state with
  | nil => cases inside
  | cons file rest ih =>
      rw [visitsAmong] at inside
      rcases List.mem_cons.mp inside with rfl | behind
      · exact List.mem_cons_self
      · split at behind
        · exact List.mem_cons_of_mem _ (ih behind)
        · cases behind

theorem exists_turn {tree : FileTree} {visit : Visit} (inside : visit ∈ visits build tree) :
    ∃ turn ∈ turns build tree, turn.state.tree.contains turn.root = true ∧
      visit.file ∈ Collection.files turn.state.tree build.patterns turn.root := by
  obtain ⟨turn, come, at_⟩ := List.mem_flatMap.mp inside
  unfold visitsAt at at_
  split at at_
  · next there => exact ⟨turn, come, there, file_mem_of_visitsAmong at_⟩
  · cases at_

/-! ## Walks -/

/-- Some visits lead from one state to another, each from the state that the one in front of it
leaves behind, but for reports. -/
def Walk (config : Config) : BuildState → List Visit → BuildState → Prop
  | before, [], after => before.Alike after
  | before, visit :: later, after =>
    before.Alike visit.state ∧ Walk config (outcome config visit).1 later after

namespace Walk

variable {before middle after : BuildState} {earlier later : List Visit}

theorem refl (state : BuildState) : Walk config state [] state := BuildState.Alike.refl state

theorem of_alike (alike : before.Alike middle) (walk : Walk config middle later after) :
    Walk config before later after := by
  cases later with
  | nil => exact alike.trans walk
  | cons visit later => exact ⟨alike.trans walk.1, walk.2⟩

theorem to_alike (walk : Walk config before later middle) (alike : middle.Alike after) :
    Walk config before later after := by
  induction later generalizing before with
  | nil => exact BuildState.Alike.trans walk alike
  | cons visit later ih => exact ⟨walk.1, ih walk.2⟩

theorem append (front : Walk config before earlier middle) (back : Walk config middle later after) :
    Walk config before (earlier ++ later) after := by
  induction earlier generalizing before with
  | nil => exact back.of_alike front
  | cons visit earlier ih => exact ⟨front.1, ih front.2⟩

/-- Visits are made one part after the other. -/
theorem split (walk : Walk config before (earlier ++ later) after) :
    ∃ middle, Walk config before earlier middle ∧ Walk config middle later after := by
  induction earlier generalizing before with
  | nil => exact ⟨before, .refl before, walk⟩
  | cons visit earlier ih =>
      obtain ⟨middle, front, back⟩ := ih walk.2
      exact ⟨middle, ⟨walk.1, front⟩, back⟩

end Walk

/-! ## The walk of a run -/

theorem walk_treatAll (config : Config) (state : BuildState) (files : List SourceFile) :
    Walk config state (visitsAmong config state files) (treatAll config state files).1 := by
  induction files generalizing state with
  | nil => exact .refl state
  | cons file rest ih =>
      rw [visitsAmong, treatAll_cons config state file rest]
      refine ⟨.refl state, ?_⟩
      unfold outcome
      dsimp only
      cases treatAll config state [file] with
      | mk next result =>
          cases result with
          | error cause => exact .refl next
          | ok done => exact ih next

theorem alike_enterRoot (build : Build) (turn : Turn) : turn.state.Alike (enterRoot build turn) := by
  have reported (folders : List String) (state : BuildState) :
      state.Alike (folders.foldl
        (fun state folder => state.report .debug "folder excluded" [("folder", folder)]) state) := by
    induction folders generalizing state with
    | nil => exact .refl state
    | cons folder rest ih =>
        exact (BuildState.alike_report _ _ _ _).trans (ih _)
  exact reported _ _

/-- What becomes of a root, by whether it exists. -/
theorem treatRoot_eq (build : Build) (turn : Turn) :
    treatRoot build turn.state turn.root =
      if turn.state.tree.contains turn.root then
        treatAll build.config (enterRoot build turn)
          (Collection.files turn.state.tree build.patterns turn.root)
      else if build.config.ignoreMissing then
        (turn.state.report .warning "source root not found, skipped" [("root", turn.root)], .ok ())
      else (turn.state, .error (.file turn.root .missingRoot)) := rfl

theorem walk_treatRoot (build : Build) (turn : Turn) :
    Walk build.config turn.state (visitsAt build turn)
      (treatRoot build turn.state turn.root).1 := by
  rw [treatRoot_eq, visitsAt]
  split
  · exact (walk_treatAll _ _ _).of_alike (alike_enterRoot build turn)
  · split
    · exact BuildState.alike_report _ _ _ _
    · exact .refl _

theorem walk_treatRoots (build : Build) (state : BuildState) (roots : List String) :
    Walk build.config state
      ((turnsAmong build state roots).flatMap fun turn => visitsAt build turn)
      (treatRoots build state roots).1 := by
  induction roots generalizing state with
  | nil => exact .refl state
  | cons root rest ih =>
      have first := walk_treatRoot build ⟨root, state⟩
      rw [turnsAmong, List.flatMap_cons, treatRoots]
      dsimp only at first
      cases treated : treatRoot build state root with
      | mk next result =>
          rw [treated] at first
          cases result with
          | error cause =>
              rw [List.flatMap_nil, List.append_nil]
              exact first
          | ok done => exact first.append (ih next)

/-- A run treats its roots in the state behind its opening. -/
theorem run_eq (build : Build) (tree : FileTree) :
    run build tree =
      match opening build tree with
      | (state, .error cause) => (state, .error cause)
      | (state, .ok _) =>
        match treatRoots build state build.config.sources with
        | (state, .error cause) => (state, .error cause)
        | (state, .ok _) =>
          (state.report .info "run finished" (summaryDetails state.summary), .ok state.summary) :=
  rfl

/-- **A run makes its visits one after the other.** -/
theorem walk_run (build : Build) (tree : FileTree) :
    Walk build.config (opening build tree).1 (visits build tree) (run build tree).1 := by
  rw [run_eq, visits, turns]
  cases opening build tree with
  | mk state result =>
      cases result with
      | error cause => exact .refl state
      | ok done =>
          have walk := walk_treatRoots build state build.config.sources
          dsimp only
          cases treated : treatRoots build state build.config.sources with
          | mk last ended =>
              rw [treated] at walk
              cases ended with
              | error cause => exact walk
              | ok done => exact walk.to_alike (BuildState.alike_report _ _ _ _)

/-! ## What visits do to the tree -/

/-- The places that some visits write at. -/
def WrittenBy (config : Config) (tree : FileTree) (visits : List Visit) (place : Place) : Prop :=
  ∃ visit ∈ visits, written? config visit.state visit.file ≠ none ∧
    tree.placeOf (targetOf config visit.file) = place

namespace Walk

variable {before after : BuildState} {visits : List Visit}

/-- **Some visits leave everything as it is but for the files that they write.** -/
theorem keeps (walk : Walk config before visits after) :
    Keeps (WrittenBy config before.tree visits) before.tree after.tree := by
  induction visits generalizing before with
  | nil =>
      rw [BuildState.Alike.tree walk]
      exact .refl _ _
  | cons visit later ih =>
      obtain ⟨alike, onward⟩ := walk
      have behind := ih onward
      rw [tree_outcome] at behind
      rw [← alike.tree]
      have here : Keeps (WrittenBy config visit.state.tree (visit :: later)) visit.state.tree
          (treat config visit.state visit.file).1.tree :=
        (keeps_treat config visit.state visit.file).mono fun place wrote =>
          ⟨visit, List.mem_cons_self, wrote⟩
      refine here.trans (behind.mono ?_)
      rintro place ⟨other, inside, written, rfl⟩
      exact ⟨other, List.mem_cons_of_mem _ inside, written, (here.placeOf _).symm⟩

/-- The places that paths name are the same all along. -/
theorem placeOf (walk : Walk config before visits after) (path : String) :
    after.tree.placeOf path = before.tree.placeOf path :=
  walk.keeps.placeOf path

/-- **A file that is there behind some visits was there in front of them with the same bytes, or
holds what the last of them has written that writes at its place.** -/
theorem origin (walk : Walk config before visits after) {place : Place} {bytes : ByteArray}
    {mode : Nat} (file : after.tree.node? place = some (.file bytes mode)) :
    (∃ mode', before.tree.node? place = some (.file bytes mode')) ∨
      ∃ earlier visit later, visits = earlier ++ visit :: later ∧
        written? config visit.state visit.file = some bytes ∧
        before.tree.placeOf (targetOf config visit.file) = place ∧
        after.tree.locate (targetOf config visit.file) = .ok place ∧
        ¬WrittenBy config before.tree later place := by
  induction visits using List.reverseRecOn generalizing after mode with
  | nil =>
      rw [BuildState.Alike.tree walk] at file
      exact .inl ⟨mode, file⟩
  | append_singleton visits last ih =>
      obtain ⟨middle, front, alike, (ends : (outcome config last).1.Alike after)⟩ := walk.split
      have target := front.placeOf (targetOf config last.file)
      rw [← alike.tree] at target
      rw [ends.tree, tree_outcome] at file ⊢
      rcases origin_of_treat file with ⟨written, here, located⟩ | ⟨there, apart⟩
      · exact .inr ⟨visits, last, [], rfl, written, target.symm.trans here, located, nofun⟩
      · rw [alike.tree] at there
        rcases ih front there with unchanged | ⟨earlier, visit, later, made, written, at_, leads, last_⟩
        · exact .inl unchanged
        · rw [← alike.tree] at leads
          refine .inr ⟨earlier, visit, later ++ [last], ?_, written, at_,
            (keeps_treat config last.state last.file).locate leads, ?_⟩
          · rw [made, List.append_assoc, List.cons_append]
          · rintro ⟨other, inside, wrote, same⟩
            rcases List.mem_append.mp inside with front_ | final
            · exact last_ ⟨other, front_, wrote, same⟩
            · obtain rfl := List.mem_singleton.mp final
              exact apart ⟨wrote, target.trans same⟩

end Walk

end Build

end CommentDirectives
