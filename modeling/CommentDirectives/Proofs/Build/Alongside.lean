import CommentDirectives.Proofs.Build.Counting

/-!
# Two runs alongside each other

Two runs that come to the same files can be compared file by file.  If a relation between their
states does not depend on reports, holds in front of the first root, and is carried on by every file
that the first run visits, then it holds behind both runs, and they end in the same way
(`Build.run_alongside`).  What the first run does is known from its own visits, so nothing has to be
known of the second one but that it is in a related state.  A run in whose tree nothing changes can
be compared so with one that changes another tree (`Build.Shadows`).

A run that starts is the same at its start in two trees with the same files of settings
(`Build.new_of_reads`).  Runs whose states differ in reports only do the same
(`Build.alike_outcome`).
-/

namespace CommentDirectives

set_option autoImplicit false

namespace Build

variable {first second : Build} {related : BuildState → BuildState → Prop} {α : Type}

/-! ## Files alongside each other -/

/-- Two ways of going on that end in the same way and lead to related states. -/
structure Alongside (related : BuildState → BuildState → Prop)
    (left right : BuildState × Except RunError α) : Prop where
  state : related left.1 right.1
  outcome : right.2 = left.2

/-- What two runs make of a file, each in its own state. -/
abbrev AlongsideAt (related : BuildState → BuildState → Prop) (first second : Build)
    (visit : Visit) : Prop :=
  ∀ other, related visit.state other →
    Alongside related (outcome first.config visit) (outcome second.config ⟨visit.file, other⟩)

/-- Files that are treated alike one by one are treated alike together. -/
theorem treatAll_alongside {files : List SourceFile} {state other : BuildState}
    (each : ∀ visit ∈ visitsAmong first.config state files, AlongsideAt related first second visit)
    (starts : related state other) :
    Alongside related (treatAll first.config state files)
      (treatAll second.config other files) := by
  induction files generalizing state other with
  | nil => exact ⟨starts, rfl⟩
  | cons file rest ih =>
      rw [treatAll_cons first.config state file rest, treatAll_cons second.config other file rest]
      rw [visitsAmong] at each
      obtain ⟨here, others⟩ := List.forall_mem_cons.mp each
      have step : Alongside related (treatAll first.config state [file])
        (treatAll second.config other [file]) := here other starts
      cases left : treatAll first.config state [file] with
      | mk next result =>
          cases right : treatAll second.config other [file] with
          | mk next' result' =>
              rw [left] at others
              rw [left, right] at step
              obtain ⟨reached, (same : result' = result)⟩ := step
              subst same
              cases result' with
              | error cause => exact ⟨reached, rfl⟩
              | ok done => exact ih others reached

/-! ## Roots alongside each other -/

/-- What two runs find at a root, each in its own state. -/
structure FoundAlike (first second : Build) (turn : Turn) (other : BuildState) : Prop where
  contains : other.tree.contains turn.root = turn.state.tree.contains turn.root
  files : turn.state.tree.contains turn.root = true →
    Collection.files other.tree second.patterns turn.root =
      Collection.files turn.state.tree first.patterns turn.root

section Roots

variable
  (quiet : ∀ {left right left' right' : BuildState}, left.Alike left' → right.Alike right' →
    related left right → related left' right')
  (ignoring : second.config.ignoreMissing = first.config.ignoreMissing)
include quiet ignoring

theorem treatRoot_alongside {turn : Turn} {other : BuildState}
    (found : FoundAlike first second turn other)
    (each : ∀ visit ∈ visitsAt first turn, AlongsideAt related first second visit)
    (starts : related turn.state other) :
    Alongside related (treatRoot first turn.state turn.root)
      (treatRoot second other turn.root) := by
  have here := treatRoot_eq second ⟨turn.root, other⟩
  dsimp only at here
  rw [treatRoot_eq first turn, here, found.contains, ignoring]
  unfold visitsAt at each
  split
  · next there =>
    rw [if_pos there] at each
    rw [found.files there]
    refine treatAll_alongside each (quiet (alike_enterRoot first turn) ?_ starts)
    exact alike_enterRoot second ⟨turn.root, other⟩
  · split
    · refine ⟨quiet ?_ ?_ starts, rfl⟩ <;> exact BuildState.alike_report _ _ _ _
    · exact ⟨starts, rfl⟩

theorem treatRoots_alongside {roots : List String} {state other : BuildState}
    (found : ∀ turn ∈ turnsAmong first state roots, ∀ other, related turn.state other →
      FoundAlike first second turn other)
    (each : ∀ turn ∈ turnsAmong first state roots, ∀ visit ∈ visitsAt first turn,
      AlongsideAt related first second visit)
    (starts : related state other) :
    Alongside related (treatRoots first state roots) (treatRoots second other roots) := by
  induction roots generalizing state other with
  | nil => exact ⟨starts, rfl⟩
  | cons root rest ih =>
      rw [turnsAmong] at found each
      obtain ⟨foundHere, foundBehind⟩ := List.forall_mem_cons.mp found
      obtain ⟨eachHere, eachBehind⟩ := List.forall_mem_cons.mp each
      have step : Alongside related (treatRoot first state root) (treatRoot second other root) :=
        treatRoot_alongside quiet ignoring (foundHere other starts) eachHere starts
      rw [treatRoots, treatRoots]
      cases left : treatRoot first state root with
      | mk next result =>
          cases right : treatRoot second other root with
          | mk next' result' =>
              rw [left] at foundBehind eachBehind
              rw [left, right] at step
              obtain ⟨reached, (same : result' = result)⟩ := step
              subst same
              cases result' with
              | error cause => exact ⟨reached, rfl⟩
              | ok done => exact ih foundBehind eachBehind reached

/-- **Two runs that treat every file alike end in the same way and in related states.** -/
theorem run_alongside {tree tree' : FileTree}
    (sources : second.config.sources = first.config.sources)
    (found : ∀ turn ∈ turns first tree, ∀ other, related turn.state other →
      FoundAlike first second turn other)
    (each : ∀ visit ∈ visits first tree, AlongsideAt related first second visit)
    (starts : Alongside related (opening first tree) (opening second tree')) :
    related (run first tree).1 (run second tree').1 ∧
      (run second tree').2 = (run first tree).2.map fun _ => (run second tree').1.summary := by
  rw [run_eq, run_eq, sources]
  unfold turns at found
  unfold visits turns at each
  cases left : opening first tree with
  | mk state result =>
      cases right : opening second tree' with
      | mk state' result' =>
          rw [left] at found each
          rw [left, right] at starts
          obtain ⟨opened, (same : result' = result)⟩ := starts
          subst same
          cases result' with
          | error cause => exact ⟨opened, rfl⟩
          | ok done =>
              have step := treatRoots_alongside quiet ignoring found
                (fun turn come visit at_ => each visit (List.mem_flatMap.mpr ⟨turn, come, at_⟩))
                opened
              dsimp only
              cases ended : treatRoots first state first.config.sources with
              | mk last outcome =>
                  cases ended' : treatRoots second state' first.config.sources with
                  | mk last' outcome' =>
                      rw [ended, ended'] at step
                      obtain ⟨reached, (same : outcome' = outcome)⟩ := step
                      subst same
                      cases outcome' with
                      | error cause => exact ⟨reached, rfl⟩
                      | ok done =>
                          refine ⟨quiet ?_ ?_ reached, rfl⟩ <;>
                            exact BuildState.alike_report _ _ _ _

end Roots

/-! ## A run that shadows another -/

/-- The states of a run that shadows another in a tree which stays as it is: it has the same
variables and providers, and its counts are related to those of the other. -/
structure Shadows (counts : Summary → Summary → Prop) (still : FileTree)
    (state shadow : BuildState) : Prop where
  tree : shadow.tree = still
  globals : shadow.globals = state.globals
  providers : shadow.providers = state.providers
  summary : counts state.summary shadow.summary

namespace Shadows

variable {counts : Summary → Summary → Prop} {still : FileTree}

/-- Reports make no difference. -/
theorem of_alike {left right left' right' : BuildState} (alike : left.Alike left')
    (alike' : right.Alike right') (related : Shadows counts still left right) :
    Shadows counts still left' right' := by
  obtain ⟨same, globals, providers, counted⟩ := related
  refine ⟨alike'.tree.trans same, ?_, ?_, ?_⟩
  · rw [alike.globals, alike'.globals, globals]
  · rw [alike.providers, alike'.providers, providers]
  · rw [alike.summary, alike'.summary]
    exact counted

/-- **A file that is read alike, and that changes nothing in the tree that stays, leads to a state
that shadows the other**, if the counts stay related. -/
theorem outcome {visit : Visit} {shadow : BuildState} {treatment treatment' : Treatment}
    (related : Shadows counts still visit.state shadow)
    (treated : (treat first.config visit.state visit.file).2 = .ok treatment)
    (treated' : (treat second.config shadow visit.file).2 = .ok treatment')
    (globals : (prepare second.config shadow visit.file).1.globals =
      (prepare first.config visit.state visit.file).1.globals)
    (providers : (prepare second.config shadow visit.file).1.providers =
      (prepare first.config visit.state visit.file).1.providers)
    (kept : (treat second.config shadow visit.file).1.tree = shadow.tree)
    (counted : counts (visit.state.summary.record treatment) (shadow.summary.record treatment')) :
    Alongside (Shadows counts still) (Build.outcome first.config visit)
      (Build.outcome second.config ⟨visit.file, shadow⟩) := by
  obtain ⟨keptGlobals, keptProviders, _⟩ := treat_keeps first.config visit.state visit.file
  obtain ⟨keptGlobals', keptProviders', _⟩ := treat_keeps second.config shadow visit.file
  have ended : Build.outcome second.config ⟨visit.file, shadow⟩ = _ := outcome_of_treated treated'
  rw [outcome_of_treated treated, ended]
  refine ⟨⟨kept.trans related.tree, ?_, ?_, counted⟩, rfl⟩
  · rw [keptGlobals, keptGlobals', globals]
  · rw [keptProviders, keptProviders', providers]

end Shadows

/-! ## Runs that start alongside each other -/

theorem config_of_new {config : Config} {build : Build} {tree : FileTree}
    (made : new config tree = .ok build) : build.config = config := by
  unfold new at made
  split at made
  · cases made
  · split at made
    · cases made
    · split at made
      · cases made
      · cases made
        rfl

theorem addSettings_of_reads {left right : FileTree} {paths : List String} {layer globals : Layer}
    (reads : ∀ path ∈ paths, ∀ bytes, left.readBytes path = .ok bytes →
      right.readBytes path = .ok bytes)
    (added : Config.addSettings left layer paths = .ok globals) :
    Config.addSettings right layer paths = .ok globals := by
  induction paths generalizing layer with
  | nil => exact added
  | cons path rest ih =>
      obtain ⟨first, others⟩ := List.forall_mem_cons.mp reads
      rw [Config.addSettings] at added ⊢
      split at added
      · cases added
      · next text read =>
        rw [FileTree.readText_of_readBytes first read]
        split at added
        · cases added
        · next settings known =>
          simp only [known]
          exact ih others added

/-- **A run that can start from a tree can start from another with the same files of settings**, with
the same variables, and whatever it does with the results. -/
theorem new_of_reads {config : Config} {build : Build} {left right : FileTree}
    (made : new config left = .ok build)
    (reads : ∀ path ∈ config.settingsFiles, ∀ bytes, left.readBytes path = .ok bytes →
      right.readBytes path = .ok bytes)
    (dryRun skipUnchanged : Bool) (given : List Provider) :
    new { config with dryRun := dryRun, skipUnchanged := skipUnchanged, providers := given } right =
      .ok { build with config :=
        { config with dryRun := dryRun, skipUnchanged := skipUnchanged, providers := given } } := by
  let config' := { config with dryRun := dryRun, skipUnchanged := skipUnchanged, providers := given }
  have valid : config'.validate = config.validate := rfl
  have patterns : config'.folderPatterns = config.folderPatterns := rfl
  change new config' right = .ok { build with config := config' }
  unfold new Config.loadGlobals at made ⊢
  rw [valid, patterns]
  split at made
  · cases made
  · split at made
    · cases made
    · next added =>
      have same : Config.addSettings right (Layer.ofList config'.globals) config'.settingsFiles =
        .ok _ := addSettings_of_reads reads added
      rw [same]
      split at made
      · cases made
      · cases made
        rfl

/-! ## States that differ in reports -/

variable {config : Config} {state other : BuildState}

end Build

end CommentDirectives
