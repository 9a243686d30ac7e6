import CommentDirectives.Proofs.Build.Visits
import CommentDirectives.Proofs.Processing.Independence
import CommentDirectives.Proofs.Session.OneName

/-!
# Names that providers own over a run

Since no line gives a layer a name that a provider owns, or takes one away, no step does
(`Processing.LeavesWith.keepsOwned`), no reading of a file does (`Processing.keepsOwned_of_reaches`,
`Processing.keepsOwned_run`), and no run over trees of files does (`Build.Walk.keepsOwned`).  The
values that providers hold come and go, but which names they own stays the same, and that is what
carries the invariant from one file to the next.

Together with what a single assignment or removal does, this says how far writing reaches: one name,
in one place (`Session.touches_one_name`).
-/

namespace CommentDirectives

set_option autoImplicit false

/-! ## Reading files -/

namespace Processing

variable {config : Config} {tree : FileTree}

/-- A step does no more to the layers than its line. -/
theorem LeavesWith.keepsOwned {processing : Processing} {after : Session}
    (leaves : processing.LeavesWith config after) : processing.session.KeepsOwned after := by
  cases leaves with
  | unread nothing same =>
      rw [same]
      exact .refl _
  | read reads continues =>
      exact (Session.keepsOwned_processLine _ _ _).trans continues.sameVariables.keepsOwned

/-- **In every state that is reached, names that providers own are in the layers as before.** -/
theorem keepsOwned_of_reaches {first reached : Processing}
    (reaches : Reaches config tree first reached) : first.session.KeepsOwned reached.session := by
  induction reaches with
  | refl => exact .refl _
  | tail _ leads ih =>
      have step := leavesWith_of_transition (transition_of_proceed leads)
      exact ih.trans step.keepsOwned

/-- **A run neither adds names that providers own to the layers nor takes them away.** -/
theorem keepsOwned_run (config : Config) (tree : FileTree) (first : Processing) :
    first.session.KeepsOwned (first.run config tree).1.session := by
  obtain ⟨reached, reaches, stops⟩ := exists_last_step config tree first
  have last := leavesWith_of_transition (transition_of_stop stops)
  exact (keepsOwned_of_reaches reaches).trans last.keepsOwned

end Processing

namespace Config

variable (config : Config) (tree : FileTree) (globals : Layer) (providers : List Provider)

theorem keepsOwned_processText (path text : String) :
    Session.KeepsOwned { globals := globals, providers := providers }
      (config.processText tree globals providers path text).session :=
  (Processing.keepsOwned_run config tree (.start globals providers path text)).trans
    (config.sameVariables_processText tree globals providers path text).keepsOwned

theorem keepsOwned_processFile (path : String) :
    Session.KeepsOwned { globals := globals, providers := providers }
      (config.processFile tree globals providers path).session := by
  unfold processFile
  split
  · exact .refl _
  · exact config.keepsOwned_processText tree globals providers path _

end Config

/-! ## Runs over trees of files -/

/-- The same names are owned, and those are neither given to the shared layer nor taken away. -/
structure BuildState.KeepsOwned (before after : BuildState) : Prop where
  realms : after.providers.map (·.realm) = before.providers.map (·.realm)
  globals : before.globals.KeepsOwned before.providers after.globals

namespace BuildState

theorem KeepsOwned.trans {first second third : BuildState} (front : first.KeepsOwned second)
    (back : second.KeepsOwned third) : first.KeepsOwned third where
  realms := back.realms.trans front.realms
  globals name owned := by
    have still := (Provider.any_owns_congr front.realms name).trans owned
    exact (back.globals name still).trans (front.globals name owned)

/-- States with the same variables and providers. -/
theorem keepsOwned_of_eq {before after : BuildState} (globals : after.globals = before.globals)
    (providers : after.providers = before.providers) : before.KeepsOwned after :=
  ⟨by rw [providers], fun _ _ => by rw [globals]⟩

end BuildState

namespace Build

variable {config : Config} {build : Build}

/-- Reading a file keeps them. -/
theorem keepsOwned_prepare (config : Config) (state : BuildState) (file : SourceFile) :
    state.KeepsOwned (prepare config state file).1 := by
  have same {after : BuildState} (globals : after.globals = state.globals)
      (providers : after.providers = state.providers) : state.KeepsOwned after :=
    BuildState.keepsOwned_of_eq globals providers
  unfold prepare
  split
  · exact same rfl rfl
  · split
    · have kept := config.keepsOwned_processFile state.tree state.globals state.providers file.path
      dsimp only
      split <;> exact ⟨kept.realms, kept.globals⟩
    · split <;> exact same rfl rfl

theorem keepsOwned_outcome (config : Config) (visit : Visit) :
    visit.state.KeepsOwned (outcome config visit).1 := by
  obtain ⟨globals, providers⟩ := outcome_keeps config visit
  exact (keepsOwned_prepare config visit.state visit.file).trans
    (BuildState.keepsOwned_of_eq globals providers)

/-- **Visits neither add names that providers own to the shared layer nor take them away.** -/
theorem Walk.keepsOwned {before after : BuildState} {visits : List Visit}
    (walk : Walk config before visits after) : before.KeepsOwned after := by
  induction visits generalizing before with
  | nil =>
      exact BuildState.keepsOwned_of_eq (BuildState.Alike.globals walk)
        (BuildState.Alike.providers walk)
  | cons visit later ih =>
      have here := BuildState.keepsOwned_of_eq walk.1.globals walk.1.providers
      exact (here.trans (keepsOwned_outcome config visit)).trans (ih walk.2)

/-- In front of every visit they are as at the start of the walk. -/
theorem Walk.keepsOwned_of_mem {before after : BuildState} {visits : List Visit}
    (walk : Walk config before visits after) {visit : Visit} (inside : visit ∈ visits) :
    before.KeepsOwned visit.state := by
  obtain ⟨earlier, later, rfl⟩ := List.append_of_mem inside
  obtain ⟨middle, front, alike, _⟩ := walk.split
  exact front.keepsOwned.trans (BuildState.keepsOwned_of_eq alike.globals alike.providers)

/-- **Over a whole run, names that providers own stay as they are in the shared layer, and no file
has a value of its own for them.**  That holds in front of every file, in every state in which a
line of it is read, and at the end. -/
theorem keepsOwned_of_run (build : Build) (tree : FileTree) :
    build.globals.KeepsOwned build.config.providers (build.run tree).1.globals ∧
      ∀ visit ∈ build.visits tree, ∀ text,
        visit.state.tree.readText visit.file.path = .ok text →
        ∀ reached, Processing.Reaches build.config visit.state.tree
            (.start visit.state.globals visit.state.providers visit.file.path text) reached →
          Layer.empty.KeepsOwned build.config.providers reached.session.locals ∧
            build.globals.KeepsOwned build.config.providers reached.session.globals := by
  obtain ⟨globals, providers, _⟩ := opening_keeps build tree
  have walk := walk_run build tree
  have ended := walk.keepsOwned.globals
  rw [globals, providers] at ended
  refine ⟨ended, fun visit inside text read reached reaches => ?_⟩
  have before := walk.keepsOwned_of_mem inside
  have within := Processing.keepsOwned_of_reaches reaches
  have owned {name : String} (owned : build.config.providers.any (·.owns name) = true) :
      visit.state.providers.any (·.owns name) = true := by
    rwa [Provider.any_owns_congr before.realms, providers]
  have atVisit := before.globals
  rw [globals, providers] at atVisit
  exact ⟨fun name inRealm => within.locals name (owned inRealm),
    fun name inRealm => (within.globals name (owned inRealm)).trans (atVisit name inRealm)⟩

end Build

/-! ## How far writing reaches -/

namespace Session

open Provider (FirstOwner)

/-- **Assignments and removals touch one name in one place.**  Take any session and a name that
directives accept.

* An assignment or removal that succeeds changes the lookup of no name that is stored under another
  key, on no line.
* If a provider owns the name, the name is not removed, and an assignment changes the first owner or
  is refused; no layer changes.
* If none owns it, an assignment changes the layer that is asked for, and a removal the file's own
  layer if the name has a value there, and otherwise the shared one.
* A line whose assignment or removal is refused changes nothing at all.
* In every state that is reached in the reading of files, at its end and over runs over trees of
  files, the names that providers own are in the layers as at the start. -/
theorem touches_one_name (session : Session) (name : String) (value : Value)
    (valid : Name.isValid name = true) :
    ((∀ kind after, session.assign kind name value = .ok after →
          OthersAlike name session after) ∧
        ∀ after, session.undefine name = .ok after → OthersAlike name session after) ∧
      (∀ front owner behind, FirstOwner name session.providers front owner behind →
        session.undefine name =
            .error (withoutValue
              (.readOnlyVariable name "provider variables cannot be removed")) ∧
          ∀ kind, session.assign kind name value =
            if owner.writable then
              .ok { session with providers := front ++ owner.withValue name value :: behind }
            else
              .error (withoutValue (.readOnlyVariable name
                ("'" ++ Text.lowercase name ++ "' is provided by a read-only source")))) ∧
      (session.providers.any (·.owns name) = false →
        session.assign .locals name value =
            .ok { session with locals := session.locals.set name value } ∧
          session.assign .globals name value =
            .ok { session with globals := session.globals.set name value } ∧
          session.undefine name =
            if session.locals.contains name then
              .ok { session with locals := session.locals.remove name }
            else if session.globals.contains name then
              .ok { session with globals := session.globals.remove name }
            else .error (withoutValue (.unresolvedVariable name))) ∧
      (∀ context directive tail after cause,
        (directive.assigns = true ∨ directive = .undefine) →
        session.perform context directive tail = (after, .error cause) → after = session) ∧
      (∀ config tree first,
        (∀ reached, Processing.Reaches config tree first reached →
            first.session.KeepsOwned reached.session) ∧
          first.session.KeepsOwned (first.run config tree).1.session) ∧
      ∀ (build : Build) (tree : FileTree),
        build.globals.KeepsOwned build.config.providers (build.run tree).1.globals ∧
          ∀ visit ∈ build.visits tree, ∀ text,
            visit.state.tree.readText visit.file.path = .ok text →
            ∀ reached, Processing.Reaches build.config visit.state.tree
                (.start visit.state.globals visit.state.providers visit.file.path text) reached →
              Layer.empty.KeepsOwned build.config.providers reached.session.locals ∧
                build.globals.KeepsOwned build.config.providers reached.session.globals := by
  refine ⟨⟨?_, ?_⟩, ?_, ?_, ?_, ?_, ?_⟩
  · exact fun kind after assigned => othersAlike_of_assign valid assigned
  · exact fun after removed => othersAlike_of_undefine removed
  · exact fun front owner behind first =>
      ⟨undefine_of_owned first.any_owns, fun kind => assign_of_firstOwner valid first kind value⟩
  · exact fun free => ⟨assign_of_free valid free .locals value,
      assign_of_free valid free .globals value, undefine_of_free free⟩
  · exact fun context directive tail after cause writes refused => eq_of_refused writes refused
  · exact fun config tree first => ⟨fun reached reaches => Processing.keepsOwned_of_reaches reaches,
      Processing.keepsOwned_run config tree first⟩
  · exact Build.keepsOwned_of_run

/-- A session with two providers of which both own names that start with `lib.x`. -/
def overlapping : Session where
  globals := .ofList [("lib.x", .int 1), ("x", .int 2)]
  locals := .ofList [("x", .int 3)]
  providers := [.shared "Lib.", .shared "lib.x"]

/-- The name in letters of any case goes to the first of them, and stays in the layers. -/
theorem touches_one_name_overlapping :
    Name.isValid "LIB.X" = true ∧
      overlapping.assign .globals "LIB.X" (.int 5) =
        .ok { overlapping with
          providers := [(Provider.shared "Lib.").withValue "LIB.X" (.int 5), .shared "lib.x"] } ∧
      (∃ cause, overlapping.undefine "LIB.X" = .error cause) ∧
      overlapping.undefine "X" =
        .ok { overlapping with locals := overlapping.locals.remove "X" } := by
  have valid : Name.isValid "LIB.X" = true := by decide
  have validX : Name.isValid "X" = true := by decide
  have first : FirstOwner "LIB.X" overlapping.providers [] (.shared "Lib.") [.shared "lib.x"] :=
    ⟨rfl, nofun, by decide⟩
  obtain ⟨_, owned, _⟩ := touches_one_name overlapping "LIB.X" (.int 5) valid
  obtain ⟨_, _, free, _⟩ := touches_one_name overlapping "X" (.int 5) validX
  obtain ⟨kept, written⟩ := owned [] _ _ first
  obtain ⟨_, _, removed⟩ := free (by decide)
  exact ⟨valid, written .globals, ⟨_, kept⟩, removed⟩

end Session

end CommentDirectives
