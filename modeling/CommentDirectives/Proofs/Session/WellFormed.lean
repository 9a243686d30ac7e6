import CommentDirectives.Proofs.Processing.Transition
import CommentDirectives.Proofs.Session.Moves
import CommentDirectives.Proofs.Session.Owners
import CommentDirectives.Proofs.Value.WellFormed

/-!
# Sets without repetitions in a whole pipeline

Variables, providers and the arguments of actions hold values without repetitions from the first
file to the last, if the variables and providers that a configuration starts with do
(`Config.values_wellFormed`).  Lines write values in three places only: an assignment writes to a
provider or a layer, and an action records its arguments; in both cases they are values of
expressions.  Raw texts of settings give values that are no sets.
-/

namespace CommentDirectives

set_option autoImplicit false

/-! ## Maps of values -/

/-- A map that holds values without repetitions only. -/
def SortedMap.ValuesWellFormed (map : SortedMap String Value) : Prop :=
  ∀ entry ∈ map.entries, entry.2.WellFormed

namespace SortedMap.ValuesWellFormed

variable {map : SortedMap String Value}

theorem empty : (SortedMap.empty : SortedMap String Value).ValuesWellFormed := nofun

theorem get? (wellFormed : map.ValuesWellFormed) {name : String} {value : Value}
    (found : map.get? name = some value) : value.WellFormed :=
  wellFormed (name, value) (mem_of_find? found)

theorem insert (wellFormed : map.ValuesWellFormed) (name : String) {value : Value}
    (valueWellFormed : value.WellFormed) : (map.insert name value).ValuesWellFormed := by
  intro entry inside
  rcases mem_place inside with placed | inside
  · rw [placed]
    exact valueWellFormed
  · exact wellFormed entry inside

theorem erase (wellFormed : map.ValuesWellFormed) (name : String) :
    (map.erase name).ValuesWellFormed :=
  fun entry inside => wellFormed entry (List.mem_filter.mp inside).1

end SortedMap.ValuesWellFormed

/-- A layer that holds values without repetitions only. -/
def Layer.WellFormed (layer : Layer) : Prop := layer.values.ValuesWellFormed

/-- A provider that holds values without repetitions only. -/
def Provider.WellFormed (provider : Provider) : Prop := provider.values.ValuesWellFormed

theorem Layer.WellFormed.empty : Layer.empty.WellFormed := SortedMap.ValuesWellFormed.empty

/-- A layer after assignments of values without repetitions. -/
theorem Layer.WellFormed.setAll {layer : Layer} (wellFormed : layer.WellFormed)
    {assignments : List (String × Value)}
    (each : ∀ assignment ∈ assignments, assignment.2.WellFormed) :
    (layer.setAll assignments).WellFormed := by
  induction assignments generalizing layer with
  | nil => exact wellFormed
  | cons assignment rest ih =>
      obtain ⟨first, others⟩ := List.forall_mem_cons.mp each
      have written : (layer.set assignment.1 assignment.2).WellFormed := wellFormed.insert _ first
      exact ih written others

/-- An assignment among providers writes to one of them and leaves the others as they are. -/
theorem Provider.wellFormed_of_assignAmong {providers changed : List Provider} {name : String}
    {value : Value} (wellFormed : ∀ provider ∈ providers, provider.WellFormed)
    (valueWellFormed : value.WellFormed)
    (assigned : assignAmong? name value providers = some (.ok changed)) :
    ∀ provider ∈ changed, provider.WellFormed := by
  obtain ⟨front, owner, behind, ⟨rfl, _, _⟩, _, rfl⟩ := exists_of_assignAmong assigned
  rw [List.forall_mem_append, List.forall_mem_cons] at wellFormed ⊢
  obtain ⟨inFront, first, others⟩ := wellFormed
  exact ⟨inFront, first.insert _ valueWellFormed, others⟩

/-- The value of a setting is spelled by raw text. -/
theorem SettingsFile.isScalar_of_setting {line : List Char} {setting : String × Value}
    (answered : setting? line = .ok (some setting)) : setting.2.IsScalar := by
  unfold setting? at answered
  split at answered
  · cases answered
  · cases answered
  · split at answered
    · cases answered
    · dsimp only at answered
      split at answered <;> cases answered
      dsimp only
      exact Value.isScalar_recognize _

/-- The settings of a file have values without repetitions. -/
theorem SettingsFile.wellFormed_of_readLines {file : String} {number : Nat}
    {lines : List (List Char)} {settings : List (String × Value)}
    (answered : readLines file number lines = .ok settings) :
    ∀ setting ∈ settings, setting.2.WellFormed := by
  induction lines generalizing number settings with
  | nil =>
      cases answered
      exact nofun
  | cons line rest ih =>
      unfold readLines at answered
      split at answered
      · cases answered
      · next found spelled =>
        split at answered
        · cases answered
        · next others readOthers =>
          cases answered
          intro setting inside
          rcases List.mem_append.mp inside with here | there
          · rw [Option.mem_toList] at here
            cases here
            exact (isScalar_of_setting spelled).wellFormed
          · exact ih readOthers setting there

/-- The variables of a place are numbers and texts. -/
theorem FilePosition.isScalar {position : FilePosition} {name : String} {value : Value}
    (found : position.value? name = some value) : value.IsScalar := by
  unfold FilePosition.value? at found
  split_ifs at found <;> cases found <;> exact nofun

/-! ## Sessions -/

/-- A session whose variables, providers and actions hold values without repetitions only. -/
structure Session.WellFormed (session : Session) : Prop where
  globals : session.globals.WellFormed
  locals : session.locals.WellFormed
  providers : ∀ provider ∈ session.providers, provider.WellFormed
  actions : ∀ action ∈ session.actions, ∀ value ∈ action.arguments, value.WellFormed

namespace Session

variable {session : Session} {context : LineContext}

namespace WellFormed

theorem report (wellFormed : session.WellFormed) (severity : Severity) (message : String)
    (details : List (String × String)) : (session.report severity message details).WellFormed :=
  ⟨wellFormed.globals, wellFormed.locals, wellFormed.providers, wellFormed.actions⟩

theorem write (wellFormed : session.WellFormed) (line : List Char) :
    (session.write line).WellFormed :=
  ⟨wellFormed.globals, wellFormed.locals, wellFormed.providers, wellFormed.actions⟩

theorem skip (wellFormed : session.WellFormed) (config : Config) :
    (session.skip config).WellFormed := by
  unfold Session.skip
  split
  · exact wellFormed.write []
  · exact wellFormed

theorem skipLines (wellFormed : session.WellFormed) (config : Config) (count : Nat) :
    (session.skipLines config count).WellFormed := by
  induction count with
  | zero => exact wellFormed
  | succ count ih => exact ih.skip config

theorem withNesting (wellFormed : session.WellFormed) (nesting : Nesting) :
    { session with nesting := nesting }.WellFormed :=
  ⟨wellFormed.globals, wellFormed.locals, wellFormed.providers, wellFormed.actions⟩

theorem writeText (wellFormed : session.WellFormed) (text : List Char) :
    (session.writeText context text).WellFormed := by
  have stripped (inBlock : Bool) (opened : Option Location) :
      { session with inBlock := inBlock, commentOpened := opened }.WellFormed :=
    ⟨wellFormed.globals, wellFormed.locals, wellFormed.providers, wellFormed.actions⟩
  unfold Session.writeText
  split
  · exact wellFormed.write text
  · dsimp only
    split
    · exact (stripped _ _).skip _
    · exact (stripped _ _).write _

/-! ### What expressions on a line see -/

theorem scope (wellFormed : session.WellFormed) : (session.scope context).WellFormed := by
  intro name value found
  unfold Scope.lookup at found
  split at found
  · next provider owner =>
    have listed : provider ∈ session.providers := List.mem_of_find?_eq_some owner
    exact (wellFormed.providers provider listed).get? found
  split at found
  · next placed =>
    cases found
    obtain ⟨position, _, answered⟩ := Option.bind_eq_some_iff.mp placed
    exact (FilePosition.isScalar answered).wellFormed
  split at found
  · next held =>
    cases found
    exact wellFormed.locals.get? held
  · exact wellFormed.globals.get? found

theorem evaluate (wellFormed : session.WellFormed) {expr : Expr} {value : Value}
    (answered : session.evaluate context expr = .ok value) : value.WellFormed :=
  Expr.wellFormed_of_eval wellFormed.scope expr (eq_ok_of_mapError answered)

theorem readValues (wellFormed : session.WellFormed) {tail : List Char} {values : List Value}
    (answered : session.readValues context tail = .ok values) :
    ∀ value ∈ values, value.WellFormed := by
  obtain ⟨exprs, _, evaluated⟩ := exists_of_bind_eq_ok answered
  exact Expr.wellFormed_of_evalAll wellFormed.scope exprs (eq_ok_of_mapError evaluated)

/-! ### Directives -/

/-- A change that succeeds with a session of this kind, or fails. -/
theorem change (wellFormed : session.WellFormed) {changed : Except LineError Session}
    (kept : ∀ after, changed = .ok after → after.WellFormed) :
    (session.change changed).1.WellFormed := by
  cases changed with
  | error cause => exact wellFormed
  | ok after => exact kept after rfl

theorem openBlock (wellFormed : session.WellFormed) {test : Except LineError Bool}
    {after : Session} (succeeded : session.openBlock context test = .ok after) :
    after.WellFormed := by
  unfold Session.openBlock at succeeded
  split at succeeded
  · cases test with
    | error cause => cases succeeded
    | ok holds =>
        cases succeeded
        exact wellFormed.withNesting _
  · cases succeeded
    exact wellFormed.withNesting _

theorem elseIf (wellFormed : session.WellFormed) {tail : List Char} {after : Session}
    (succeeded : session.elseIf context tail = .ok after) : after.WellFormed := by
  rw [elseIf_eq_bind] at succeeded
  obtain ⟨_, _, succeeded⟩ := exists_of_bind_eq_ok succeeded
  obtain ⟨wanted, _, succeeded⟩ := exists_of_bind_eq_ok succeeded
  obtain ⟨holds, _, succeeded⟩ := exists_of_bind_eq_ok succeeded
  obtain ⟨nesting, _, succeeded⟩ := exists_of_bind_eq_ok succeeded
  cases succeeded
  exact wellFormed.withNesting nesting

theorem otherwise (wellFormed : session.WellFormed) {tail : List Char} {after : Session}
    (succeeded : session.otherwise context tail = .ok after) : after.WellFormed := by
  obtain ⟨_, _, succeeded⟩ := exists_of_bind_eq_ok succeeded
  obtain ⟨_, _, succeeded⟩ := exists_of_bind_eq_ok succeeded
  obtain ⟨nesting, _, succeeded⟩ := exists_of_bind_eq_ok succeeded
  cases succeeded
  exact wellFormed.withNesting nesting

theorem close (wellFormed : session.WellFormed) {tail : List Char} {after : Session}
    (succeeded : session.close context tail = .ok after) : after.WellFormed := by
  obtain ⟨_, _, succeeded⟩ := exists_of_bind_eq_ok succeeded
  obtain ⟨_, _, succeeded⟩ := exists_of_bind_eq_ok succeeded
  obtain ⟨⟨frame, nesting⟩, _, succeeded⟩ := exists_of_bind_eq_ok succeeded
  cases succeeded
  exact wellFormed.withNesting nesting

/-- An assignment writes its value to a provider or to a layer. -/
theorem assign (wellFormed : session.WellFormed) {kind : LayerKind} {name : String}
    {value : Value} (valueWellFormed : value.WellFormed) {after : Session}
    (succeeded : session.assign kind name value = .ok after) : after.WellFormed := by
  unfold Session.assign at succeeded
  split at succeeded
  · next providers assigned =>
    cases succeeded
    exact { wellFormed with
      providers := Provider.wellFormed_of_assignAmong wellFormed.providers valueWellFormed assigned }
  · cases succeeded
  · cases kind with
    | locals =>
        cases succeeded
        exact { wellFormed with locals := wellFormed.locals.insert _ valueWellFormed }
    | globals =>
        cases succeeded
        exact { wellFormed with globals := wellFormed.globals.insert _ valueWellFormed }

theorem undefine (wellFormed : session.WellFormed) {name : String} {after : Session}
    (succeeded : session.undefine name = .ok after) : after.WellFormed := by
  unfold Session.undefine at succeeded
  split at succeeded
  · cases succeeded
  split at succeeded
  · cases succeeded
    exact { wellFormed with locals := wellFormed.locals.erase _ }
  split at succeeded
  · cases succeeded
    exact { wellFormed with globals := wellFormed.globals.erase _ }
  · cases succeeded

theorem define (wellFormed : session.WellFormed) {tail : List Char} {after : Session}
    (succeeded : session.define context tail = .ok after) : after.WellFormed := by
  obtain ⟨⟨name, expr⟩, _, succeeded⟩ := exists_of_bind_eq_ok succeeded
  cases expr with
  | none =>
      have assigned : session.assign .locals name (.bool true) = .ok after := succeeded
      exact wellFormed.assign (.bool true) assigned
  | some expr =>
      obtain ⟨value, evaluated, succeeded⟩ := exists_of_bind_eq_ok succeeded
      exact wellFormed.assign (wellFormed.evaluate evaluated) succeeded

theorem setVariable (wellFormed : session.WellFormed) {directive : Directive} {kind : LayerKind}
    {tail : List Char} {after : Session}
    (succeeded : session.setVariable context directive kind tail = .ok after) :
    after.WellFormed := by
  obtain ⟨⟨name, expr⟩, _, succeeded⟩ := exists_of_bind_eq_ok succeeded
  cases expr with
  | none => cases succeeded
  | some expr =>
      obtain ⟨value, evaluated, succeeded⟩ := exists_of_bind_eq_ok succeeded
      exact wellFormed.assign (wellFormed.evaluate evaluated) succeeded

theorem removeVariable (wellFormed : session.WellFormed) {tail : List Char} {after : Session}
    (succeeded : session.removeVariable tail = .ok after) : after.WellFormed := by
  obtain ⟨name, _, succeeded⟩ := exists_of_bind_eq_ok succeeded
  exact wellFormed.undefine succeeded

theorem reportMessage (wellFormed : session.WellFormed) {severity : Severity}
    {tail : List Char} {after : Session}
    (succeeded : session.reportMessage context severity tail = .ok after) : after.WellFormed := by
  obtain ⟨message, _, succeeded⟩ := exists_of_bind_eq_ok succeeded
  cases succeeded
  exact wellFormed.report severity message _

/-- The arguments of an action are values of expressions. -/
theorem act (wellFormed : session.WellFormed) (tail : List Char) :
    (session.act context tail).1.WellFormed := by
  unfold Session.act
  split
  · exact wellFormed.report _ _ _
  split
  · exact wellFormed
  · next values evaluated =>
    refine { wellFormed with actions := fun action recorded => ?_ }
    rcases Array.mem_push.mp recorded with recorded | rfl
    · exact wellFormed.actions action recorded
    · exact wellFormed.readValues evaluated

/-- Whatever a directive does, values keep having no repetitions. -/
theorem perform (wellFormed : session.WellFormed) (directive : Directive) (tail : List Char) :
    (session.perform context directive tail).1.WellFormed := by
  cases directive with
  | openIf | openIfDefined | openIfUndefined =>
      exact wellFormed.change fun _ succeeded => wellFormed.openBlock succeeded
  | elseIf => exact wellFormed.change fun _ succeeded => wellFormed.elseIf succeeded
  | otherwise => exact wellFormed.change fun _ succeeded => wellFormed.otherwise succeeded
  | close => exact wellFormed.change fun _ succeeded => wellFormed.close succeeded
  | define => exact wellFormed.change fun _ succeeded => wellFormed.define succeeded
  | setLocal | setGlobal =>
      exact wellFormed.change fun _ succeeded => wellFormed.setVariable succeeded
  | undefine => exact wellFormed.change fun _ succeeded => wellFormed.removeVariable succeeded
  | action => exact wellFormed.act tail
  | echo | warning =>
      exact wellFormed.change fun _ succeeded => wellFormed.reportMessage succeeded
  | error =>
      refine wellFormed.change fun _ succeeded => ?_
      obtain ⟨message, _, succeeded⟩ := exists_of_bind_eq_ok succeeded
      cases succeeded
  | «include» | exit | exitIf | excludeIf => exact wellFormed

/-! ### Lines -/

theorem followDirective (wellFormed : session.WellFormed) (keyword : String)
    (tail : List Char) : (session.followDirective context keyword tail).1.WellFormed := by
  unfold Session.followDirective
  split
  · exact wellFormed
  · split
    · exact (wellFormed.report _ _ _).perform _ tail
    · exact wellFormed

/-- **Whatever a line does, values keep having no repetitions.** -/
theorem processLine (wellFormed : session.WellFormed) (line : List Char) :
    (session.processLine context line).1.WellFormed := by
  unfold Session.processLine
  split
  · exact (wellFormed.skip _).followDirective _ _
  · next indent text verbatim _ =>
    split
    · refine wellFormed.change fun after succeeded => ?_
      obtain ⟨body, _, rfl⟩ := exists_of_map_eq_ok succeeded
      exact wellFormed.write _
    · exact wellFormed.skip _
  · split
    · refine wellFormed.change fun after succeeded => ?_
      obtain ⟨text, _, rfl⟩ := exists_of_map_eq_ok succeeded
      exact wellFormed.writeText text
    · exact wellFormed.skip _

/-- A session behind a line. -/
theorem behind (wellFormed : session.WellFormed) {line : List Char} {after : Session}
    {outcome : Except LineError Flow}
    (processed : session.processLine context line = (after, outcome)) : after.WellFormed := by
  have kept : (session.processLine context line).1.WellFormed := wellFormed.processLine line
  rwa [processed] at kept

end WellFormed

end Session

/-! ## Runs -/

namespace Processing

variable {config : Config} {tree : FileTree}

/-- **Whatever a step does, values keep having no repetitions.** -/
theorem wellFormed_of_transition {processing : Processing} {step : Step}
    (wellFormed : processing.session.WellFormed)
    (kind : Transition config tree processing step) : step.session.WellFormed := by
  cases kind with
  | complete | close | unclosed => exact wellFormed
  | failed outcome | next outcome | tooDeep outcome | unreadable outcome =>
      exact wellFormed.behind outcome
  | leave outcome => exact ((wellFormed.behind outcome).withNesting _).skipLines config _
  | exclude outcome => exact (wellFormed.behind outcome).report _ _ _
  | enter outcome => exact (wellFormed.behind outcome).report _ _ _

/-- In every state that is reached, values have no repetitions. -/
theorem Reaches.wellFormed {first reached : Processing} (reaches : Reaches config tree first reached)
    (wellFormed : first.session.WellFormed) : reached.session.WellFormed := by
  let holds (processing : Processing) : Prop := processing.session.WellFormed
  exact (reaches.keeps wellFormed fun _ _ kept kind => wellFormed_of_transition kept kind :
    holds reached)

theorem wellFormed_start {globals : Layer} {providers : List Provider}
    (globalsWellFormed : globals.WellFormed)
    (provided : ∀ provider ∈ providers, provider.WellFormed) (path text : String) :
    (start globals providers path text).session.WellFormed :=
  ⟨globalsWellFormed, .empty, provided, nofun⟩

end Processing

namespace Config

variable {config : Config} {tree : FileTree}

/-! ## Whole pipelines -/

theorem wellFormed_addSettings {layer layer' : Layer} {paths : List String}
    (wellFormed : layer.WellFormed) (added : addSettings tree layer paths = .ok layer') :
    layer'.WellFormed := by
  induction paths generalizing layer with
  | nil =>
      cases added
      exact wellFormed
  | cons path rest ih =>
      unfold addSettings at added
      split at added
      · cases added
      · split at added
        · cases added
        · next settings answered =>
          exact ih (wellFormed.setAll (SettingsFile.wellFormed_of_readLines answered)) added

/-- The variables to start with. -/
theorem wellFormed_loadGlobals {globals : Layer}
    (settings : ∀ setting ∈ config.globals, setting.2.WellFormed)
    (loaded : config.loadGlobals tree = .ok globals) : globals.WellFormed := by
  have configured : (Layer.ofList config.globals).WellFormed :=
    Layer.WellFormed.empty.setAll settings
  exact wellFormed_addSettings configured loaded

theorem wellFormed_ofEnding {session : Session} (wellFormed : session.WellFormed) (source : String)
    (ending : Ending) : (FileResult.ofEnding config source session ending).session.WellFormed := by
  cases ending with
  | excluded | failed => exact wellFormed
  | complete =>
      unfold FileResult.ofEnding FileResult.reportOpenComment
      dsimp only
      split
      · split
        · exact wellFormed.report _ _ _
        · exact wellFormed
      · exact wellFormed

variable (config tree) in
theorem wellFormed_processText {globals : Layer} {providers : List Provider}
    (globalsWellFormed : globals.WellFormed)
    (provided : ∀ provider ∈ providers, provider.WellFormed) (path text : String) :
    (config.processText tree globals providers path text).session.WellFormed := by
  have started := Processing.wellFormed_start globalsWellFormed provided path text
  obtain ⟨reached, reaches, stops⟩ :=
    Processing.exists_last_step config tree (Processing.start globals providers path text)
  have last := Processing.wellFormed_of_transition (reaches.wellFormed started)
    (Processing.transition_of_stop stops)
  exact wellFormed_ofEnding last text _

variable (config tree) in
theorem wellFormed_processFile {globals : Layer} {providers : List Provider}
    (globalsWellFormed : globals.WellFormed)
    (provided : ∀ provider ∈ providers, provider.WellFormed) (path : String) :
    (config.processFile tree globals providers path).session.WellFormed := by
  unfold processFile
  split
  · exact ⟨globalsWellFormed, .empty, provided, nofun⟩
  · exact wellFormed_processText config tree globalsWellFormed provided path _

variable (config tree) in
/-- The shared variables and the providers behind some inputs, each a path and perhaps a text in
place of the contents of the file at that path.  They go from one input to the next, also behind an
input that fails. -/
def afterInputs (globals : Layer) (providers : List Provider) :
    List (String × Option String) → Layer × List Provider
  | [] => (globals, providers)
  | (path, some text) :: rest =>
    let session := (config.processText tree globals providers path text).session
    afterInputs session.globals session.providers rest
  | (path, none) :: rest =>
    let session := (config.processFile tree globals providers path).session
    afterInputs session.globals session.providers rest

/-- Inputs leave shared variables and providers without repetitions behind. -/
theorem wellFormed_afterInputs {globals : Layer} {providers : List Provider}
    (globalsWellFormed : globals.WellFormed)
    (provided : ∀ provider ∈ providers, provider.WellFormed)
    (inputs : List (String × Option String)) :
    (config.afterInputs tree globals providers inputs).1.WellFormed ∧
      ∀ provider ∈ (config.afterInputs tree globals providers inputs).2, provider.WellFormed := by
  induction inputs generalizing globals providers with
  | nil => exact ⟨globalsWellFormed, provided⟩
  | cons input rest ih =>
      obtain ⟨path, content⟩ := input
      cases content with
      | some text =>
          have behind := wellFormed_processText config tree globalsWellFormed provided path text
          exact ih behind.globals behind.providers
      | none =>
          have behind := wellFormed_processFile config tree globalsWellFormed provided path
          exact ih behind.globals behind.providers

/-- **Sets have no repetitions, everywhere and for ever.**  If the variables and the providers that a
configuration starts with hold values without repetitions, then whatever inputs a pipeline has
processed, and whatever text it processes next, the layers and the providers hold such values in
every state that the reading of the text comes to, so do the arguments of all actions, and every
expression that has a value there has such a value; the same holds of what the text leaves behind. -/
theorem values_wellFormed (config : Config) (tree : FileTree)
    (settings : ∀ setting ∈ config.globals, setting.2.WellFormed)
    (provided : ∀ provider ∈ config.providers, provider.WellFormed) {globals : Layer}
    (loaded : config.loadGlobals tree = .ok globals) (inputs : List (String × Option String))
    (path text : String) :
    let before := config.afterInputs tree globals config.providers inputs
    (∀ reached : Processing,
      Processing.Reaches config tree (Processing.start before.1 before.2 path text) reached →
        reached.session.WellFormed ∧
          ∀ (context : LineContext) (expr : Expr) (value : Value),
            expr.eval (reached.session.scope context) = .ok value → value.WellFormed) ∧
      (config.processText tree before.1 before.2 path text).session.WellFormed := by
  intro before
  obtain ⟨globalsWellFormed, providersWellFormed⟩ :=
    wellFormed_afterInputs (wellFormed_loadGlobals settings loaded) provided inputs
  refine ⟨fun reached reaches => ?_,
    wellFormed_processText config tree globalsWellFormed providersWellFormed path text⟩
  have wellFormed := reaches.wellFormed
    (Processing.wellFormed_start globalsWellFormed providersWellFormed path text)
  exact ⟨wellFormed, fun context expr value answered =>
    Expr.wellFormed_of_eval wellFormed.scope expr answered⟩

/-- A configuration with a shared set of one member. -/
def oneMember : Config := { globals := [("a", .set [.bool true])] }

/-- The union of that set with itself. -/
def repeatedUnion : Expr := .call "union" [.variable "a" 6, .variable "a" 9] 0

/-- The union has a value, in which the member does not occur twice. -/
theorem values_wellFormed_oneMember :
    let before := oneMember.afterInputs (FileTree.empty []) (Layer.ofList oneMember.globals)
      oneMember.providers [("a.txt", some "")]
    let session := (Processing.start before.1 before.2 "b.txt" "").session
    repeatedUnion.eval (session.scope ⟨oneMember, ⟨"b.txt", 1, ""⟩, 0⟩) =
        .ok (.set [.bool true]) ∧
      (Value.set [.bool true]).WellFormed := by
  intro before session
  have settings : ∀ setting ∈ oneMember.globals, setting.2.WellFormed := by
    intro setting configured
    rw [List.mem_singleton.mp configured]
    exact .set (List.pairwise_singleton _ _) (by rintro member (_ | ⟨_, ⟨⟩⟩); exact .bool true)
  have union : repeatedUnion.eval (session.scope ⟨oneMember, ⟨"b.txt", 1, ""⟩, 0⟩) =
      .ok (.set [.bool true]) := by
    unfold session before
    cbv
  have loaded : oneMember.loadGlobals (FileTree.empty []) =
      .ok (Layer.ofList oneMember.globals) := rfl
  have provided : ∀ provider ∈ oneMember.providers, provider.WellFormed := by
    rintro provider ⟨⟩
  have kept := values_wellFormed oneMember (FileTree.empty []) settings provided loaded
    [("a.txt", some "")] "b.txt" ""
  exact ⟨union, (kept.1 _ .refl).2 _ repeatedUnion _ union⟩

end Config

end CommentDirectives
