import CommentDirectives.Proofs.Processing.Accounting

/-!
# What the processing of a file hangs on

A tree of files comes into the processing of a file in two places only: the file itself is read, and
so is every file that a line asks to include (`Processing.includes`).  So a file that is processed
without a failure is processed in the same way in every tree where these can be read with the same
texts (`Config.processFile_of_reads`).  The switches that say what a run does with the results do not
come into it at all (`Config.processFile_congr`).

Providers that refuse changes are the same behind a file as in front of it
(`Config.providers_processFile`).
-/

namespace CommentDirectives

set_option autoImplicit false

namespace Processing

variable {config : Config} {tree left right : FileTree}

/-! ## The files that are included -/

/-- The path of the file that the next step includes, if its line asks for one and not too many are
open. -/
def asked? (config : Config) (processing : Processing) : Option String :=
  match processing.files with
  | [] => none
  | file :: outer =>
    match file.rest with
    | [] => none
    | line :: _ =>
      match (processing.session.processLine
          ⟨config, lineLocation file.path file.number line, file.baseDepth⟩ line).2 with
      | .ok (.include target) =>
        if outer.length < includeLimit then some (includedPath file.path target) else none
      | _ => none

/-- The paths of the files that are included from a state on, whether or not they can be read. -/
def includes (config : Config) (tree : FileTree) (processing : Processing) : List String :=
  (states config tree processing).filterMap (asked? config)

theorem includes_of_proceed {processing next : Processing}
    (leads : advance config tree processing = .proceed next) :
    includes config tree processing =
      (asked? config processing).toList ++ includes config tree next := by
  rw [includes, states_of_proceed leads, List.filterMap_cons, includes]
  cases asked? config processing <;> rfl

/-- What a step asks for is among the included files. -/
theorem mem_includes {processing : Processing} {path : String}
    (asks : asked? config processing = some path) : path ∈ includes config tree processing := by
  obtain ⟨later, split⟩ := exists_states config tree processing
  rw [includes, split]
  exact List.mem_filterMap.mpr ⟨processing, List.mem_cons_self, asks⟩

theorem mem_includes_of_proceed {processing next : Processing} {path : String}
    (leads : advance config tree processing = .proceed next)
    (behind : path ∈ includes config tree next) : path ∈ includes config tree processing := by
  rw [includes_of_proceed leads]
  exact List.mem_append_right _ behind

/-- A step is the same in two trees where the text of what it asks for is. -/
theorem advance_congr {processing : Processing}
    (same : ∀ path, asked? config processing = some path →
      left.readText path = right.readText path) :
    advance config left processing = advance config right processing := by
  obtain ⟨files, session⟩ := processing
  cases files with
  | nil => rfl
  | cons file outer =>
      obtain ⟨path, number, lines, base⟩ := file
      cases lines with
      | nil => rfl
      | cons line rest =>
          obtain ⟨after, result, outcome⟩ : ∃ after result,
            session.processLine ⟨config, lineLocation path number line, base⟩ line =
              (after, result) := ⟨_, _, rfl⟩
          have read := outcome
          rw [lineLocation] at read
          simp only [advance, readLine, read]
          cases result with
          | error cause => rfl
          | ok flow =>
              cases flow with
              | next | leaveFile | excludeFile => rfl
              | «include» target =>
                  by_cases room : outer.length < includeLimit
                  · have asks := same (includedPath path target) (by
                      simp only [asked?, outcome, if_pos room])
                    simp only [includeFile, asks]
                  · have deep : includeLimit < outer.length + 1 := by omega
                    simp only [includeFile, List.length_cons, if_pos deep]

/-- A step that asks for a file that cannot be read fails. -/
theorem failed_of_asked {processing : Processing} {path : String} {failure : FileError}
    (asks : asked? config processing = some path) (unreadable : tree.readText path = .error failure) :
    ∃ last cause, advance config tree processing = .stop last (.failed cause) := by
  obtain ⟨files, session⟩ := processing
  cases files with
  | nil => cases asks
  | cons file outer =>
      obtain ⟨from_, number, lines, base⟩ := file
      cases lines with
      | nil => cases asks
      | cons line rest =>
          simp only [asked?] at asks
          split at asks
          · next target wanted =>
            split at asks
            · next room =>
              cases asks
              have outcome : session.processLine ⟨config, lineLocation from_ number line, base⟩ line =
                (_, .ok (.include target)) := Prod.ext rfl wanted
              have shallow : ¬includeLimit < outer.length + 1 := by omega
              rw [advance_of_include outcome, includeFile, List.length_cons, if_neg shallow]
              simp only [lineLocation, unreadable]
              exact ⟨_, _, rfl⟩
            · cases asks
          · cases asks

/-- **A run that does not fail goes the same way in a tree in which the included files can be read
with the same texts.** -/
theorem run_of_includes {processing : Processing}
    (ended : ∀ cause, (processing.run config left).2 ≠ .failed cause)
    (same : ∀ path ∈ includes config left processing, ∀ text, left.readText path = .ok text →
      right.readText path = .ok text) :
    processing.run config right = processing.run config left := by
  induction processing using ofSteps config left with
  | back processing ih =>
      have step : advance config left processing = advance config right processing := by
        refine advance_congr fun path asks => ?_
        cases read : left.readText path with
        | ok text => exact (same path (mem_includes asks) text read).symm
        | error failure =>
            obtain ⟨last, cause, stops⟩ := failed_of_asked asks read
            rw [run_of_stop stops] at ended
            exact absurd rfl (ended cause)
      cases taken : advance config left processing with
      | stop last ending => rw [run_of_stop taken, run_of_stop (step.symm.trans taken)]
      | proceed next =>
          rw [run_of_proceed taken] at ended
          rw [run_of_proceed taken, run_of_proceed (step.symm.trans taken)]
          exact ih next taken ended fun path behind =>
            same path (mem_includes_of_proceed taken behind)

/-- A run is the same with settings that make each of its steps the same. -/
theorem run_congr {config' : Config} (processing : Processing)
    (same : ∀ reached, Reaches config tree processing reached →
      advance config' tree reached = advance config tree reached) :
    processing.run config' tree = processing.run config tree := by
  refine (run_abreast Eq Eq (fun left right reached start => ?_) rfl).symm
  rw [← start, same left reached]
  exact .same (fun _ => rfl) _

/-! ## Providers that refuse changes -/

theorem providers_leaveFile (session : Session) (file : OpenFile) (outer : List OpenFile) :
    (leaveFile config session file outer).session.providers = session.providers := by
  have skipped (count : Nat) (session : Session) :
      (count.repeat (fun session => session.skip config) session).providers =
        session.providers := by
    induction count with
    | zero => rfl
    | succ count ih => exact (Session.providers_skip _ _).trans ih
  exact skipped _ _

/-- A step leaves providers that refuse changes as they are. -/
theorem providers_of_transition {processing : Processing} {step : Step}
    (leads : Transition config tree processing step)
    (readOnly : ∀ provider ∈ processing.session.providers, provider.writable = false) :
    step.session.providers = processing.session.providers := by
  have line {session after : Session} {context : LineContext} {text : List Char}
      {result : Except LineError Flow}
      (readOnly : ∀ provider ∈ session.providers, provider.writable = false)
      (outcome : session.processLine context text = (after, result)) :
      after.providers = session.providers := by
    have kept := Session.providers_processLine readOnly context text
    rwa [outcome] at kept
  cases leads with
  | complete | close | unclosed => rfl
  | failed outcome | next outcome | tooDeep outcome | unreadable outcome =>
      exact line readOnly outcome
  | exclude outcome | enter outcome =>
      have kept := line readOnly outcome
      exact kept
  | leave outcome => exact (providers_leaveFile _ _ _).trans (line readOnly outcome)

/-- In every state that is reached, providers that refuse changes are as they were. -/
theorem providers_of_reaches {first reached : Processing} (reaches : Reaches config tree first reached)
    (readOnly : ∀ provider ∈ first.session.providers, provider.writable = false) :
    reached.session.providers = first.session.providers := by
  induction reaches with
  | refl => rfl
  | tail _ leads ih =>
      exact (providers_of_transition (transition_of_proceed leads) (ih ▸ readOnly)).trans ih

/-- **A run leaves providers that refuse changes as they are.** -/
theorem providers_run {processing : Processing}
    (readOnly : ∀ provider ∈ processing.session.providers, provider.writable = false) :
    (processing.run config tree).1.session.providers = processing.session.providers := by
  induction processing using ofSteps config tree with
  | back processing ih =>
      have kept := providers_of_transition (transition config tree processing) readOnly
      cases taken : advance config tree processing with
      | stop last ending =>
          rw [taken] at kept
          rw [run_of_stop taken]
          exact kept
      | proceed next =>
          rw [taken] at kept
          have same : next.session.providers = processing.session.providers := kept
          rw [run_of_proceed taken, ih next taken (same ▸ readOnly), same]

end Processing

namespace Config

variable {config : Config} {tree left right : FileTree} {globals : Layer}
  {providers : List Provider} {path : String}

/-! ## Files -/

/-- The paths of the files that are included where a file is processed. -/
def includes (config : Config) (tree : FileTree) (globals : Layer) (providers : List Provider)
    (path : String) : List String :=
  match tree.readText path with
  | .error _ => []
  | .ok text => Processing.includes config tree (.start globals providers path text)

/-- The result of a text is made of the last state of its run. -/
theorem processText_eq (config : Config) (tree : FileTree) (globals : Layer)
    (providers : List Provider) (path text : String) :
    config.processText tree globals providers path text =
      FileResult.ofEnding config text
        ((Processing.start globals providers path text).run config tree).1.session
        ((Processing.start globals providers path text).run config tree).2 := rfl

/-- **A file that is processed without a failure gives the same in a tree in which it and the files
that it includes can be read with the same texts.** -/
theorem processFile_of_reads
    (succeeded : ∀ cause, (config.processFile left globals providers path).outcome ≠ .error cause)
    (source : ∀ text, left.readText path = .ok text → right.readText path = .ok text)
    (included : ∀ asked ∈ config.includes left globals providers path, ∀ text,
      left.readText asked = .ok text → right.readText asked = .ok text) :
    config.processFile right globals providers path =
      config.processFile left globals providers path := by
  unfold includes at included
  unfold processFile at succeeded ⊢
  cases read : left.readText path with
  | error failure =>
      rw [read] at succeeded
      exact absurd rfl (succeeded _)
  | ok text =>
      rw [read] at succeeded included
      rw [source text read]
      dsimp only at succeeded included ⊢
      have ended (cause : RunError) :
          ((Processing.start globals providers path text).run config left).2 ≠ .failed cause := by
        intro failed
        refine succeeded cause ?_
        rw [processText_eq, failed]
        rfl
      rw [processText_eq, processText_eq, Processing.run_of_includes ended included]

/-- **What a run does with the results does not come into the processing of a file.** -/
theorem processFile_congr (config : Config) (tree : FileTree) (globals : Layer)
    (providers : List Provider) (path : String) (dryRun skipUnchanged : Bool)
    (given : List Provider) :
    { config with dryRun := dryRun, skipUnchanged := skipUnchanged, providers := given }.processFile
      tree globals providers path = config.processFile tree globals providers path := by
  unfold processFile
  cases tree.readText path with
  | error failure => rfl
  | ok text =>
      let config' := { config with
        dryRun := dryRun, skipUnchanged := skipUnchanged, providers := given }
      have steps (processing : Processing) :
          Processing.advance config' tree processing = Processing.advance config tree processing := rfl
      have same (processing : Processing) := Processing.run_congr processing fun reached _ =>
        steps reached
      dsimp only
      rw [processText_eq, processText_eq, same]
      rfl

/-- Providers that refuse changes are the same behind a file. -/
theorem providers_processFile (config : Config) (tree : FileTree) (globals : Layer) (path : String)
    (readOnly : ∀ provider ∈ providers, provider.writable = false) :
    (config.processFile tree globals providers path).session.providers = providers := by
  unfold processFile
  split
  · rfl
  · next text _ =>
    obtain ⟨start, started⟩ : ∃ start, Processing.start globals providers path text = start :=
      ⟨_, rfl⟩
    have kept : (start.run config tree).1.session.providers = providers := by
      rw [← started]
      exact Processing.providers_run readOnly
    rw [processText_eq, started]
    cases (start.run config tree).2 with
    | complete =>
        rw [FileResult.ofEnding, FileResult.reportOpenComment]
        split
        · split <;> exact kept
        · exact kept
    | excluded | failed cause => exact kept

end Config

end CommentDirectives
