import CommentDirectives.Proofs.Processing.Transition

/-!
# Lines processed in place

The processing of a line as a sequence of reads and writes on one state, which holds the open files
and the session.  A write is done at once, and nothing takes it back: if a later step fails, the
state stays as the writes have left it.  Each directive reads, decides and writes in an order of its
own, and a removal, for one, takes a name from one layer before it looks at the other.

Processing in place gives the same outcome as the processing that answers with a new session
(`InPlace.processLine_eq`), and the reading of a line is its processing in place
(`Processing.readLine_eq`).
-/

namespace CommentDirectives

set_option autoImplicit false

/-- Steps on the open files and the session, each of which may fail and leaves what it has
written. -/
abbrev InPlace (α : Type) := EStateM LineError Processing α

namespace InPlace

/-! ## Single steps -/

/-- Reads from the session, or fails. -/
def inspect {α : Type} (attempt : Session → Except LineError α) : InPlace α := fun processing =>
  match attempt processing.session with
  | .ok value => .ok value processing
  | .error cause => .error cause processing

/-- Writes to the session. -/
def modifySession (change : Session → Session) : InPlace Unit := fun processing =>
  .ok () ⟨processing.files, change processing.session⟩

/-- Opens a file above the open ones. -/
def openFile (file : OpenFile) : InPlace Unit := fun processing =>
  .ok () ⟨file :: processing.files, processing.session⟩

/-- Whether lines count. -/
def isActive : InPlace Bool := inspect fun session => .ok session.isActive

/-- Changes the open blocks if they admit it. -/
def changeNesting (change : Nesting → Except NestingError Nesting) : InPlace Unit := do
  let nesting ← inspect fun session => Session.ofNesting (change session.nesting)
  modifySession fun session => { session with nesting := nesting }

/-- Takes a name from the layer of the file, and says whether it was there. -/
def takeLocal (name : String) : InPlace Bool := do
  let present ← inspect fun session => .ok (session.locals.contains name)
  modifySession fun session => { session with locals := session.locals.remove name }
  return present

/-- Takes a name from the layer that all files share, and says whether it was there. -/
def takeGlobal (name : String) : InPlace Bool := do
  let present ← inspect fun session => .ok (session.globals.contains name)
  modifySession fun session => { session with globals := session.globals.remove name }
  return present

/-! ## Directives -/

variable (tree : FileTree) (context : LineContext)

/-- Opens a block, whose test is read only where lines count. -/
def openBlock (test : Session → Except LineError Bool) : InPlace Unit := do
  if ← isActive then
    let holds ← inspect test
    modifySession fun session =>
      { session with nesting := session.nesting.push holds context.location }
  else
    modifySession fun session =>
      { session with nesting := session.nesting.pushSuppressed context.location }

/-- Starts a branch with a condition. -/
def elseIf (tail : List Char) : InPlace Unit := do
  inspect fun session => session.needOpenBlock context
  let wanted ← inspect fun session => Session.ofNesting session.nesting.wantsCondition
  if wanted then
    let holds ← inspect fun session => session.readCondition context tail
    changeNesting fun nesting => nesting.elif (some holds)
  else changeNesting fun nesting => nesting.elif none

/-- Starts the last branch of a block. -/
def otherwise (tail : List Char) : InPlace Unit := do
  inspect fun session => session.needOpenBlock context
  inspect fun _ => Session.ofArgument (Directive.readNothing tail)
  changeNesting fun nesting => nesting.elseBranch

/-- Closes a block. -/
def close (tail : List Char) : InPlace Unit := do
  inspect fun session => session.needOpenBlock context
  inspect fun _ => Session.ofArgument (Directive.readNothing tail)
  changeNesting fun nesting => nesting.pop.map Prod.snd

/-- Gives a name a value, in the first provider that owns it or else in a layer. -/
def assign (kind : LayerKind) (name : String) (value : Value) : InPlace Unit := do
  let written ← inspect fun session =>
    .ok (Provider.assignAmong? (Text.lowercase name) value session.providers)
  match written with
  | some (.ok providers) => modifySession fun session => { session with providers := providers }
  | some (.error reason) => throw (Session.withoutValue (.readOnlyVariable name reason))
  | none =>
    match kind with
    | .locals =>
      modifySession fun session => { session with locals := session.locals.set name value }
    | .globals =>
      modifySession fun session => { session with globals := session.globals.set name value }

/-- Removes a name from the layer of the file or else from the one that all files share. -/
def undefine (name : String) : InPlace Unit := do
  let owned ← inspect fun session => .ok (session.providers.any (·.owns name))
  if owned then
    throw (Session.withoutValue (.readOnlyVariable name "provider variables cannot be removed"))
  else if ← takeLocal name then return
  else if ← takeGlobal name then return
  else throw (Session.withoutValue (.unresolvedVariable name))

/-- Gives a variable of the file a value, true if none is written. -/
def define (tail : List Char) : InPlace Unit := do
  let (name, expr) ← inspect fun _ => Session.ofArgument (Directive.readAssignment tail)
  match expr with
  | none => assign .locals name (.bool true)
  | some expr =>
    let value ← inspect fun session => session.evaluate context expr
    assign .locals name value

/-- Gives a variable a value, which has to be written. -/
def setVariable (directive : Directive) (kind : LayerKind) (tail : List Char) : InPlace Unit := do
  let (name, expr) ← inspect fun _ => Session.ofArgument (Directive.readAssignment tail)
  match expr with
  | none => throw (.malformed (.needsAssignment directive))
  | some expr =>
    let value ← inspect fun session => session.evaluate context expr
    assign kind name value

/-- Removes a variable. -/
def removeVariable (tail : List Char) : InPlace Unit := do
  let name ← inspect fun _ => Session.ofArgument (Directive.readName tail)
  undefine name

/-- Reports the text behind a keyword. -/
def reportMessage (severity : Severity) (tail : List Char) : InPlace Unit := do
  let message ← inspect fun session => session.readMessage context tail
  modifySession fun session =>
    session.report severity message [("location", context.location.shown)]

/-- Fails with the text behind a keyword. -/
def failWith (tail : List Char) : InPlace Unit := do
  let message ← inspect fun session => session.readMessage context tail
  throw (.given message)

/-- Calls the extension, if there is one; the call is on record before its answer is known. -/
def act (tail : List Char) : InPlace Unit :=
  match context.config.extension with
  | none =>
    modifySession fun session => session.report .warning
      "#action ignored, no extension configured" [("location", context.location.shown)]
  | some accepts => do
    let values ← inspect fun session => session.readValues context tail
    let file := context.location.file
    modifySession fun session => { session with actions := session.actions.push ⟨file, values⟩ }
    if accepts file values then return else throw (.rejectedAction values.length)

/-- Opens the file that a path leads to. -/
def includePath (target : String) : InPlace Unit := do
  let processing ← get
  if includeLimit < processing.files.length then throw .includeDepth
  else
    let path := Processing.includedPath context.location.file target
    match tree.readText path with
    | .error cause => throw (.include path cause)
    | .ok text =>
      modifySession fun session => session.report .debug "include"
        [("file", path), ("depth", toString processing.files.length)]
      openFile (OpenFile.ofText path text processing.session.nesting.depth)

/-- Includes the file that is named behind a keyword. -/
def includeFile (tail : List Char) : InPlace Unit := do
  let target ← inspect fun session => session.readPath context tail
  includePath tree context target

/-- Turns away if the condition behind a keyword holds. -/
def decideFlow (tail : List Char) (flow : Flow) : InPlace Flow := do
  let holds ← inspect fun session => session.readCondition context tail
  return if holds then flow else .next

/-- A change behind which the next line is read. -/
def thenNext (action : InPlace Unit) : InPlace Flow := do
  action
  return .next

/-- What a directive does. -/
def perform (directive : Directive) (tail : List Char) : InPlace Flow :=
  match directive with
  | .openIf => thenNext (openBlock context fun session => session.readCondition context tail)
  | .openIfDefined =>
    thenNext (openBlock context fun session => session.readDefinedness context tail)
  | .openIfUndefined =>
    thenNext (openBlock context fun session =>
      (session.readDefinedness context tail).map fun known => !known)
  | .elseIf => thenNext (elseIf context tail)
  | .otherwise => thenNext (otherwise context tail)
  | .close => thenNext (close context tail)
  | .define => thenNext (define context tail)
  | .setLocal => thenNext (setVariable context directive .locals tail)
  | .setGlobal => thenNext (setVariable context directive .globals tail)
  | .undefine => thenNext (removeVariable tail)
  | .action => thenNext (act context tail)
  | .include => thenNext (includeFile tree context tail)
  | .echo => thenNext (reportMessage context .info tail)
  | .warning => thenNext (reportMessage context .warning tail)
  | .error => thenNext (failWith context tail)
  | .exit => do
    inspect fun _ => Session.ofArgument (Directive.readNothing tail)
    return .leaveFile
  | .exitIf => decideFlow context tail .leaveFile
  | .excludeIf => decideFlow context tail .excludeFile

/-! ## Lines -/

/-- Follows a directive. -/
def followDirective (keyword : String) (tail : List Char) : InPlace Flow :=
  match Directive.withKeyword? keyword with
  | none => do
    if ← isActive then throw (.unknownDirective keyword) else return .next
  | some directive => do
    if (← isActive) || directive.isConditional then
      modifySession fun session => session.report .debug "directive"
        [("directive", directive.keyword), ("file", context.location.file),
          ("line", toString context.location.line)]
      perform tree context directive tail
    else return .next

/-- Writes a line that is to be uncommented. -/
def uncomment (indent text : List Char) (verbatim : Bool) : InPlace Unit := do
  let body ← inspect fun session => if verbatim then .ok text else session.substitute context text
  modifySession fun session =>
    session.write (indent ++ Session.markReplacement context.config verbatim ++ body)

/-- Writes a line of text. -/
def copyText (line : List Char) : InPlace Unit := do
  let text ← inspect fun session => session.substitute context line
  modifySession fun session => session.writeText context text

/-- Writes a line where lines count, and skips it elsewhere. -/
def writeOrSkip (action : InPlace Unit) : InPlace Unit := do
  if ← isActive then action
  else modifySession fun session => session.skip context.config

/-- Processes a line. -/
def processLine (line : List Char) : InPlace Flow :=
  match LineForm.ofLine context.config.allowBlanks line with
  | .directive keyword tail => do
    modifySession fun session => session.skip context.config
    followDirective tree context keyword tail
  | .uncomment indent text verbatim =>
    thenNext (writeOrSkip context (uncomment context indent text verbatim))
  | .plain => thenNext (writeOrSkip context (copyText context line))

/-! ## Agreement with the processing that answers with a new session -/

/-- What a change of a session comes to in place. -/
def changed (files : List OpenFile) (session : Session) :
    Except LineError Session → EStateM.Result LineError Processing Unit
  | .ok after => .ok () ⟨files, after⟩
  | .error cause => .error cause ⟨files, session⟩

/-- What the outcome of a line comes to in place, where the file that it includes is opened. -/
def concluded (files : List OpenFile) : Session.Outcome → EStateM.Result LineError Processing Flow
  | (after, .error cause) => .error cause ⟨files, after⟩
  | (after, .ok (.include target)) =>
    thenNext (includePath tree context target) ⟨files, after⟩
  | (after, .ok flow) => .ok flow ⟨files, after⟩

/-- A step and what follows it. -/
theorem bind_eq {α β : Type} (first : InPlace α) (next : α → InPlace β) (processing : Processing) :
    (first >>= next) processing =
      match first processing with
      | .ok value after => next value after
      | .error cause after => .error cause after := by
  show EStateM.bind first next processing = _
  unfold EStateM.bind
  cases first processing <;> rfl

section Agreement

variable {files : List OpenFile} {session : Session}

/-- What is read first decides what follows. -/
theorem inspect_bind_eq {α β : Type} (attempt : Session → Except LineError α)
    (next : α → InPlace β) :
    (inspect attempt >>= next) ⟨files, session⟩ =
      match attempt session with
      | .ok value => next value ⟨files, session⟩
      | .error cause => .error cause ⟨files, session⟩ := by
  rw [bind_eq, inspect]
  cases attempt session <;> rfl

/-- A change of a session that starts with what is read in place. -/
theorem inspect_bind_changed {α : Type} {attempt : Session → Except LineError α}
    {next : α → InPlace Unit} {next' : α → Except LineError Session}
    (onward : ∀ value, next value ⟨files, session⟩ = changed files session (next' value)) :
    (inspect attempt >>= next) ⟨files, session⟩ =
      changed files session (attempt session >>= next') := by
  rw [inspect_bind_eq]
  cases attempt session with
  | error cause => rfl
  | ok value => exact onward value

theorem changeNesting_eq (change : Nesting → Except NestingError Nesting) :
    changeNesting change ⟨files, session⟩ =
      changed files session (Session.ofNesting (change session.nesting) >>= fun nesting =>
        .ok { session with nesting := nesting }) :=
  inspect_bind_changed fun _ => rfl

theorem isActive_bind_eq {α : Type} (next : Bool → InPlace α) :
    (isActive >>= next) ⟨files, session⟩ = next session.isActive ⟨files, session⟩ := rfl

theorem openBlock_eq (test : Session → Except LineError Bool) :
    openBlock context test ⟨files, session⟩ =
      changed files session (session.openBlock context (test session)) := by
  rw [openBlock, isActive_bind_eq, Session.openBlock]
  cases session.isActive with
  | true =>
      simp only [if_true, inspect_bind_eq]
      cases test session <;> rfl
  | false => rfl

theorem elseIf_eq (tail : List Char) :
    elseIf context tail ⟨files, session⟩ =
      changed files session (session.elseIf context tail) := by
  refine inspect_bind_changed fun _ => inspect_bind_changed fun wanted => ?_
  cases wanted with
  | true =>
      simp only [if_true, inspect_bind_eq]
      cases session.readCondition context tail with
      | error cause => rfl
      | ok holds => exact changeNesting_eq (·.elif (some holds))
  | false => exact changeNesting_eq (·.elif none)

theorem otherwise_eq (tail : List Char) :
    otherwise context tail ⟨files, session⟩ =
      changed files session (session.otherwise context tail) :=
  inspect_bind_changed fun _ => inspect_bind_changed fun _ => changeNesting_eq _

theorem close_eq (tail : List Char) :
    close context tail ⟨files, session⟩ = changed files session (session.close context tail) := by
  refine inspect_bind_changed fun _ => inspect_bind_changed fun _ => ?_
  rw [changeNesting_eq]
  cases session.nesting.pop <;> rfl

theorem assign_eq (kind : LayerKind) (name : String) (value : Value) :
    assign kind name value ⟨files, session⟩ =
      changed files session (session.assign kind name value) := by
  unfold assign Session.assign
  rw [inspect_bind_eq]
  cases Provider.assignAmong? (Text.lowercase name) value session.providers with
  | some written => cases written <;> rfl
  | none => cases kind <;> rfl

theorem define_eq (tail : List Char) :
    define context tail ⟨files, session⟩ = changed files session (session.define context tail) := by
  refine inspect_bind_changed fun ⟨name, expr⟩ => ?_
  cases expr with
  | none => exact assign_eq .locals name (.bool true)
  | some expr => exact inspect_bind_changed fun value => assign_eq .locals name value

theorem setVariable_eq (directive : Directive) (kind : LayerKind) (tail : List Char) :
    setVariable context directive kind tail ⟨files, session⟩ =
      changed files session (session.setVariable context directive kind tail) := by
  refine inspect_bind_changed fun ⟨name, expr⟩ => ?_
  cases expr with
  | none => rfl
  | some expr => exact inspect_bind_changed fun value => assign_eq kind name value

/-- A name that a layer does not hold cannot be taken from it. -/
theorem remove_of_absent {layer : Layer} {name : String} (absent : layer.contains name = false) :
    layer.remove name = layer := by
  have missing : layer.values.get? (Name.normalize name) = none := by
    simpa [Layer.contains, Layer.get?] using absent
  have same : layer.values.erase (Name.normalize name) = layer.values := by
    refine SortedMap.ext fun key => ?_
    rw [SortedMap.get?_erase]
    split
    · next asked => rw [asked, missing]
    · rfl
  rw [Layer.remove, same]

theorem takeLocal_eq (name : String) :
    takeLocal name ⟨files, session⟩ =
      .ok (session.locals.contains name)
        ⟨files, { session with locals := session.locals.remove name }⟩ := rfl

theorem takeGlobal_eq (name : String) :
    takeGlobal name ⟨files, session⟩ =
      .ok (session.globals.contains name)
        ⟨files, { session with globals := session.globals.remove name }⟩ := rfl

theorem undefine_eq (name : String) :
    undefine name ⟨files, session⟩ = changed files session (session.undefine name) := by
  rw [undefine, inspect_bind_eq, Session.undefine]
  cases session.providers.any (·.owns name) with
  | true => rfl
  | false =>
      simp only [Bool.false_eq_true, if_false, bind_eq, takeLocal_eq]
      cases here : session.locals.contains name with
      | true => rfl
      | false =>
          simp only [Bool.false_eq_true, if_false, remove_of_absent here, bind_eq, takeGlobal_eq]
          cases shared : session.globals.contains name with
          | true => rfl
          | false =>
              simp only [Bool.false_eq_true, if_false, remove_of_absent shared]
              rfl

theorem removeVariable_eq (tail : List Char) :
    removeVariable tail ⟨files, session⟩ = changed files session (session.removeVariable tail) :=
  inspect_bind_changed fun name => undefine_eq name

theorem reportMessage_eq (severity : Severity) (tail : List Char) :
    reportMessage context severity tail ⟨files, session⟩ =
      changed files session (session.reportMessage context severity tail) :=
  inspect_bind_changed fun _ => rfl

theorem failWith_eq (tail : List Char) :
    failWith context tail ⟨files, session⟩ =
      changed files session (session.failWith context tail) :=
  inspect_bind_changed fun _ => rfl

/-- A change behind which the next line is read comes to the same in place. -/
theorem thenNext_eq {action : InPlace Unit} {change : Except LineError Session}
    (agrees : action ⟨files, session⟩ = changed files session change) :
    thenNext action ⟨files, session⟩ = concluded tree context files (session.change change) := by
  rw [thenNext, bind_eq, agrees]
  cases change <;> rfl

theorem act_eq (tail : List Char) :
    thenNext (act context tail) ⟨files, session⟩ =
      concluded tree context files (session.act context tail) := by
  unfold act Session.act
  cases context.config.extension with
  | none => rfl
  | some accepts =>
      simp only [thenNext, bind_eq, inspect]
      cases session.readValues context tail with
      | error cause => rfl
      | ok values =>
          simp only [modifySession]
          cases accepts context.location.file values <;> rfl

theorem decideFlow_eq (tail : List Char) (flow : Flow) (stays : ∀ target, flow ≠ .include target) :
    decideFlow context tail flow ⟨files, session⟩ =
      concluded tree context files (session.turn ((session.readCondition context tail).map
        fun holds => if holds then flow else .next)) := by
  rw [decideFlow, inspect_bind_eq]
  cases session.readCondition context tail with
  | error cause => rfl
  | ok holds =>
      cases holds with
      | false => rfl
      | true =>
          cases flow with
          | next | leaveFile | excludeFile => rfl
          | «include» target => exact absurd rfl (stays target)

theorem includeFile_eq (tail : List Char) :
    thenNext (includeFile tree context tail) ⟨files, session⟩ =
      concluded tree context files
        (session.turn ((session.readPath context tail).map .include)) := by
  rw [thenNext, bind_eq, includeFile, inspect_bind_eq]
  cases session.readPath context tail with
  | error cause => rfl
  | ok target => rw [Session.turn, Except.map, concluded, thenNext, bind_eq]

/-- A directive comes to the same in place. -/
theorem perform_eq (directive : Directive) (tail : List Char) :
    perform tree context directive tail ⟨files, session⟩ =
      concluded tree context files (session.perform context directive tail) := by
  cases directive with
  | openIf | openIfDefined | openIfUndefined =>
      exact thenNext_eq tree context (openBlock_eq context _)
  | elseIf => exact thenNext_eq tree context (elseIf_eq context tail)
  | otherwise => exact thenNext_eq tree context (otherwise_eq context tail)
  | close => exact thenNext_eq tree context (close_eq context tail)
  | define => exact thenNext_eq tree context (define_eq context tail)
  | setLocal | setGlobal => exact thenNext_eq tree context (setVariable_eq context _ _ tail)
  | undefine => exact thenNext_eq tree context (removeVariable_eq tail)
  | action => exact act_eq tree context tail
  | «include» => exact includeFile_eq tree context tail
  | echo | warning => exact thenNext_eq tree context (reportMessage_eq context _ tail)
  | error => exact thenNext_eq tree context (failWith_eq context tail)
  | exit =>
      rw [perform, inspect_bind_eq, Session.perform]
      cases Session.ofArgument (Directive.readNothing tail) <;> rfl
  | exitIf | excludeIf =>
      refine decideFlow_eq tree context tail _ ?_
      rintro target ⟨⟩

theorem followDirective_eq (keyword : String) (tail : List Char) :
    followDirective tree context keyword tail ⟨files, session⟩ =
      concluded tree context files (session.followDirective context keyword tail) := by
  unfold followDirective Session.followDirective
  cases Directive.withKeyword? keyword with
  | none =>
      simp only [isActive_bind_eq]
      cases session.isActive <;> rfl
  | some directive =>
      simp only [isActive_bind_eq]
      cases (session.isActive || directive.isConditional) with
      | true => exact perform_eq tree context directive tail
      | false => rfl

/-- A line that is written where lines count comes to the same in place. -/
theorem writeOrSkip_eq {action : InPlace Unit} {change : Except LineError Session}
    (agrees : action ⟨files, session⟩ = changed files session change) :
    thenNext (writeOrSkip context action) ⟨files, session⟩ =
      concluded tree context files
        (if session.isActive then session.change change
          else (session.skip context.config, .ok .next)) := by
  rw [thenNext, bind_eq, writeOrSkip, isActive_bind_eq]
  cases session.isActive with
  | true =>
      simp only [if_true, agrees]
      cases change <;> rfl
  | false => rfl

/-- **A line comes to the same in place.** -/
theorem processLine_eq (line : List Char) :
    processLine tree context line ⟨files, session⟩ =
      concluded tree context files (session.processLine context line) := by
  unfold processLine Session.processLine
  cases LineForm.ofLine context.config.allowBlanks line with
  | directive keyword tail => exact followDirective_eq tree context keyword tail
  | uncomment indent text verbatim =>
      refine writeOrSkip_eq tree context ?_
      rw [uncomment, inspect_bind_eq, Session.uncomment]
      cases (if verbatim = true then .ok text else session.substitute context text) <;> rfl
  | plain =>
      refine writeOrSkip_eq tree context ?_
      rw [copyText, inspect_bind_eq]
      cases session.substitute context line <;> rfl

end Agreement

end InPlace

/-- A file is included in place. -/
theorem Processing.includeFile_eq (tree : FileTree) (context : LineContext) (session : Session)
    (files : List OpenFile) (target : String) :
    includeFile tree session context.location files target =
      match InPlace.includePath tree context target ⟨files, session⟩ with
      | .error cause after => .stop after (.failed (.line context.location cause))
      | .ok _ after => .proceed after := by
  unfold includeFile InPlace.includePath
  rw [InPlace.bind_eq]
  simp only [get, getThe, MonadStateOf.get, EStateM.get]
  by_cases deep : includeLimit < files.length
  · simp only [if_pos deep]
    rfl
  · simp only [if_neg deep]
    cases tree.readText (includedPath context.location.file target) <;> rfl

/-- **The next line of a file is processed in place**, and what that leads to is done with the files
and the session that it leaves. -/
theorem Processing.readLine_eq (config : Config) (tree : FileTree) (session : Session)
    (file : OpenFile) (outer : List OpenFile) (line : List Char) (rest : List (List Char)) :
    readLine config tree session file outer line rest =
      let read := { file with number := file.number + 1, rest := rest }
      let location := lineLocation file.path file.number line
      match InPlace.processLine tree ⟨config, location, file.baseDepth⟩ line
          ⟨read :: outer, session⟩ with
      | .error cause after => .stop after (.failed (.line location cause))
      | .ok .leaveFile after => .proceed (leaveFile config after.session read outer)
      | .ok .excludeFile after =>
        .stop ⟨after.files, after.session.report .debug "file excluded" [("file", file.path)]⟩
          .excluded
      | .ok _ after => .proceed after := by
  simp only [readLine, InPlace.processLine_eq, lineLocation]
  obtain ⟨after, result, outcome⟩ : ∃ after result,
    session.processLine ⟨config, lineLocation file.path file.number line, file.baseDepth⟩ line =
      (after, result) := ⟨_, _, rfl⟩
  rw [lineLocation] at outcome
  simp only [outcome]
  cases result with
  | error cause => rfl
  | ok flow =>
      cases flow with
      | next | leaveFile | excludeFile => rfl
      | «include» target =>
          refine (includeFile_eq tree ⟨config, lineLocation file.path file.number line,
            file.baseDepth⟩ after _ target).trans ?_
          simp only [InPlace.concluded, InPlace.thenNext, InPlace.bind_eq, lineLocation]
          cases InPlace.includePath tree _ target ⟨_ :: outer, after⟩ <;> rfl

end CommentDirectives
