import CommentDirectives.Session.Assignment

/-!
# What directives do

Every directive reads its argument, evaluates what it has to, and only then
changes the session, so that a directive that fails leaves the session as it was.
A rejected action is the one exception: the call of the extension stays on record.
-/

namespace CommentDirectives

set_option autoImplicit false

/-- What is to be read after a line. -/
inductive Flow where
  /-- The next line. -/
  | next
  /-- What follows the present file, or nothing behind the first one. -/
  | leaveFile
  /-- Nothing, and the file gives no output. -/
  | excludeFile
  /-- The file that a path leads to from the folder of the present one. -/
  | include (path : String)
  deriving DecidableEq, Repr

namespace Session

/-- What is left of an argument that cannot be read. -/
def ofArgument {α : Type} (argument : Except ArgumentError α) : Except LineError α :=
  argument.mapError fun
    | .unreadable cause => .expression (.unreadable cause)
    | .malformed cause => .malformed cause

/-- A change of the open blocks, or why they do not admit it. -/
def ofNesting {α : Type} (change : Except NestingError α) : Except LineError α :=
  change.mapError fun cause => .unbalanced (.refused cause)

/-! ## Conditional blocks -/

/-- Opens a block whose first branch depends on a test where lines count; elsewhere no branch of
it will count, whatever the test says. -/
def openBlock (session : Session) (context : LineContext) (test : Except LineError Bool) :
    Except LineError Session :=
  if session.isActive then
    test.map fun holds =>
      { session with nesting := session.nesting.push holds context.location }
  else .ok { session with nesting := session.nesting.pushSuppressed context.location }

/-- The truth value of the condition behind a keyword. -/
def readCondition (session : Session) (context : LineContext) (tail : List Char) :
    Except LineError Bool := do
  let expr ← ofArgument (Directive.readExpression tail)
  session.condition context expr

/-- Whether the name behind a keyword has a value. -/
def readDefinedness (session : Session) (context : LineContext) (tail : List Char) :
    Except LineError Bool := do
  let name ← ofArgument (Directive.readName tail)
  return (session.scope context).isDefined name

/-- Refuses a directive that needs an open block of its own file. -/
def needOpenBlock (session : Session) (context : LineContext) : Except LineError Unit :=
  if session.nesting.depth ≤ context.baseDepth then .error (.unbalanced (.refused .noOpenFrame))
  else .ok ()

/-- Starts a branch with a condition, which is evaluated only if no branch was taken so far. -/
def elseIf (session : Session) (context : LineContext) (tail : List Char) :
    Except LineError Session := do
  session.needOpenBlock context
  let wanted ← ofNesting session.nesting.wantsCondition
  let holds ← if wanted then (session.readCondition context tail).map some else .ok none
  let nesting ← ofNesting (session.nesting.elif holds)
  return { session with nesting := nesting }

/-- Starts the last branch of a block. -/
def otherwise (session : Session) (context : LineContext) (tail : List Char) :
    Except LineError Session := do
  session.needOpenBlock context
  ofArgument (Directive.readNothing tail)
  let nesting ← ofNesting session.nesting.elseBranch
  return { session with nesting := nesting }

/-- Closes a block. -/
def close (session : Session) (context : LineContext) (tail : List Char) :
    Except LineError Session := do
  session.needOpenBlock context
  ofArgument (Directive.readNothing tail)
  let (_, nesting) ← ofNesting session.nesting.pop
  return { session with nesting := nesting }

/-! ## Variables -/

/-- Gives a variable of the file a value, true if none is written. -/
def define (session : Session) (context : LineContext) (tail : List Char) :
    Except LineError Session := do
  let (name, expr) ← ofArgument (Directive.readAssignment tail)
  let value ← match expr with
    | none => .ok (.bool true)
    | some expr => session.evaluate context expr
  session.assign .locals name value

/-- Gives a variable a value, which has to be written. -/
def setVariable (session : Session) (context : LineContext) (directive : Directive)
    (kind : LayerKind) (tail : List Char) : Except LineError Session := do
  let (name, expr) ← ofArgument (Directive.readAssignment tail)
  match expr with
  | none => .error (.malformed (.needsAssignment directive))
  | some expr =>
    let value ← session.evaluate context expr
    session.assign kind name value

/-- Removes a variable. -/
def removeVariable (session : Session) (tail : List Char) : Except LineError Session := do
  let name ← ofArgument (Directive.readName tail)
  session.undefine name

/-! ## Messages, files and actions -/

/-- The text behind a keyword, with the values of its marked expressions. -/
def readMessage (session : Session) (context : LineContext) (tail : List Char) :
    Except LineError String :=
  (session.substitute context (Directive.readTail tail)).map String.ofList

/-- Reports the text behind a keyword. -/
def reportMessage (session : Session) (context : LineContext) (severity : Severity)
    (tail : List Char) : Except LineError Session := do
  let message ← session.readMessage context tail
  return session.report severity message [("location", context.location.shown)]

/-- Fails with the text behind a keyword. -/
def failWith (session : Session) (context : LineContext) (tail : List Char) :
    Except LineError Session := do
  let message ← session.readMessage context tail
  .error (.given message)

/-- The path of the file to include. -/
def readPath (session : Session) (context : LineContext) (tail : List Char) :
    Except LineError String := do
  let expr ← ofArgument (Directive.readExpression tail)
  match ← session.evaluate context expr with
  | .string path => .ok path
  | _ => .error (.malformed .needsPath)

/-- The values behind a keyword. -/
def readValues (session : Session) (context : LineContext) (tail : List Char) :
    Except LineError (List Value) := do
  let exprs ← ofArgument (Directive.readExpressions tail)
  session.evaluateAll context exprs

/-- A session with what to read next, or the session as it was and why the line fails. -/
abbrev Outcome := Session × Except LineError Flow

/-- Calls the extension, if there is one. -/
def act (session : Session) (context : LineContext) (tail : List Char) : Outcome :=
  match context.config.extension with
  | none =>
    (session.report .warning "#action ignored, no extension configured"
      [("location", context.location.shown)], .ok .next)
  | some accepts =>
    match session.readValues context tail with
    | .error cause => (session, .error cause)
    | .ok values =>
      let file := context.location.file
      ({ session with actions := session.actions.push ⟨file, values⟩ },
        if accepts file values then .ok .next else .error (.rejectedAction values.length))

/-! ## All directives -/

/-- The outcome of a change, behind which the next line is read. -/
def change (session : Session) (changed : Except LineError Session) : Outcome :=
  match changed with
  | .error cause => (session, .error cause)
  | .ok changed => (changed, .ok .next)

/-- The outcome of a line that decides what is read next. -/
def turn (session : Session) (flow : Except LineError Flow) : Outcome := (session, flow)

/-- What a directive does. -/
def perform (session : Session) (context : LineContext) (directive : Directive)
    (tail : List Char) : Outcome :=
  let decide (flow : Flow) : Except LineError Flow :=
    (session.readCondition context tail).map fun holds => if holds then flow else .next
  match directive with
  | .openIf => session.change (session.openBlock context (session.readCondition context tail))
  | .openIfDefined =>
    session.change (session.openBlock context (session.readDefinedness context tail))
  | .openIfUndefined =>
    session.change
      (session.openBlock context ((session.readDefinedness context tail).map fun known => !known))
  | .elseIf => session.change (session.elseIf context tail)
  | .otherwise => session.change (session.otherwise context tail)
  | .close => session.change (session.close context tail)
  | .define => session.change (session.define context tail)
  | .setLocal => session.change (session.setVariable context directive .locals tail)
  | .setGlobal => session.change (session.setVariable context directive .globals tail)
  | .undefine => session.change (session.removeVariable tail)
  | .action => session.act context tail
  | .include => session.turn ((session.readPath context tail).map .include)
  | .echo => session.change (session.reportMessage context .info tail)
  | .warning => session.change (session.reportMessage context .warning tail)
  | .error => session.change (session.failWith context tail)
  | .exit => session.turn ((ofArgument (Directive.readNothing tail)).map fun _ => .leaveFile)
  | .exitIf => session.turn (decide .leaveFile)
  | .excludeIf => session.turn (decide .excludeFile)

end Session

end CommentDirectives
