import CommentDirectives.Config
import CommentDirectives.Event
import CommentDirectives.Line.Substitution

/-!
# The state of a file that is processed

What changes while the lines of a file, and of the files that it includes, are
read: the variables, the open blocks, the output, the reader of comments, and
what was reported and asked of the extension.  Everything else that a line needs
is in its context.
-/

namespace CommentDirectives

set_option autoImplicit false

/-- A call of the extension. -/
structure Action where
  file : String
  arguments : List Value

/-- What changes while a file is processed. -/
structure Session where
  globals : Layer
  locals : Layer := Layer.empty
  providers : List Provider
  nesting : Nesting := Nesting.empty
  /-- The lines of the output so far. -/
  output : Array (List Char) := #[]
  /-- Whether a block comment is open. -/
  inBlock : Bool := false
  /-- The line where the last block comment was opened that went on behind its line. -/
  commentOpened : Option Location := none
  events : Array Event := #[]
  actions : Array Action := #[]

/-- What a line is read with. -/
structure LineContext where
  config : Config
  /-- The line. -/
  location : Location
  /-- The number of blocks that were open where its file starts. -/
  baseDepth : Nat

namespace Session

/-! ## What expressions on a line see -/

/-- The scope of the expressions on a line. -/
def scope (session : Session) (context : LineContext) : Scope where
  globals := session.globals
  locals := session.locals
  providers := session.providers
  position := some ⟨context.location.file, context.location.line⟩
  unknownAsFalse := context.config.unknownAsFalse

/-- The value of an expression on a line. -/
def evaluate (session : Session) (context : LineContext) (expr : Expr) : Except LineError Value :=
  (expr.eval (session.scope context)).mapError fun cause => .expression (.withoutValue cause)

/-- The values of some expressions on a line. -/
def evaluateAll (session : Session) (context : LineContext) (exprs : List Expr) :
    Except LineError (List Value) :=
  (Expr.evalAll (session.scope context) exprs).mapError fun cause =>
    .expression (.withoutValue cause)

/-- The truth value of a condition on a line. -/
def condition (session : Session) (context : LineContext) (expr : Expr) : Except LineError Bool :=
  match session.evaluate context expr with
  | .error failure => .error failure
  | .ok value => value.truth.mapError fun cause => .expression (.withoutValue cause)

/-- A text with the values of its marked expressions. -/
def substitute (session : Session) (context : LineContext) (text : List Char) :
    Except LineError (List Char) :=
  ((session.scope context).substitute text).mapError .expression

/-! ## Reports and output -/

/-- Whether lines count at present. -/
def isActive (session : Session) : Bool := session.nesting.isActive

/-- Reports an event. -/
def report (session : Session) (severity : Severity) (message : String)
    (details : List (String × String)) : Session :=
  { session with events := session.events.push ⟨severity, message, details⟩ }

/-- Adds a line to the output. -/
def write (session : Session) (line : List Char) : Session :=
  { session with output := session.output.push line }

/-- Accounts for a line that gives no output: an empty line stands for it where lines are kept. -/
def skip (session : Session) (config : Config) : Session :=
  if config.keepLines then session.write [] else session

end Session

end CommentDirectives
