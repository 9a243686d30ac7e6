import CommentDirectives.Session

/-!
# Assignments and removals

A name that belongs to a provider is written to the first provider that owns it
and cannot be removed.  Every other name is written to the layer that is asked
for, and removed from the file's own layer or else from the shared one.
-/

namespace CommentDirectives

set_option autoImplicit false

/-- The layers that assignments write to. -/
inductive LayerKind where
  /-- The variables of the file. -/
  | locals
  /-- The variables that all files share. -/
  | globals
  deriving DecidableEq, Repr

namespace Session

/-- A failure of an expression or of a name in it. -/
def withoutValue (cause : EvaluationError) : LineError := .expression (.withoutValue cause)

/-- Gives a name a value. -/
def assign (session : Session) (kind : LayerKind) (name : String) (value : Value) :
    Except LineError Session :=
  match Provider.assignAmong? (Text.lowercase name) value session.providers with
  | some (.ok providers) => .ok { session with providers := providers }
  | some (.error reason) => .error (withoutValue (.readOnlyVariable name reason))
  | none =>
    match kind with
    | .locals => .ok { session with locals := session.locals.set name value }
    | .globals => .ok { session with globals := session.globals.set name value }

/-- Removes a name. -/
def undefine (session : Session) (name : String) : Except LineError Session :=
  if session.providers.any (·.owns name) then
    .error (withoutValue (.readOnlyVariable name "provider variables cannot be removed"))
  else if session.locals.contains name then
    .ok { session with locals := session.locals.remove name }
  else if session.globals.contains name then
    .ok { session with globals := session.globals.remove name }
  else .error (withoutValue (.unresolvedVariable name))

end Session

end CommentDirectives
