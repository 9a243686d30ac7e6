import CommentDirectives.Evaluation.Error
import CommentDirectives.Layer
import CommentDirectives.Path
import CommentDirectives.Provider

/-!
# Looking up names

What an expression sees: the providers in their order, the place in the file that
is being read, the file's own layer and the shared one.  The first provider that
owns a name answers alone; after the providers come the variables of the place,
then the file's layer, then the shared layer.
-/

namespace CommentDirectives

set_option autoImplicit false

/-- A line of a file, counted from one. -/
structure FilePosition where
  path : String
  line : Nat
  deriving DecidableEq, Repr

/-- The value that a place in a file gives to one of the file variables. -/
def FilePosition.value? (position : FilePosition) (name : String) : Option Value :=
  if name = "__line__" then some (.int (IntegerText.ofCount position.line))
  else if name = "__file__" then some (.string position.path)
  else if name = "__filename__" then some (.string ((Path.fileName? position.path).getD ""))
  else if name = "__filefolder__" then some (.string ((Path.parent? position.path).getD ""))
  else none

/-- Everything that gives values to names. -/
structure Scope where
  globals : Layer := Layer.empty
  locals : Layer := Layer.empty
  providers : List Provider := []
  position : Option FilePosition := none
  unknownAsFalse : Bool := false

namespace Scope

/-- The provider that answers for a name. -/
def providerFor? (scope : Scope) (name : String) : Option Provider :=
  scope.providers.find? (·.owns name)

/-- The value of a name. -/
def lookup (scope : Scope) (name : String) : Option Value :=
  match scope.providerFor? name with
  | some provider => provider.get? name
  | none =>
    match scope.position.bind (·.value? (Name.normalize name)) with
    | some value => some value
    | none =>
      match scope.locals.get? name with
      | some value => some value
      | none => scope.globals.get? name

/-- Whether a name has a value. -/
def isDefined (scope : Scope) (name : String) : Bool := (scope.lookup name).isSome

/-- The value of a name in an expression; a name without one is false or a failure, as the
scope lays down. -/
def resolve (scope : Scope) (name : String) : Except EvaluationError Value :=
  match scope.lookup name with
  | some value => .ok value
  | none =>
    if scope.unknownAsFalse then .ok (.bool false) else .error (.unresolvedVariable name)

end Scope

end CommentDirectives
