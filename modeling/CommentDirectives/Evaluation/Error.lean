import CommentDirectives.Builtin
import CommentDirectives.Operator
import CommentDirectives.Value

/-!
# Failures of evaluation

Why an expression that could be read has no value.
-/

namespace CommentDirectives

set_option autoImplicit false

/-- The causes for which an evaluation fails. -/
inductive EvaluationError where
  /-- A binary operator has no meaning on operands of these kinds. -/
  | operandKinds (operator : BinaryOperator) (left right : Kind)
  /-- A unary operator has no meaning on an operand of this kind. -/
  | operandKind (operator : UnaryOperator) (operand : Kind)
  /-- A truth value was needed. -/
  | expectedBool (found : Kind)
  /-- No layer and no provider holds the name. -/
  | unresolvedVariable (name : String)
  | divisionByZero
  /-- A function takes arguments of this kind, but not with this value. -/
  | invalidArgument (function details : String)
  /-- A function has no meaning on arguments of these kinds. -/
  | argumentKinds (function : String) (found : List Kind)
  | unknownFunction (name : String)
  | argumentCount (function : String) (expected : Arity) (found : Nat)
  /-- The name belongs to a source of values that refuses the change. -/
  | readOnlyVariable (name details : String)
  deriving DecidableEq, Repr

/-- The wording of a failure. -/
def EvaluationError.message : EvaluationError → String
  | .operandKinds operator left right =>
    "Operator '" ++ operator.symbol ++ "' cannot be applied to " ++ left.name ++ " and "
      ++ right.name ++ "."
  | .operandKind operator operand =>
    "Operator '" ++ operator.symbol ++ "' cannot be applied to " ++ operand.name ++ "."
  | .expectedBool found => "Expected a boolean value, found " ++ found.name ++ "."
  | .unresolvedVariable name => "Unknown variable '" ++ name ++ "'."
  | .divisionByZero => "Division by zero."
  | .invalidArgument function details =>
    "Invalid argument to '" ++ function ++ "': " ++ details ++ "."
  | .argumentKinds function found =>
    "Function '" ++ function ++ "' cannot be applied to ("
      ++ ", ".intercalate (found.map Kind.name) ++ ")."
  | .unknownFunction name => "Unknown function '" ++ name ++ "'."
  | .argumentCount function expected found =>
    "Function '" ++ function ++ "' expects " ++ expected.text ++ " argument(s), found "
      ++ toString found ++ "."
  | .readOnlyVariable name details => "Variable '" ++ name ++ "' is read-only: " ++ details ++ "."

/-- The truth value that a condition needs. -/
def Value.truth : Value → Except EvaluationError Bool
  | .bool truth => .ok truth
  | value => .error (.expectedBool value.kind)

end CommentDirectives
