import CommentDirectives.Evaluation.Functions
import CommentDirectives.Evaluation.Operators
import CommentDirectives.Expr.Parser
import CommentDirectives.Scope

/-!
# Evaluation

The value of an expression in a scope.  Operands and arguments are evaluated from
left to right, all of them, before the operation on them; the first failure ends
the evaluation.
-/

namespace CommentDirectives

set_option autoImplicit false

/-- The value of a literal. -/
def Literal.value : Literal → Value
  | .int number => .int number
  | .float number => .float number
  | .string text => .string text
  | .bool truth => .bool truth

/-- The failure of an expression that is given as text: it cannot be read, or it has no value. -/
inductive ExpressionError where
  | unreadable (failure : ParseError)
  | withoutValue (failure : EvaluationError)
  deriving DecidableEq

/-- The wording of a failure. -/
def ExpressionError.message : ExpressionError → String
  | .unreadable failure => failure.message
  | .withoutValue failure => failure.message

namespace Expr

mutual
/-- The value of an expression in a scope. -/
def eval (scope : Scope) : Expr → Except EvaluationError Value
  | .literal value _ => .ok value.value
  | .variable name _ => scope.resolve name
  | .unary operator operand _ =>
    match eval scope operand with
    | .error failure => .error failure
    | .ok value => value.unary operator
  | .binary operator left right _ =>
    match eval scope left with
    | .error failure => .error failure
    | .ok leftValue =>
      match eval scope right with
      | .error failure => .error failure
      | .ok rightValue => leftValue.binary operator rightValue
  | .call function arguments _ =>
    match evalAll scope arguments with
    | .error failure => .error failure
    | .ok values => Builtin.call function values

/-- The values of some expressions in a scope. -/
def evalAll (scope : Scope) : List Expr → Except EvaluationError (List Value)
  | [] => .ok []
  | expr :: rest =>
    match eval scope expr with
    | .error failure => .error failure
    | .ok value =>
      match evalAll scope rest with
      | .error failure => .error failure
      | .ok values => .ok (value :: values)
end

end Expr

namespace Scope

/-- The value of an expression that is given as text. -/
def evaluate (scope : Scope) (source : String) : Except ExpressionError Value :=
  match Expr.parse source with
  | .error failure => .error (.unreadable failure)
  | .ok expr => (expr.eval scope).mapError .withoutValue

/-- The truth value of a condition that is given as text. -/
def condition (scope : Scope) (source : String) : Except ExpressionError Bool :=
  match scope.evaluate source with
  | .error failure => .error failure
  | .ok value => value.truth.mapError .withoutValue

end Scope

end CommentDirectives
