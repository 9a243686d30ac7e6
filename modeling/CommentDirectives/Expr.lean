import CommentDirectives.Operator
import CommentDirectives.Number.Binary32
import CommentDirectives.Text.Quoted

/-!
# Expressions

Expressions as trees.  Each node carries the offset in bytes of its literal, its
name or its operator; the text of a tree does not depend on offsets, and writes
every binary operation in parentheses.
-/

namespace CommentDirectives

set_option autoImplicit false

/-- A value written in an expression. -/
inductive Literal where
  | int (number : Int64)
  | float (number : Float32)
  | string (text : String)
  | bool (truth : Bool)
  deriving DecidableEq

/-- An expression. -/
inductive Expr where
  | literal (value : Literal) (offset : Nat)
  | variable (name : String) (offset : Nat)
  | unary (operator : UnaryOperator) (operand : Expr) (offset : Nat)
  | binary (operator : BinaryOperator) (left right : Expr) (offset : Nat)
  | call (function : String) (arguments : List Expr) (offset : Nat)

/-- The text of a literal. -/
def Literal.text : Literal → String
  | .int number => IntegerText.text number
  | .float number => Binary32.text number
  | .string content => Text.quoted content
  | .bool truth => if truth then "true" else "false"

namespace Expr

/-- The offset that the root of an expression carries. -/
def offset : Expr → Nat
  | .literal _ offset => offset
  | .variable _ offset => offset
  | .unary _ _ offset => offset
  | .binary _ _ _ offset => offset
  | .call _ _ offset => offset

mutual
/-- The text of an expression. -/
def text : Expr → String
  | .literal value _ => value.text
  | .variable name _ => name
  | .unary operator operand _ => operator.symbol ++ text operand
  | .binary operator left right _ =>
    "(" ++ text left ++ " " ++ operator.symbol ++ " " ++ text right ++ ")"
  | .call function arguments _ =>
    function ++ "(" ++ ", ".intercalate (argumentTexts arguments) ++ ")"

/-- The texts of the arguments of a call. -/
def argumentTexts : List Expr → List String
  | [] => []
  | argument :: rest => text argument :: argumentTexts rest
end

end Expr

end CommentDirectives
