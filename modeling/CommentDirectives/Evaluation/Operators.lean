import CommentDirectives.Evaluation.Error
import CommentDirectives.Value.Text

/-!
# Operators on values

Integers wrap around in 64 bits and divide toward zero.  An integer beside a
number of single precision is promoted to the nearest one.  A text on either side
of an addition makes it a concatenation.  Both operands are always evaluated, so
the logical operators are plain functions of two truth values, or of the bits of
two integers.
-/

namespace CommentDirectives.Value

set_option autoImplicit false

/-- The failure of a binary operator on the kinds of two operands. -/
def operandMismatch (operator : BinaryOperator) (left right : Value) : EvaluationError :=
  .operandKinds operator left.kind right.kind

/-! ## Arithmetic -/

/-- Arithmetic on integers; the outer level is empty for an operator that is not arithmetic. -/
def integerArithmetic? (operator : BinaryOperator) (left right : Int64) :
    Option (Except EvaluationError Int64) :=
  match operator with
  | .add => some (.ok (left + right))
  | .subtract => some (.ok (left - right))
  | .multiply => some (.ok (left * right))
  | .divide => some (if right = 0 then .error .divisionByZero else .ok (left / right))
  | .remainder => some (if right = 0 then .error .divisionByZero else .ok (left % right))
  | _ => none

/-- Arithmetic on numbers of single precision, empty for an operator that is not arithmetic. -/
def floatArithmetic? (operator : BinaryOperator) (left right : Float32) : Option Float32 :=
  match operator with
  | .add => some (left + right)
  | .subtract => some (left - right)
  | .multiply => some (left * right)
  | .divide => some (left / right)
  | .remainder => some (Binary32.remainder left right)
  | _ => none

/-- The operands as numbers of single precision, where one of them is such a number already and
the other is a number too. -/
def promoted? : Value → Value → Option (Float32 × Float32)
  | .int left, .float right => some (Binary32.ofInt64 left, right)
  | .float left, .int right => some (left, Binary32.ofInt64 right)
  | .float left, .float right => some (left, right)
  | _, _ => none

/-- Whether an addition of these operands joins their texts. -/
def joinsTexts : Value → Value → Bool
  | .string _, _ => true
  | _, .string _ => true
  | _, _ => false

/-- Addition, subtraction, multiplication, division and remainder, and the concatenation that
an addition is beside a text. -/
def arithmetic (operator : BinaryOperator) (left right : Value) : Except EvaluationError Value :=
  match left, right with
  | .int first, .int second =>
    match integerArithmetic? operator first second with
    | some (.ok result) => .ok (.int result)
    | some (.error failure) => .error failure
    | none => .error (operandMismatch operator left right)
  | _, _ =>
    match promoted? left right with
    | some (first, second) =>
      match floatArithmetic? operator first second with
      | some result => .ok (.float result)
      | none => .error (operandMismatch operator left right)
    | none =>
      if joinsTexts left right && operator == .add then .ok (.string (left.text ++ right.text))
      else .error (operandMismatch operator left right)

/-! ## Comparison -/

/-- Whether two values are equal for the language, where they can be compared. -/
def equals? : Value → Value → Option Bool
  | .int left, .int right => some (left == right)
  | .string left, .string right => some (left == right)
  | .bool left, .bool right => some (left == right)
  | .set left, .set right => some (sameMembers left right)
  | left, right => (promoted? left right).map fun (first, second) => first == second

/-- Equality and, for every other operator, inequality. -/
def equality (operator : BinaryOperator) (left right : Value) : Except EvaluationError Value :=
  match equals? left right with
  | some equal => .ok (.bool (if operator = .equal then equal else !equal))
  | none => .error (operandMismatch operator left right)

/-- The order of two values of comparable kinds; the inner level is empty where one of them is
the undefined number. -/
def order? : Value → Value → Option (Option Ordering)
  | .int left, .int right => some (some (compare left right))
  | .string left, .string right => some (some (compare left right))
  | left, right =>
    (promoted? left right).map fun (first, second) => Binary32.compare? first second

/-- Whether an ordering operator holds for an order, empty for any other operator. -/
def holdsFor? (operator : BinaryOperator) (order : Option Ordering) : Option Bool :=
  match operator with
  | .less => some (order == some .lt)
  | .lessEqual => some (order == some .lt || order == some .eq)
  | .greater => some (order == some .gt)
  | .greaterEqual => some (order == some .gt || order == some .eq)
  | _ => none

/-- The four ordering operators; texts are ordered by code points. -/
def ordering (operator : BinaryOperator) (left right : Value) : Except EvaluationError Value :=
  match (order? left right).bind (holdsFor? operator) with
  | some holds => .ok (.bool holds)
  | none => .error (operandMismatch operator left right)

/-! ## Logic -/

/-- A logical operator on truth values. -/
def truthLogic? (operator : BinaryOperator) (left right : Bool) : Option Bool :=
  match operator with
  | .and => some (left && right)
  | .or => some (left || right)
  | .xor => some (left ^^ right)
  | _ => none

/-- A logical operator on the bits of integers. -/
def bitLogic? (operator : BinaryOperator) (left right : Int64) : Option Int64 :=
  match operator with
  | .and => some (left &&& right)
  | .or => some (left ||| right)
  | .xor => some (left ^^^ right)
  | _ => none

/-- The logical operators on truth values and on the bits of integers. -/
def logic (operator : BinaryOperator) (left right : Value) : Except EvaluationError Value :=
  let result :=
    match left, right with
    | .bool first, .bool second => (truthLogic? operator first second).map Value.bool
    | .int first, .int second => (bitLogic? operator first second).map Value.int
    | _, _ => none
  match result with
  | some value => .ok value
  | none => .error (operandMismatch operator left right)

/-! ## All operators -/

/-- The value of a binary operator on two values. -/
def binary (left : Value) (operator : BinaryOperator) (right : Value) : Except EvaluationError Value :=
  match operator.tier with
  | .equality => equality operator left right
  | .relational => ordering operator left right
  | .logical => logic operator left right
  | _ => arithmetic operator left right

/-- The value of a unary operator on a value. -/
def unary (operand : Value) (operator : UnaryOperator) : Except EvaluationError Value :=
  match operator, operand with
  | .not, .bool truth => .ok (.bool !truth)
  | .not, .int number => .ok (.int (~~~number))
  | .negate, .int number => .ok (.int (-number))
  | .negate, .float number => .ok (.float (-number))
  | .plus, .int number => .ok (.int number)
  | .plus, .float number => .ok (.float number)
  | _, _ => .error (.operandKind operator operand.kind)

end CommentDirectives.Value
