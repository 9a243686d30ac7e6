/-!
# Operators

The operators of expressions, their symbols, and the tiers that say which of two
operators binds more tightly.  Operators of one tier group to the left.
-/

namespace CommentDirectives

set_option autoImplicit false

/-- An operator in front of an operand. -/
inductive UnaryOperator where
  | not
  | negate
  | plus
  deriving DecidableEq, Repr

/-- An operator between two operands. -/
inductive BinaryOperator where
  | add
  | subtract
  | multiply
  | divide
  | remainder
  | equal
  | notEqual
  | less
  | lessEqual
  | greater
  | greaterEqual
  | and
  | or
  | xor
  deriving DecidableEq, Repr

/-- How tightly an operator binds, from the loosest to the tightest. -/
inductive Tier where
  | logical
  | equality
  | relational
  | additive
  | multiplicative
  | unary
  deriving DecidableEq, Repr

/-- The place of a tier in the order of tiers. -/
def Tier.rank : Tier → Nat
  | .logical => 0
  | .equality => 1
  | .relational => 2
  | .additive => 3
  | .multiplicative => 4
  | .unary => 5

/-! ## Symbols and tiers -/

/-- The symbol of a unary operator. -/
def UnaryOperator.symbol : UnaryOperator → String
  | .not => "!"
  | .negate => "-"
  | .plus => "+"

/-- The symbol of a binary operator. -/
def BinaryOperator.symbol : BinaryOperator → String
  | .add => "+"
  | .subtract => "-"
  | .multiply => "*"
  | .divide => "/"
  | .remainder => "%"
  | .equal => "=="
  | .notEqual => "!="
  | .less => "<"
  | .lessEqual => "<="
  | .greater => ">"
  | .greaterEqual => ">="
  | .and => "&&"
  | .or => "||"
  | .xor => "^"

/-- The tier of a binary operator. -/
def BinaryOperator.tier : BinaryOperator → Tier
  | .and | .or | .xor => .logical
  | .equal | .notEqual => .equality
  | .less | .lessEqual | .greater | .greaterEqual => .relational
  | .add | .subtract => .additive
  | .multiply | .divide | .remainder => .multiplicative

/-! ## The reference of operators -/

/-- What a unary operator does. -/
def UnaryOperator.description : UnaryOperator → String
  | .not => "negation on booleans, bitwise complement on integers"
  | .negate => "numeric negation"
  | .plus => "numeric identity"

/-- What a binary operator does. -/
def BinaryOperator.description : BinaryOperator → String
  | .add => "addition, or concatenation when either side is a string"
  | .subtract => "subtraction"
  | .multiply => "multiplication"
  | .divide => "division; integer division truncates"
  | .remainder => "remainder"
  | .equal => "equality"
  | .notEqual => "inequality"
  | .less => "less than"
  | .lessEqual => "less than or equal"
  | .greater => "greater than"
  | .greaterEqual => "greater than or equal"
  | .and => "logical and on booleans, bitwise and on integers"
  | .or => "logical or on booleans, bitwise or on integers"
  | .xor => "exclusive or on booleans and integers"

/-- All unary operators, in the order of the reference. -/
def UnaryOperator.all : List UnaryOperator := [.not, .negate, .plus]

/-- All binary operators, in the order of the reference. -/
def BinaryOperator.all : List BinaryOperator :=
  [.add, .subtract, .multiply, .divide, .remainder, .equal, .notEqual, .less, .lessEqual,
    .greater, .greaterEqual, .and, .or, .xor]

/-- An entry of the operator reference. -/
structure OperatorEntry where
  symbol : String
  operands : Nat
  tier : Tier
  description : String

/-- The operator reference: the unary operators, then the binary ones. -/
def operatorReference : List OperatorEntry :=
  UnaryOperator.all.map (fun operator => ⟨operator.symbol, 1, .unary, operator.description⟩)
    ++ BinaryOperator.all.map fun operator =>
      ⟨operator.symbol, 2, operator.tier, operator.description⟩

end CommentDirectives
