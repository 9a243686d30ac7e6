import CommentDirectives.Operator
import CommentDirectives.Text.Quoted
import CommentDirectives.Number.Binary32

/-!
# Tokens of expressions

The words of the expression language, each with the offset in bytes at which it
starts.  A symbol that can stand between two operands is an operator token, also
where it turns out to stand in front of one.
-/

namespace CommentDirectives

set_option autoImplicit false

/-- A word of the expression language. -/
inductive Token where
  | float (number : Float32)
  | int (number : Int64)
  | bool (truth : Bool)
  | string (text : String)
  | identifier (name : String)
  | operator (symbol : BinaryOperator)
  | bang
  | openParen
  | closeParen
  | comma
  deriving DecidableEq

namespace Token

/-- The binary operator that a token stands for between two operands. -/
def binary? : Token → Option BinaryOperator
  | .operator symbol => some symbol
  | _ => none

/-- The unary operator that a token stands for in front of an operand. -/
def unary? : Token → Option UnaryOperator
  | .bang => some .not
  | .operator .subtract => some .negate
  | .operator .add => some .plus
  | _ => none

/-- A token as messages show it. -/
def text : Token → String
  | .float number => Binary32.text number
  | .int number => IntegerText.text number
  | .bool truth => if truth then "true" else "false"
  | .string content => Text.quoted content
  | .identifier name => name
  | .operator symbol => symbol.symbol
  | .bang => "!"
  | .openParen => "("
  | .closeParen => ")"
  | .comma => ","

end Token

/-- A token with the offset of its first byte. -/
structure Lexeme where
  token : Token
  offset : Nat
  deriving DecidableEq

/-- The tokens of a text, in order, and the offset at which the text ends. -/
structure TokenSequence where
  lexemes : List Lexeme
  stop : Nat
  deriving DecidableEq

end CommentDirectives
