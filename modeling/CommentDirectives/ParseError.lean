import CommentDirectives.Builtin
import CommentDirectives.Token

/-!
# Failures of reading

Why a text is not an expression, and at which byte this shows.
-/

namespace CommentDirectives

set_option autoImplicit false

/-- The causes for which a text cannot be read as an expression. -/
inductive ParseError where
  /-- The text holds something that is no token. -/
  | unrecognised (text : String) (offset : Nat)
  | unexpectedToken (token : Token) (offset : Nat)
  | unexpectedEnd (offset : Nat)
  /-- A parenthesis that is opened here, or an argument list that ends here, is never closed. -/
  | expectedClosing (offset : Nat)
  | unmatchedClosing (offset : Nat)
  /-- Nothing that could be an operand follows a binary operator. -/
  | danglingOperator (operator : BinaryOperator) (offset : Nat)
  | emptyArgument (offset : Nat)
  | emptyExpression
  | unknownFunction (name : String) (offset : Nat)
  | argumentCount (function : String) (expected : Arity) (found offset : Nat)
  deriving DecidableEq

namespace ParseError

/-- The place of a failure, in front of its wording. -/
def located (offset : Nat) (wording : String) : String :=
  "Error at offset " ++ toString offset ++ ": " ++ wording

/-- The wording of a failure. -/
def message : ParseError → String
  | .unrecognised text offset => located offset ("Unrecognised input '" ++ text ++ "'.")
  | .unexpectedToken token offset => located offset ("Unexpected token '" ++ token.text ++ "'.")
  | .unexpectedEnd offset => located offset "Unexpected end of input."
  | .expectedClosing offset =>
    located offset "Expected closing parenthesis ')' but none found."
  | .unmatchedClosing offset => located offset "Unmatched closing parenthesis ')'."
  | .danglingOperator operator offset =>
    located offset ("Operator '" ++ operator.symbol ++ "' is missing its right operand.")
  | .emptyArgument offset => located offset "Empty argument in list."
  | .emptyExpression => "Error: Expression is empty."
  | .unknownFunction name offset => located offset ("Unknown function '" ++ name ++ "'.")
  | .argumentCount function expected found offset =>
    located offset ("Function '" ++ function ++ "' expects " ++ expected.text
      ++ " argument(s), found " ++ toString found ++ ".")

/-- Whether the text could not even be cut into tokens. -/
def isLexical : ParseError → Bool
  | .unrecognised _ _ => true
  | _ => false

end ParseError

end CommentDirectives
