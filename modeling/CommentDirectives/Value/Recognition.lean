import CommentDirectives.Text.AsciiCase
import CommentDirectives.Text.Blank
import CommentDirectives.Token.Lexer
import CommentDirectives.Value

/-!
# Raw text as a value

Definitions on the command line, lines of configuration files and variables of
the environment give their values as raw text.  Such a text is a truth value or a
literal if it spells one, with a minus sign in front of a number if need be, and
otherwise it is itself.
-/

namespace CommentDirectives.Value

set_option autoImplicit false

/-- The truth value that a text spells, blanks at its ends and ASCII case not counted. -/
def truthOfText? (raw : List Char) : Option Bool :=
  let word := Text.trim raw
  if Text.sameAsciiCase word "true".toList then some true
  else if Text.sameAsciiCase word "false".toList then some false
  else none

/-- Whether a raw text starts with a minus behind blanks, and what is then left to read; without
a minus nothing is taken away. -/
def splitMinus (raw : List Char) : Bool × List Char :=
  match Text.trimStart raw with
  | '-' :: rest => (true, rest)
  | _ => (false, raw)

/-- The value of a literal token behind an optional minus. -/
def ofToken? : Bool → Token → Option Value
  | false, .int number => some (.int number)
  | true, .int number => some (.int (-number))
  | false, .float number => some (.float number)
  | true, .float number => some (.float (-number))
  | false, .string text => some (.string text)
  | _, _ => none

/-- The value of a text that is a single literal token behind an optional minus. -/
def literal? (raw : List Char) : Option Value :=
  let (negative, body) := splitMinus raw
  match Token.lexemesFrom 0 0 body with
  | .ok [lexeme] => ofToken? negative lexeme.token
  | _ => none

/-- The value that a raw text spells. -/
def recognize (raw : String) : Value :=
  match truthOfText? raw.toList with
  | some truth => .bool truth
  | none =>
    match literal? raw.toList with
    | some value => value
    | none => .string raw

end CommentDirectives.Value
