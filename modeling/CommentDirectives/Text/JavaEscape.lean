/-!
# Texts escaped for Java string literals

The body of a Java string literal: quotes and backslashes escaped, the control
characters with a letter of their own by that letter, and all other control
characters by their number in four capital hexadecimal digits.
-/

namespace CommentDirectives.Text

set_option autoImplicit false

/-- Whether a character is a control character. -/
def isControl (character : Char) : Bool :=
  decide (character.toNat < 0x20)
    || (decide (0x7f ≤ character.toNat) && decide (character.toNat < 0xa0))

/-- The last four capital hexadecimal digits of a number. -/
def fourCapitalDigits (number : Nat) : List Char :=
  [number / 4096, number / 256, number / 16, number].map fun part =>
    (Nat.digitChar (part % 16)).toUpper

/-- The escaped form of one character. -/
def javaEscapeCharacter (character : Char) : List Char :=
  match character with
  | '"' => ['\\', '"']
  | '\'' => ['\\', '\'']
  | '\\' => ['\\', '\\']
  | '\n' => ['\\', 'n']
  | '\r' => ['\\', 'r']
  | '\t' => ['\\', 't']
  | '\x08' => ['\\', 'b']
  | '\x0c' => ['\\', 'f']
  | _ =>
    if isControl character then ['\\', 'u'] ++ fourCapitalDigits character.toNat
    else [character]

/-- A text escaped as the body of a Java string literal. -/
def javaEscape (text : List Char) : List Char := text.flatMap javaEscapeCharacter

end CommentDirectives.Text
