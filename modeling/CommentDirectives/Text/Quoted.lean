import CommentDirectives.Text.Unprintable

/-!
# Quoted text

The form in which texts are shown inside messages, expressions and sets: double
quotes around the text, the six short escapes, and every other character without
a printed form of its own written by its number.  A single quote stands for
itself.
-/

namespace CommentDirectives.Text

set_option autoImplicit false

/-- The lower-case hexadecimal digits of a number. -/
def hexadecimalDigits (number : Nat) : List Char := Nat.toDigits 16 number

/-- The quoted form of one character. -/
def quoteCharacter (character : Char) : List Char :=
  match character with
  | '\x00' => ['\\', '0']
  | '\t' => ['\\', 't']
  | '\r' => ['\\', 'r']
  | '\n' => ['\\', 'n']
  | '"' => ['\\', '"']
  | '\\' => ['\\', '\\']
  | _ =>
    if isUnprintable character then
      ['\\', 'u', '\x7b'] ++ hexadecimalDigits character.toNat ++ ['\x7d']
    else [character]

/-- A text between double quotes, its special characters escaped. -/
def quote (text : List Char) : List Char :=
  '"' :: text.flatMap quoteCharacter ++ ['"']

/-- The quoted form of a string. -/
def quoted (text : String) : String := String.ofList (quote text.toList)

end CommentDirectives.Text
