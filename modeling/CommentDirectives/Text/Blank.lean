/-!
# Blank characters and trimming

A character is blank when Unicode gives it the White_Space property.  Lines,
directive tails and configuration texts are trimmed by this class; the tokens of
an expression are separated by the smaller class `isTokenBlank` of the lexer.
-/

namespace CommentDirectives.Text

set_option autoImplicit false

/-- Whether a character has the White_Space property. -/
def isBlank (character : Char) : Bool :=
  let code := character.toNat
  (decide (0x9 ≤ code) && decide (code ≤ 0xd)) || code == 0x20 || code == 0x85 || code == 0xa0
    || code == 0x1680 || (decide (0x2000 ≤ code) && decide (code ≤ 0x200a)) || code == 0x2028
    || code == 0x2029 || code == 0x202f || code == 0x205f || code == 0x3000

/-- The text without its leading blanks. -/
def trimStart (text : List Char) : List Char := text.dropWhile isBlank

/-- The text without its trailing blanks. -/
def trimEnd (text : List Char) : List Char := (text.reverse.dropWhile isBlank).reverse

/-- The text without the blanks at its ends. -/
def trim (text : List Char) : List Char := trimEnd (trimStart text)

/-- The string without the blanks at its ends. -/
def trimmed (text : String) : String := String.ofList (trim text.toList)

end CommentDirectives.Text
