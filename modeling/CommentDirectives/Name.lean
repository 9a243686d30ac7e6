import CommentDirectives.Text.Blank
import CommentDirectives.Text.Lowercase

/-!
# Names of variables

Names are stored and looked up without their case and without blanks at their
ends.  What a directive accepts as a name is narrower: a letter or an underscore,
then letters, digits, underscores and points, all of the ASCII range.
-/

namespace CommentDirectives.Name

set_option autoImplicit false

/-- The form under which a name is stored. -/
def normalize (name : String) : String := Text.lowercase (Text.trimmed name)

/-- Whether a name can start with a character. -/
def canStart (character : Char) : Bool := character.isAlpha || character == '_'

/-- Whether a name can go on with a character. -/
def canContinue (character : Char) : Bool :=
  character.isAlphanum || character == '_' || character == '.'

/-- Whether the characters of a text make a name that directives accept. -/
def areValid : List Char → Bool
  | [] => false
  | first :: rest => canStart first && rest.all canContinue

/-- Whether a text is a name that directives accept. -/
def isValid (name : String) : Bool := areValid name.toList

end CommentDirectives.Name
