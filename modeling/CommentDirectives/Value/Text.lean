import CommentDirectives.Text.Quoted
import CommentDirectives.Value

/-!
# Values as text

The text that a value contributes to a line, a message or a longer text.  A text
stands for itself, and only inside a set is it quoted.  A number whose written
form has an exponent but no point gets one, so that its kind can be read off.
-/

namespace CommentDirectives.Value

set_option autoImplicit false

mutual
/-- The text of a value. -/
def text : Value → String
  | .int number => IntegerText.text number
  | .float number => Binary32.textWith true number
  | .string content => content
  | .bool truth => if truth then "true" else "false"
  | .set members => "\x7b" ++ ", ".intercalate (memberTexts members) ++ "\x7d"

/-- The text of a value as a member of a set. -/
def memberText : Value → String
  | .int number => IntegerText.text number
  | .float number => Binary32.textWith true number
  | .string content => Text.quoted content
  | .bool truth => if truth then "true" else "false"
  | .set members => "\x7b" ++ ", ".intercalate (memberTexts members) ++ "\x7d"

/-- The texts of the members of a set. -/
def memberTexts : List Value → List String
  | [] => []
  | member :: rest => memberText member :: memberTexts rest
end

end CommentDirectives.Value
