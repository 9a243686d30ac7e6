/-!
# Comparison without regard to ASCII case

Function names, extensions and the two truth words are compared in this way:
letters of the ASCII range count as their small forms, all others as themselves.
-/

namespace CommentDirectives.Text

set_option autoImplicit false

/-- Whether two texts differ at most in the case of ASCII letters. -/
def sameAsciiCase (left right : List Char) : Bool :=
  left.map Char.toLower == right.map Char.toLower

end CommentDirectives.Text
