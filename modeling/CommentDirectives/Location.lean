import CommentDirectives.Text.Blank

/-!
# Places in files

The line of a file that a message speaks of, with its text.
-/

namespace CommentDirectives

set_option autoImplicit false

/-- A line of a file, counted from one, and its whole text. -/
structure Location where
  file : String
  line : Nat
  text : String
  deriving DecidableEq, Repr, Inhabited

/-- A place as messages show it, its text without the blanks at its ends. -/
def Location.shown (location : Location) : String :=
  location.file ++ ":" ++ toString location.line ++ ": \x60" ++ Text.trimmed location.text ++ "\x60"

end CommentDirectives
