/-!
# Lines of a text

A text is cut at its line feeds, and a carriage return directly before a line
feed belongs to the terminator.  A last piece without a terminator is a line of
its own unless it is empty, and it keeps a trailing carriage return.
-/

namespace CommentDirectives.Text

set_option autoImplicit false

/-- The lines of a text, terminators removed. -/
def lines : List Char → List (List Char)
  | [] => []
  | '\n' :: rest => [] :: lines rest
  | '\r' :: '\n' :: rest => [] :: lines rest
  | character :: rest =>
    match lines rest with
    | [] => [[character]]
    | line :: following =>
      (character :: line) :: following

/-- Whether the last character of a text is a line feed. -/
def endsWithLineFeed (text : List Char) : Bool := text.getLast? == some '\n'

end CommentDirectives.Text
