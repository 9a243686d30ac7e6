import CommentDirectives.Text.Blank

/-!
# Forms of lines

A line is a directive, a line to be uncommented, or text.  A directive is a line
comment that starts with `#` and a keyword; blanks between the slashes and the
`#` count only where that is allowed.  A line to be uncommented starts with `//$`,
or with `//$$` if what follows is taken as it stands.
-/

namespace CommentDirectives

set_option autoImplicit false

/-- What a line is. -/
inductive LineForm where
  | directive (keyword : String) (tail : List Char)
  | uncomment (indent text : List Char) (verbatim : Bool)
  | plain
  deriving DecidableEq, Repr

namespace LineForm

/-- The number of characters in the mark of a line to be uncommented. -/
def markLength (verbatim : Bool) : Nat := if verbatim then 4 else 3

/-- Whether a keyword can hold a character. -/
def isKeywordCharacter (character : Char) : Bool := character.isAlphanum || character == '_'

/-- The form of a comment that starts with `#`, which is left out here. -/
def ofDirectiveText (text : List Char) : LineForm :=
  match text.takeWhile isKeywordCharacter with
  | [] => .plain
  | keyword => .directive (String.ofList keyword) (text.dropWhile isKeywordCharacter)

/-- The form of a line comment, by its indentation and what follows the slashes. -/
def ofComment (allowBlanks : Bool) (indent : List Char) : List Char → LineForm
  | '$' :: '$' :: text => .uncomment indent text true
  | '$' :: text => .uncomment indent text false
  | comment =>
    match if allowBlanks then Text.trimStart comment else comment with
    | '#' :: text => ofDirectiveText text
    | _ => .plain

/-- The form of a line. -/
def ofLine (allowBlanks : Bool) (line : List Char) : LineForm :=
  match Text.trimStart line with
  | '/' :: '/' :: comment => ofComment allowBlanks (line.takeWhile Text.isBlank) comment
  | _ => .plain

end LineForm

end CommentDirectives
