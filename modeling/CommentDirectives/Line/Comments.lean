import CommentDirectives.Text.Blank

/-!
# Removing comments

Line comments and block comments are removed from text, but not inside quotes.  A
quoted text starts anew on every line, and a backslash in it takes the next
character along.  A line that loses something also loses the blanks at its end.
-/

namespace CommentDirectives.Comments

set_option autoImplicit false

/-- Where in a line the reader of comments is. -/
inductive Mode where
  | plain
  | quoted (mark : Char)
  | block
  deriving DecidableEq, Repr

/-- What is left of a line, whether anything was removed, and whether the line ends inside a
block comment. -/
structure Remains where
  kept : List Char
  removed : Bool
  inBlock : Bool
  deriving DecidableEq, Repr

/-- Puts a character in front of what is left. -/
def Remains.keep (character : Char) (remains : Remains) : Remains :=
  { remains with kept := character :: remains.kept }

/-- Notes that something in front of what is left was removed. -/
def Remains.drop (remains : Remains) : Remains := { remains with removed := true }

/-- Reads a line from a given mode on. -/
def scan : Mode → List Char → Remains
  | .block, [] => ⟨[], true, true⟩
  | .block, '*' :: '/' :: rest => (scan .plain rest).drop
  | .block, _ :: rest => (scan .block rest).drop
  | .quoted _, [] => ⟨[], false, false⟩
  | .quoted mark, '\\' :: escaped :: rest =>
    ((scan (.quoted mark) rest).keep escaped).keep '\\'
  | .quoted mark, character :: rest =>
    (scan (if character = mark then .plain else .quoted mark) rest).keep character
  | .plain, [] => ⟨[], false, false⟩
  | .plain, '/' :: '/' :: _ => ⟨[], true, false⟩
  | .plain, '/' :: '*' :: rest => (scan .block rest).drop
  | .plain, character :: rest =>
    (scan (if character = '"' ∨ character = '\'' then .quoted character else .plain) rest).keep
      character

/-- A line without its comments, read outside or inside a block comment, and whether a block
comment is open at its end. -/
def strip (inBlock : Bool) (line : List Char) : List Char × Bool :=
  let remains := scan (if inBlock then .block else .plain) line
  (if remains.removed then Text.trimEnd remains.kept else remains.kept, remains.inBlock)

/-- Some lines without their comments, each with whether a block comment is open at its end. -/
def stripAll (inBlock : Bool) : List (List Char) → List (List Char × Bool)
  | [] => []
  | line :: rest =>
    let stripped := strip inBlock line
    stripped :: stripAll stripped.2 rest

end CommentDirectives.Comments
