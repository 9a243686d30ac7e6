/-!
# Paths

Paths are texts of components between slashes.  Empty components and points are
passed over, but for a point in front.  A component of two points leads to the
folder above.
-/

namespace CommentDirectives.Path

set_option autoImplicit false

/-- The pieces of a text between slashes. -/
def splitSlashes : List Char → List (List Char)
  | [] => [[]]
  | character :: rest =>
    if character = '/' then [] :: splitSlashes rest
    else
      match splitSlashes rest with
      | [] => [[character]]
      | piece :: pieces => (character :: piece) :: pieces

/-- Whether a path starts at the root of all folders. -/
def isAbsolute (path : String) : Bool := path.toList.head? == some '/'

/-- A piece that names no step. -/
def isIdle (piece : List Char) : Bool := piece.isEmpty || piece == ['.']

/-- The names of a path's components; a point counts where it stands in front of a path that is
not absolute. -/
def components (path : String) : List String :=
  match splitSlashes path.toList with
  | [] => []
  | first :: rest =>
    let behind := (rest.filter fun piece => !isIdle piece).map String.ofList
    if first.isEmpty then behind else String.ofList first :: behind

/-- The last component of a path, unless it leads elsewhere than to a name. -/
def fileName? (path : String) : Option String :=
  match (components path).getLast? with
  | some name => if name = "." ∨ name = ".." then none else some name
  | none => none

/-- Removes from the end of a text, given in reverse, the slashes and the points between them,
down to a point or a slash in front. -/
def trimIdle : List Char → List Char
  | [] => []
  | ['/'] => ['/']
  | '/' :: rest => trimIdle rest
  | '.' :: '/' :: rest => trimIdle ('/' :: rest)
  | reversed => reversed

/-- The path without its last component. -/
def parent? (path : String) : Option String :=
  if (components path).isEmpty then none
  else
    let reversed := trimIdle path.toList.reverse
    some (String.ofList (trimIdle (reversed.dropWhile (· != '/'))).reverse)

/-- A path seen from a folder; an absolute path stays itself. -/
def join (folder path : String) : String :=
  if isAbsolute path then path
  else
    match folder.toList.getLast? with
    | none => path
    | some last => if last = '/' then folder ++ path else folder ++ "/" ++ path

/-- What follows the last point in the last component of a path, if the point is not its first
character. -/
def extension? (path : String) : Option String :=
  match fileName? path with
  | none => none
  | some name =>
    let reversed := name.toList.reverse
    let suffix := reversed.takeWhile (· != '.')
    match reversed.drop suffix.length with
    | [] => none
    | [_] => none
    | _ => some (String.ofList suffix.reverse)

end CommentDirectives.Path
