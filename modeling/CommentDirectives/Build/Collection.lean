import CommentDirectives.FileTree
import CommentDirectives.FolderPattern.Matching

/-!
# The files below a root

The files of a run are taken from roots.  A root that is a file gives just that
file; a root that is a folder gives the files below it, in the order of their
names and with the contents of a folder in its place.  A folder below the root
whose path from there is excluded by a pattern is left out with all that is in it.
-/

namespace CommentDirectives

set_option autoImplicit false

/-- A file of a run. -/
structure SourceFile where
  /-- The path that leads to the file. -/
  path : String
  /-- Its path seen from its root. -/
  relative : String
  deriving DecidableEq, Repr

namespace Collection

/-- A path through some names. -/
def pathOf (names : List String) : String := "/".intercalate names

/-- The folders above a place, the topmost first, all seen from the root. -/
def foldersAbove : List String → List (List String)
  | [] => []
  | [_] => []
  | name :: rest => [name] :: (foldersAbove rest).map fun folder => name :: folder

/-- Whether a pattern excludes a folder. -/
def isExcluded (patterns : List FolderPattern) (folder : List String) : Bool :=
  patterns.any fun pattern => pattern.isMatch (pathOf folder)

/-- Whether no folder above a place is excluded. -/
def isReached (patterns : List FolderPattern) (names : List String) : Bool :=
  (foldersAbove names).all fun folder => !isExcluded patterns folder

/-- What is below a root and not below an excluded folder. -/
def reached (tree : FileTree) (patterns : List FolderPattern) (root : String) :
    List (List String × Node) :=
  match tree.locate root with
  | .error _ => []
  | .ok place => (tree.below place).filter fun entry => isReached patterns entry.1

/-- The files of a root. -/
def files (tree : FileTree) (patterns : List FolderPattern) (root : String) : List SourceFile :=
  if tree.isFile root then [⟨root, (Path.fileName? root).getD ""⟩]
  else
    (reached tree patterns root).filterMap fun entry =>
      match entry.2 with
      | .folder => none
      | .file .. =>
        let relative := pathOf entry.1
        some ⟨Path.join root relative, relative⟩

/-- The folders of a root that are left out, without those inside others. -/
def excludedFolders (tree : FileTree) (patterns : List FolderPattern) (root : String) :
    List String :=
  (reached tree patterns root).filterMap fun entry =>
    match entry.2 with
    | .file .. => none
    | .folder => if isExcluded patterns entry.1 then some (pathOf entry.1) else none

end Collection

end CommentDirectives
