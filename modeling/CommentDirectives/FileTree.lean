import CommentDirectives.FileTree.Error
import CommentDirectives.Path
import CommentDirectives.SortedMap

/-!
# Trees of files

Files and folders under the names that lead to them from the root of all folders.
A tree is a finite map from such places to nodes in which everything but the root
stands in a folder.  Paths are followed piece by piece, from the root or from the
working folder: every step needs a folder to start from, and two points lead to
the folder above.

Only what paths lead to is kept.  Files have a mode, which is carried along and
checked by none: every file can be read and written, and files can be made and
removed in every folder.  Folders have no modes, nothing stands at two places,
and there are no links.
-/

namespace CommentDirectives

set_option autoImplicit false

/-- What stands at a place. -/
inductive Node where
  /-- Some bytes, and who may do what with them. -/
  | file (content : ByteArray) (mode : Nat)
  | folder

instance : DecidableEq Node
  | .file content mode, .file content' mode' =>
    decidable_of_iff (content.data = content'.data ∧ mode = mode') (by simp [ByteArray.ext_iff])
  | .folder, .folder => isTrue rfl
  | .file .., .folder => isFalse nofun
  | .folder, .file .. => isFalse nofun

/-- The names that lead from the root to a file or a folder. -/
abbrev Place := List String

/-- The node at a place among some nodes; the root is a folder. -/
def nodeAmong? (nodes : SortedMap Place Node) (place : Place) : Option Node :=
  if place = [] then some .folder else nodes.get? place

/-- Files and folders, and the folder that paths start from. -/
structure FileTree where
  nodes : SortedMap Place Node
  workingFolder : Place
  /-- Whatever stands somewhere stands in a folder. -/
  inFolder : ∀ (place : Place) (name : String), (nodes.get? (place ++ [name])).isSome →
    nodeAmong? nodes place = some .folder

namespace FileTree

/-- The mode of a new file: its owner may write, everyone may read. -/
def newFileMode : Nat := 0o644

/-- The tree without files, seen from a folder. -/
def empty (workingFolder : Place) : FileTree :=
  ⟨SortedMap.empty, workingFolder, fun place name present => by
    rw [SortedMap.get?_empty] at present
    exact absurd present (by simp)⟩

/-- What stands at a place. -/
def node? (tree : FileTree) (place : Place) : Option Node := nodeAmong? tree.nodes place

/-! ## Changes at a place -/

/-- The tree with a node put at a place in a folder; a folder stays one. -/
def insert (tree : FileTree) (folder : Place) (name : String) (node : Node)
    (present : tree.node? folder = some .folder)
    (keeps : node = .folder ∨ tree.node? (folder ++ [name]) ≠ some .folder) : FileTree where
  nodes := tree.nodes.insert (folder ++ [name]) node
  workingFolder := tree.workingFolder
  inFolder := fun place other inside => by
    have at? (asked : Place) (notRoot : asked ≠ []) : nodeAmong? tree.nodes asked =
        tree.nodes.get? asked := by simp [nodeAmong?, notRoot]
    by_cases root : place = []
    · simp [nodeAmong?, root]
    · have before : nodeAmong? tree.nodes place = some .folder := by
        rw [SortedMap.get?_insert] at inside
        split at inside
        · next same =>
          obtain ⟨rfl, _⟩ := List.append_inj' same rfl
          exact present
        · exact tree.inFolder place other inside
      rw [nodeAmong?, if_neg root, SortedMap.get?_insert]
      split
      · next same =>
        rcases keeps with folderNode | notFolder
        · rw [folderNode]
        · exact absurd (same ▸ before) notFolder
      · rw [← at? place root, before]

/-- The tree without what stands at a place and below it. -/
def removeBelow (tree : FileTree) (place : Place) : FileTree where
  nodes := tree.nodes.filterKeys fun key => !place.isPrefixOf key
  workingFolder := tree.workingFolder
  inFolder := fun above name inside => by
    by_cases root : above = []
    · simp [nodeAmong?, root]
    · rw [SortedMap.get?_filterKeys] at inside
      split at inside
      · next kept =>
        have before := tree.inFolder above name inside
        rw [nodeAmong?, if_neg root] at before ⊢
        rw [SortedMap.get?_filterKeys, before]
        have keptAbove : (!place.isPrefixOf above) = true := by
          simp only [Bool.not_eq_true', ← Bool.not_eq_true, List.isPrefixOf_iff_prefix] at kept ⊢
          exact fun leads => kept (leads.trans (List.prefix_append _ _))
        rw [if_pos keptAbove]
      · exact absurd inside (by simp)

/-! ## Following paths -/

/-- The place that the pieces of a path lead to from a place.  Every piece starts from a folder. -/
def follow (tree : FileTree) (place : Place) : List (List Char) → Except FileError Place
  | [] => .ok place
  | piece :: rest =>
    match tree.node? place with
    | none => .error .notFound
    | some (.file ..) => .error .notAFolder
    | some .folder =>
      if Path.isIdle piece then follow tree place rest
      else if piece = ['.', '.'] then follow tree place.dropLast rest
      else follow tree (place ++ [String.ofList piece]) rest

/-- Where a path starts. -/
def start (tree : FileTree) (path : String) : Place :=
  if Path.isAbsolute path then [] else tree.workingFolder

/-- The place that a path leads to, which may be free if its folder exists. -/
def locate (tree : FileTree) (path : String) : Except FileError Place :=
  if path.toList.contains '\x00' then .error .invalidPath
  else if path.isEmpty then .error .notFound
  else tree.follow (tree.start path) (Path.splitSlashes path.toList)

/-- What a path leads to. -/
def lookup (tree : FileTree) (path : String) : Except FileError Node :=
  match tree.locate path with
  | .error failure => .error failure
  | .ok place =>
    match tree.node? place with
    | none => .error .notFound
    | some node => .ok node

/-- Whether a path leads to something. -/
def contains (tree : FileTree) (path : String) : Bool := (tree.lookup path).isOk

/-- Whether a path leads to a file. -/
def isFile (tree : FileTree) (path : String) : Bool :=
  match tree.lookup path with
  | .ok (.file ..) => true
  | _ => false

/-! ## Reading -/

/-- The bytes of a file. -/
def readBytes (tree : FileTree) (path : String) : Except FileError ByteArray :=
  match tree.lookup path with
  | .error failure => .error failure
  | .ok .folder => .error .isAFolder
  | .ok (.file content _) => .ok content

/-- The text of a file. -/
def readText (tree : FileTree) (path : String) : Except FileError String :=
  match tree.readBytes path with
  | .error failure => .error failure
  | .ok content =>
    match String.fromUTF8? content with
    | none => .error .invalidText
    | some text => .ok text

/-- The mode of a file. -/
def mode? (tree : FileTree) (path : String) : Option Nat :=
  match tree.lookup path with
  | .ok (.file _ mode) => some mode
  | _ => none

/-- What stands below a place, each node under the names that lead to it from there, with the
contents of a folder directly behind the folder and names in their order. -/
def below (tree : FileTree) (place : Place) : List (List String × Node) :=
  tree.nodes.entries.filterMap fun entry =>
    match place.isPrefixOf? entry.1 with
    | none | some [] => none
    | some names => some (names, entry.2)

/-! ## Writing -/

/-- The tree with a file at a place in a folder. -/
def writeAt (tree : FileTree) (folder : Place) (name : String) (content : ByteArray)
    (mode : Option Nat) : Except FileError FileTree :=
  match present : tree.node? folder with
  | none => .error .notFound
  | some (.file ..) => .error .notAFolder
  | some .folder =>
    match occupied : tree.node? (folder ++ [name]) with
    | some .folder => .error .isAFolder
    | some (.file _ old) =>
      .ok (tree.insert folder name (.file content (mode.getD old)) present (by simp [occupied]))
    | none =>
      .ok (tree.insert folder name (.file content (mode.getD newFileMode)) present
        (by simp [occupied]))

/-- The tree after a file has been written; a file that is there keeps its mode unless one is
given. -/
def write (tree : FileTree) (path : String) (content : ByteArray) (mode : Option Nat) :
    Except FileError FileTree :=
  match tree.locate path with
  | .error failure => .error failure
  | .ok place =>
    match place.getLast? with
    | none => .error .isAFolder
    | some name => tree.writeAt place.dropLast name content mode

/-- Makes all folders that a path names from a place on, which is a folder.  The tree has those that
could be made also if one of them could not. -/
def createAlong (tree : FileTree) (place : Place) :
    List (List Char) → FileTree × Except FileError Unit
  | [] => (tree, .ok ())
  | piece :: rest =>
    if Path.isIdle piece then createAlong tree place rest
    else if piece = ['.', '.'] then createAlong tree place.dropLast rest
    else
      let name := String.ofList piece
      match present : tree.node? place with
      | none => (tree, .error .notFound)
      | some (.file ..) => (tree, .error .notAFolder)
      | some .folder =>
        match tree.node? (place ++ [name]) with
        | some .folder => createAlong tree (place ++ [name]) rest
        | some (.file ..) =>
          (tree, .error (if rest.all Path.isIdle then .alreadyExists else .notAFolder))
        | none =>
          createAlong (tree.insert place name .folder present (Or.inl rfl)) (place ++ [name]) rest

/-- Makes all folders that a path names, or those in front of the first that cannot be made. -/
def makeFolders (tree : FileTree) (path : String) : FileTree × Except FileError Unit :=
  if path.toList.contains '\x00' then (tree, .error .invalidPath)
  else tree.createAlong (tree.start path) (Path.splitSlashes path.toList)

/-- The tree after all folders that a path names have been made. -/
def createFolders (tree : FileTree) (path : String) : Except FileError FileTree :=
  match tree.makeFolders path with
  | (_, .error failure) => .error failure
  | (made, .ok _) => .ok made

/-! ## Removing -/

/-- The tree without a folder and all that is in it. -/
def removeFolder (tree : FileTree) (path : String) : Except FileError FileTree :=
  match tree.locate path with
  | .error failure => .error failure
  | .ok place =>
    match tree.node? place with
    | none => .error .notFound
    | some (.file ..) => .error .notAFolder
    | some .folder => .ok (tree.removeBelow place)

/-- The tree without a file. -/
def removeFile (tree : FileTree) (path : String) : Except FileError FileTree :=
  match tree.locate path with
  | .error failure => .error failure
  | .ok place =>
    match tree.node? place with
    | none => .error .notFound
    | some .folder => .error .isAFolder
    | some (.file ..) => .ok (tree.removeBelow place)

end FileTree

end CommentDirectives
