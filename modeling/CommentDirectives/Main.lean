import CommentDirectives.CommandLine

/-!
# The program

Reads the working folder, and the paths among the arguments that lie elsewhere, does
what the command line asks for, prints the lines that it gives, and brings the files
on the disk to the state that it leaves behind.
-/

set_option autoImplicit false

namespace CommentDirectives.Program

/-- The place that an absolute path names. -/
def placeOf (path : String) : Place := Path.components path

/-- The path of a place. -/
def pathOf (place : Place) : String := "/" ++ "/".intercalate place

/-- Adds a file or a folder of the disk, with all that is in it, to a tree. -/
partial def load (tree : FileTree) (path : String) : IO FileTree := do
  let content ← (IO.FS.readBinFile path).toBaseIO
  match content with
  | .ok bytes =>
    let folder := (Path.parent? path).getD "/"
    let written := (tree.createFolders folder).bind fun tree => tree.write path bytes none
    return written.toOption.getD tree
  | .error _ =>
    match ← ((← IO.currentDir) / path).readDir.toBaseIO with
    | .error _ => return tree
    | .ok entries =>
      let tree := (tree.createFolders path).toOption.getD tree
      entries.foldlM (fun tree entry => load tree (Path.join path entry.fileName)) tree

/-- Writes to the disk what a tree has and an earlier tree does not have. -/
def store (earlier later : FileTree) : IO Unit := do
  for (place, node) in later.nodes.entries do
    unless earlier.node? place = some node do
      match node with
      | .folder => IO.FS.createDirAll (pathOf place)
      | .file content _ => IO.FS.writeBinFile (pathOf place) content

/-- Removes from the disk what an earlier tree has and a tree does not have. -/
def discard (earlier later : FileTree) : IO Unit := do
  for (place, node) in earlier.nodes.entries.reverse do
    if (later.node? place).isNone then
      match node with
      | .folder => IO.FS.removeDir (pathOf place)
      | .file .. => IO.FS.removeFile (pathOf place)

/-- The variables of the environment of the program. -/
def environment : IO (List (String × String)) := do
  let bytes ← IO.FS.readBinFile "/proc/self/environ"
  let text := (String.fromUTF8? bytes).getD ""
  let entries := (text.splitOn "\x00").map fun entry => entry.splitOn "="
  return entries.filterMap fun
    | name :: value => if name.isEmpty then none else some (name, "=".intercalate value)
    | [] => none

/-- Does what the arguments of the program ask for, and gives its exit code. -/
def run (arguments : List String) : IO UInt32 := do
  let workingFolder := toString (← IO.currentDir)
  let elsewhere := arguments.filter Path.isAbsolute
  let tree ← (workingFolder :: elsewhere).foldlM load (FileTree.empty (placeOf workingFolder))
  let result := CommandLine.run arguments (← environment) tree
  for line in result.lines do IO.println line
  discard tree result.tree
  store tree result.tree
  return UInt32.ofNat result.exitCode

end CommentDirectives.Program

/-- The program. -/
def main (arguments : List String) : IO UInt32 :=
  CommentDirectives.Program.run arguments
