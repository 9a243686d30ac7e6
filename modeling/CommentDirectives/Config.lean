import CommentDirectives.Config.SettingsFile
import CommentDirectives.FileTree
import CommentDirectives.Provider
import CommentDirectives.RunError
import CommentDirectives.Text.AsciiCase

/-!
# Configurations

Everything that stays the same during a run: where files are taken from and put,
which of them are processed, copied or left out, the variables to start with, and
how the text of files is treated.
-/

namespace CommentDirectives

set_option autoImplicit false

/-- The settings of a run. -/
structure Config where
  /-- Folders to go through, or single files. -/
  sources : List String := []
  /-- The folder that receives the files. -/
  destination : String := "preprocessed"
  /-- The encoding of the files that are read. -/
  sourceEncoding : String := "UTF-8"
  /-- The encoding of the files that are written. -/
  destinationEncoding : String := "UTF-8"
  /-- What is written behind each line. -/
  terminator : String := "\n"
  /-- Extensions of files whose directives are followed. -/
  extensions : List String := ["java", "txt", "htm", "html"]
  /-- Extensions of files that are left out. -/
  excludedExtensions : List String := ["xml"]
  /-- Patterns of folders that are left out, with paths seen from the root of the sources. -/
  excludedFolders : List String := []
  /-- Files with further variables. -/
  settingsFiles : List String := []
  /-- Variables that all files share at first. -/
  globals : List (String × Value) := []
  /-- Leave comments in the text. -/
  keepComments : Bool := false
  /-- Put an empty line for every line that is left out. -/
  keepLines : Bool := false
  /-- Report every file at the level of information. -/
  verbose : Bool := false
  /-- Change no file. -/
  dryRun : Bool := false
  /-- Remove the destination before the run. -/
  clearDestination : Bool := false
  /-- Leave out the last terminator where the source has none. -/
  careForLastTerminator : Bool := false
  /-- Accept blanks between the slashes and the `#` of a directive. -/
  allowBlanks : Bool := false
  /-- Put blanks for the mark of a line to be uncommented. -/
  preserveIndentation : Bool := false
  /-- Give files the mode of their sources. -/
  keepMode : Bool := false
  /-- Take names without a value for false. -/
  unknownAsFalse : Bool := false
  /-- Leave files alone that hold the wanted bytes already. -/
  skipUnchanged : Bool := false
  /-- Pass over roots that do not exist and files that fail. -/
  ignoreMissing : Bool := false
  /-- Providers of values, asked in this order. -/
  providers : List Provider := []
  /-- What decides on actions.  It is supplied from outside, and taken as a function: the same file and
  the same arguments always get the same answer, and giving it changes no provider and no file. -/
  extension : Option (String → List Value → Bool) := none

namespace Config

/-- Whether a label names the only encoding there is. -/
def isKnownEncoding (label : String) : Bool :=
  let trimmed := (Text.trim label.toList)
  Text.sameAsciiCase trimmed "utf-8".toList || Text.sameAsciiCase trimmed "utf8".toList

/-- Whether the extension of a path is on a list, whatever its case; points in front of an
extension on the list do not count. -/
def hasExtension (path : String) (extensions : List String) : Bool :=
  match Path.extension? path with
  | none => false
  | some extension =>
    extensions.any fun listed =>
      Text.sameAsciiCase (listed.toList.dropWhile (· == '.')) extension.toList

/-- Whether the directives in a file are followed. -/
def isProcessed (config : Config) (path : String) : Bool := hasExtension path config.extensions

/-- Whether a file is left out. -/
def isExcluded (config : Config) (path : String) : Bool :=
  hasExtension path config.excludedExtensions

/-- The patterns that some texts describe. -/
def readPatterns : List String → Except ConfigError (List FolderPattern)
  | [] => .ok []
  | text :: rest =>
    match FolderPattern.read text with
    | .error cause => .error (.pattern text cause)
    | .ok pattern => (readPatterns rest).map (pattern :: ·)

/-- The patterns of folders that are left out. -/
def folderPatterns (config : Config) : Except ConfigError (List FolderPattern) :=
  readPatterns config.excludedFolders

/-- What is wrong with the settings that can be checked without reading files. -/
def validate (config : Config) : Except ConfigError Unit :=
  if !isKnownEncoding config.sourceEncoding then
    .error (.encoding .source config.sourceEncoding)
  else if !isKnownEncoding config.destinationEncoding then
    .error (.encoding .destination config.destinationEncoding)
  else if config.terminator.isEmpty then .error .emptyTerminator
  else
    match config.folderPatterns with
    | .error failure => .error failure
    | .ok _ =>
      match config.globals.find? fun setting => !Name.isValid setting.1 with
      | some setting => .error (.invalidName setting.1)
      | none => .ok ()

/-- A layer with the variables of some files with settings added, in the order of the files. -/
def addSettings (tree : FileTree) (layer : Layer) : List String → Except RunError Layer
  | [] => .ok layer
  | path :: rest =>
    match tree.readText path with
    | .error cause => .error (.file path cause)
    | .ok text =>
      match SettingsFile.read path text with
      | .error cause => .error (.config cause)
      | .ok settings => addSettings tree (layer.setAll settings) rest

/-- The variables that all files share at first: those of the configuration, then those of its
files with settings. -/
def loadGlobals (config : Config) (tree : FileTree) : Except RunError Layer :=
  addSettings tree (Layer.ofList config.globals) config.settingsFiles

end Config

end CommentDirectives
