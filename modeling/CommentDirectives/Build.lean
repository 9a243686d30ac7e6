import CommentDirectives.Build.Collection
import CommentDirectives.Processing.Run

/-!
# Runs over trees of files

A run takes the files of all its roots and puts each one at its path, seen from
its root, into the destination: processed, or copied as it is, unless the file is
left out.  The shared variables and the providers go from one file to the next,
also behind a file that fails.
-/

namespace CommentDirectives

set_option autoImplicit false

/-- How many files met which fate. -/
structure Summary where
  processed : Nat := 0
  copied : Nat := 0
  unchanged : Nat := 0
  excluded : Nat := 0
  failed : Nat := 0
  deriving DecidableEq, Repr

/-- What became of a file. -/
inductive Treatment where
  /-- It was processed and its output written. -/
  | processed
  /-- It was written as it is. -/
  | copied
  /-- The destination holds the wanted bytes already. -/
  | unchanged
  /-- It was left out. -/
  | excluded
  deriving DecidableEq, Repr

/-- A summary with one more file. -/
def Summary.record (summary : Summary) : Treatment → Summary
  | .processed => { summary with processed := summary.processed + 1 }
  | .copied => { summary with copied := summary.copied + 1 }
  | .unchanged => { summary with unchanged := summary.unchanged + 1 }
  | .excluded => { summary with excluded := summary.excluded + 1 }

/-- What changes during a run. -/
structure BuildState where
  tree : FileTree
  globals : Layer
  providers : List Provider
  summary : Summary := {}
  events : Array Event := #[]
  actions : Array Action := #[]

/-- A run that can start. -/
structure Build where
  config : Config
  /-- The folders that are left out. -/
  patterns : List FolderPattern
  /-- The variables that all files share. -/
  globals : Layer

namespace BuildState

/-- Reports an event. -/
def report (state : BuildState) (severity : Severity) (message : String)
    (details : List (String × String)) : BuildState :=
  { state with events := state.events.push ⟨severity, message, details⟩ }

/-- Reports what is done with a file. -/
def progress (state : BuildState) (config : Config) (message file : String) : BuildState :=
  state.report (if config.verbose then .info else .debug) message [("file", file)]

/-- The state behind a file that was processed. -/
def afterFile (state : BuildState) (session : Session) : BuildState :=
  { state with
    globals := session.globals
    providers := session.providers
    events := state.events ++ session.events
    actions := state.actions ++ session.actions }

end BuildState

namespace Build

/-- A run with some settings, which have to be valid. -/
def new (config : Config) (tree : FileTree) : Except RunError Build :=
  match config.validate with
  | .error cause => .error (.config cause)
  | .ok _ =>
    match config.loadGlobals tree with
    | .error cause => .error cause
    | .ok globals =>
      match config.folderPatterns with
      | .error cause => .error (.config cause)
      | .ok patterns => .ok ⟨config, patterns, globals⟩

/-! ## Writing -/

/-- Whether a path leads to a file with just some bytes. -/
def holds (tree : FileTree) (path : String) (bytes : ByteArray) : Bool :=
  match tree.readBytes path with
  | .ok content => content == bytes
  | .error _ => false

/-- Makes the folders that a path leads through. -/
def makeFoldersFor (tree : FileTree) (target : String) : FileTree × Except RunError Unit :=
  match Path.parent? target with
  | none => (tree, .ok ())
  | some folder =>
    let (made, outcome) := tree.makeFolders folder
    (made, outcome.mapError (.file folder))

/-- Puts bytes from a source at a path, whose folders are made.  Folders that were made stay if the
bytes cannot be put there. -/
def put (config : Config) (tree : FileTree) (source target : String) (bytes : ByteArray) :
    FileTree × Except RunError Unit :=
  match makeFoldersFor tree target with
  | (made, .error cause) => (made, .error cause)
  | (made, .ok _) =>
    let mode := if config.keepMode then made.mode? source else none
    match made.write target bytes mode with
    | .error cause => (made, .error (.file target cause))
    | .ok written => (written, .ok ())

/-- Puts bytes from a source at a path, unless nothing is to be changed there.  The treatment is
the given one if the bytes were put, or would have been but for a dry run. -/
def deliver (config : Config) (state : BuildState) (source target : String) (bytes : ByteArray)
    (treatment : Treatment) : BuildState × Except RunError Treatment :=
  if config.skipUnchanged && holds state.tree target bytes then
    (state.report .debug "unchanged" [("file", target)], .ok .unchanged)
  else if config.dryRun then (state, .ok treatment)
  else
    let (tree, outcome) := put config state.tree source target bytes
    ({ state with tree := tree }, outcome.map fun _ => treatment)

/-! ## Files -/

/-- Processes a file whose directives are followed. -/
def processOne (config : Config) (state : BuildState) (source target : String) :
    BuildState × Except RunError Treatment :=
  let result := config.processFile state.tree state.globals state.providers source
  let state := state.afterFile result.session
  match result.outcome with
  | .error cause => (state, .error cause)
  | .ok .excluded => (state.progress config "excluded by directive" source, .ok .excluded)
  | .ok (.text text) =>
    deliver config (state.progress config "preprocessing" source) source target text.toUTF8
      .processed

/-- Copies a file. -/
def copyOne (config : Config) (state : BuildState) (source target : String) :
    BuildState × Except RunError Treatment :=
  match state.tree.readBytes source with
  | .error cause => (state, .error (.file source cause))
  | .ok bytes =>
    deliver config (state.progress config "copying" source) source target bytes .copied

/-- Treats a file as its extension demands. -/
def treat (config : Config) (state : BuildState) (file : SourceFile) :
    BuildState × Except RunError Treatment :=
  let target := Path.join config.destination file.relative
  if config.isExcluded file.path then
    (state.progress config "excluded" file.path, .ok .excluded)
  else if config.isProcessed file.path then processOne config state file.path target
  else copyOne config state file.path target

/-- Treats some files.  The first failure ends the run, unless failures are passed over. -/
def treatAll (config : Config) (state : BuildState) :
    List SourceFile → BuildState × Except RunError Unit
  | [] => (state, .ok ())
  | file :: rest =>
    match treat config state file with
    | (state, .ok treatment) =>
      treatAll config { state with summary := state.summary.record treatment } rest
    | (state, .error cause) =>
      if config.ignoreMissing then
        let state := state.report .warning cause.message [("file", file.path)]
        let summary := { state.summary with failed := state.summary.failed + 1 }
        treatAll config { state with summary := summary } rest
      else (state, .error cause)

/-! ## Roots -/

/-- Treats the files of a root. -/
def treatRoot (build : Build) (state : BuildState) (root : String) :
    BuildState × Except RunError Unit :=
  let config := build.config
  if state.tree.contains root then
    let skipped := Collection.excludedFolders state.tree build.patterns root
    let files := Collection.files state.tree build.patterns root
    let state := skipped.foldl
      (fun state folder => state.report .debug "folder excluded" [("folder", folder)]) state
    treatAll config state files
  else if config.ignoreMissing then
    (state.report .warning "source root not found, skipped" [("root", root)], .ok ())
  else (state, .error (.file root .missingRoot))

/-- Treats the files of some roots. -/
def treatRoots (build : Build) (state : BuildState) :
    List String → BuildState × Except RunError Unit
  | [] => (state, .ok ())
  | root :: rest =>
    match treatRoot build state root with
    | (state, .ok _) => treatRoots build state rest
    | (state, .error cause) => (state, .error cause)

/-- Removes the destination, if there is one. -/
def clear (config : Config) (state : BuildState) : BuildState × Except RunError Unit :=
  if state.tree.contains config.destination then
    let state := state.progress config "clearing" config.destination
    if config.dryRun then (state, .ok ())
    else
      match state.tree.removeFolder config.destination with
      | .error cause => (state, .error (.file config.destination cause))
      | .ok tree => ({ state with tree := tree }, .ok ())
  else (state, .ok ())

/-- The details of the last report of a run. -/
def summaryDetails (summary : Summary) : List (String × String) :=
  [("processed", toString summary.processed), ("copied", toString summary.copied),
    ("unchanged", toString summary.unchanged), ("excluded", toString summary.excluded),
    ("failed", toString summary.failed)]

/-- Treats the files of all roots. -/
def run (build : Build) (tree : FileTree) : BuildState × Except RunError Summary :=
  let config := build.config
  let state : BuildState := { tree := tree, globals := build.globals, providers := config.providers }
  let cleared := if config.clearDestination then clear config state else (state, .ok ())
  match cleared with
  | (state, .error cause) => (state, .error cause)
  | (state, .ok _) =>
    match treatRoots build state config.sources with
    | (state, .error cause) => (state, .error cause)
    | (state, .ok _) =>
      (state.report .info "run finished" (summaryDetails state.summary), .ok state.summary)

end Build

end CommentDirectives
