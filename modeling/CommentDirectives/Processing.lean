import CommentDirectives.Session.Lines

/-!
# Reading files that include each other

The files that are open form a chain, each included by the next, and the lines of
the innermost one are read first.  One step reads a line or leaves a file that has
come to its end.  The blocks that a file opens are its own: it has to close them,
and it cannot close others.
-/

namespace CommentDirectives

set_option autoImplicit false

/-- A file that is being read. -/
structure OpenFile where
  path : String
  /-- The number of lines that were read. -/
  number : Nat
  /-- The lines that were not read yet. -/
  rest : List (List Char)
  /-- The number of blocks that were open where the file starts. -/
  baseDepth : Nat

/-- A file at its start. -/
def OpenFile.ofText (path text : String) (baseDepth : Nat) : OpenFile :=
  ⟨path, 0, Text.lines text.toList, baseDepth⟩

/-- The files that are open, the innermost first, and the state that they share. -/
structure Processing where
  files : List OpenFile
  session : Session

/-- How the reading of files ends. -/
inductive Ending where
  /-- All lines were read. -/
  | complete
  /-- A directive excludes the file. -/
  | excluded
  | failed (cause : RunError)
  deriving DecidableEq

/-- What a step leads to. -/
inductive Step where
  | proceed (next : Processing)
  | stop (last : Processing) (ending : Ending)

namespace Processing

/-- Leaves the innermost file at its end, where all of its blocks have to be closed. -/
def endFile (session : Session) (file : OpenFile) (outer : List OpenFile) : Step :=
  match session.nesting.innermost? with
  | some frame =>
    if file.baseDepth < session.nesting.depth then
      .stop ⟨outer, session⟩ (.failed (.line frame.opened (.unbalanced .unclosed)))
    else .proceed ⟨outer, session⟩
  | none => .proceed ⟨outer, session⟩

/-- Leaves the innermost file before its end and drops the blocks that it opened.  Lines of the
outermost file that stay unread are accounted for as skipped. -/
def leaveFile (config : Config) (session : Session) (file : OpenFile) (outer : List OpenFile) :
    Processing :=
  let session := { session with nesting := session.nesting.truncate file.baseDepth }
  let unread := if outer.isEmpty then file.rest.length else 0
  ⟨outer, unread.repeat (fun session => session.skip config) session⟩

/-- The path of a file that is included by another. -/
def includedPath (including target : String) : String :=
  match Path.parent? including with
  | none => target
  | some folder => Path.join folder target

/-- Opens a file that is included at a line of the innermost file. -/
def includeFile (tree : FileTree) (session : Session) (location : Location)
    (files : List OpenFile) (target : String) : Step :=
  if includeLimit < files.length then
    .stop ⟨files, session⟩ (.failed (.line location .includeDepth))
  else
    let path := includedPath location.file target
    match tree.readText path with
    | .error cause => .stop ⟨files, session⟩ (.failed (.line location (.include path cause)))
    | .ok text =>
      let session := session.report .debug "include"
        [("file", path), ("depth", toString files.length)]
      .proceed ⟨OpenFile.ofText path text session.nesting.depth :: files, session⟩

/-- Reads the next line of the innermost file. -/
def readLine (config : Config) (tree : FileTree) (session : Session) (file : OpenFile)
    (outer : List OpenFile) (line : List Char) (rest : List (List Char)) : Step :=
  let file := { file with number := file.number + 1, rest := rest }
  let location : Location := ⟨file.path, file.number, String.ofList line⟩
  match session.processLine ⟨config, location, file.baseDepth⟩ line with
  | (session, .error cause) => .stop ⟨file :: outer, session⟩ (.failed (.line location cause))
  | (session, .ok .next) => .proceed ⟨file :: outer, session⟩
  | (session, .ok .leaveFile) => .proceed (leaveFile config session file outer)
  | (session, .ok .excludeFile) =>
    .stop ⟨file :: outer, session.report .debug "file excluded" [("file", file.path)]⟩ .excluded
  | (session, .ok (.include target)) =>
    includeFile tree session location (file :: outer) target

/-- Reads a line or leaves a file. -/
def advance (config : Config) (tree : FileTree) (processing : Processing) : Step :=
  match processing.files with
  | [] => .stop processing .complete
  | file :: outer =>
    match file.rest with
    | [] => endFile processing.session file outer
    | line :: rest => readLine config tree processing.session file outer line rest

end Processing

end CommentDirectives
