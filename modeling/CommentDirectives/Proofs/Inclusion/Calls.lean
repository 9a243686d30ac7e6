import CommentDirectives.Proofs.Processing.Steps
import CommentDirectives.Proofs.Session.Outcome

/-!
# Inclusion as a call

The reading of a source by an interpreter that calls itself where the source
includes a file.  Each source has open blocks of its own, none at its start, and
all of them have to be closed at its end; a directive that leaves a source drops
them.  Behind a call the caller goes on with its next line and with the blocks
that it had opened.  No list of open files and no shared stack of blocks is kept:
the only trace of the callers is the number of levels that calls may still go
down.
-/

namespace CommentDirectives

set_option autoImplicit false

/-- How the reading of a source ends. -/
inductive SourceEnding where
  /-- The caller goes on; so many lines of the source stay unread. -/
  | finished (unread : Nat)
  /-- A directive excludes the file. -/
  | excluded
  | failed (cause : RunError)

/-- A session behind a source, and how the reading of the source ended. -/
abbrev SourceResult := Session × SourceEnding

namespace Inclusion

/-- What a call of a target does, at a line of a source. -/
abbrev Call := Session → Location → String → SourceResult

/-- The lines of a source from one on, each of them read with the blocks of the source alone. -/
def readLines (config : Config) (path : String) (call : Call) :
    Nat → List (List Char) → Session → SourceResult
  | _, [], session =>
    match session.nesting.innermost? with
    | some frame => (session, .failed (.line frame.opened (.unbalanced .unclosed)))
    | none => (session, .finished 0)
  | number, line :: rest, session =>
    let location := Processing.lineLocation path number line
    match session.processLine ⟨config, location, 0⟩ line with
    | (session, .error cause) => (session, .failed (.line location cause))
    | (session, .ok .next) => readLines config path call (number + 1) rest session
    | (session, .ok .leaveFile) => (session, .finished rest.length)
    | (session, .ok .excludeFile) => (session, .excluded)
    | (session, .ok (.include target)) =>
      match call session location target with
      | (returned, .finished _) =>
        readLines config path call (number + 1) rest { returned with nesting := session.nesting }
      | (returned, .excluded) => (returned, .excluded)
      | (returned, .failed cause) => (returned, .failed cause)

/-- A call that goes too deep. -/
def refuse : Call := fun session location _ => (session, .failed (.line location .includeDepth))

/-- The path of a target, joined to the folder of a source if the source has one. -/
def joined (source target : String) : String :=
  match Path.parent? source with
  | some folder => Path.join folder target
  | none => target

/-- A call of the file that a target leads to from the folder of the source, with what is called
in that file. -/
def callFile (config : Config) (tree : FileTree) (deeper : Call) : Call :=
  fun session location target =>
    let path := joined location.file target
    match tree.readText path with
    | .error cause => (session, .failed (.line location (.include path cause)))
    | .ok text =>
      readLines config path deeper 0 (Text.lines text.toList)
        { session with nesting := Nesting.empty }

/-- A call where calls may go so many levels down. -/
def call (config : Config) (tree : FileTree) : (levels : Nat) → Call
  | 0 => refuse
  | levels + 1 => callFile config tree (call config tree levels)

end Inclusion

/-- The result of a file whose inclusions are calls.  Lines of the file itself that stay unread are
accounted for as skipped. -/
def Config.interpretText (config : Config) (tree : FileTree) (globals : Layer)
    (providers : List Provider) (path text : String) : FileResult :=
  let called := Inclusion.readLines config path (Inclusion.call config tree includeLimit) 0
    (Text.lines text.toList) { globals := globals, providers := providers }
  match called with
  | (session, .finished unread) =>
    FileResult.ofEnding config text (session.skipLines config unread) .complete
  | (session, .excluded) => FileResult.ofEnding config text session .excluded
  | (session, .failed cause) => FileResult.ofEnding config text session (.failed cause)

end CommentDirectives
