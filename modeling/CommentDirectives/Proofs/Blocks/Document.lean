import CommentDirectives.Proofs.Processing.Steps
import CommentDirectives.Proofs.Session.ConditionalLines
import CommentDirectives.Proofs.Session.Flow

/-!
# Documents made of blocks

A document is a sequence of lines and conditional blocks, and a block has a body
behind its test, alternatives with tests and bodies of their own, perhaps a last
branch, and a closing line.  Every body is a document again, to any depth.  The
types hold what makes the lines fit together: each line that belongs to a block
has the form of its directive, and every other line is one behind which the next
line is read.

The interpretation of a document follows its structure and knows no open blocks:
of a block it reads the tests in order up to the first that holds, interprets the
body behind that test or else the last branch, and accounts for every other line
as skipped.
-/

namespace CommentDirectives

set_option autoImplicit false

/-! ## Lines of documents -/

/-- A line that stands for itself in a document. -/
structure OrdinaryLine (allowBlanks : Bool) where
  line : List Char
  ordinary : (LineForm.ofLine allowBlanks line).isOrdinary = true

/-- A line that opens a block. -/
structure OpeningLine (allowBlanks : Bool) where
  line : List Char
  test : BlockTest
  tail : List Char
  form : LineForm.ofLine allowBlanks line = .directive test.directive.keyword tail

/-- A line that starts a branch with a condition. -/
structure AlternativeLine (allowBlanks : Bool) where
  line : List Char
  tail : List Char
  form : LineForm.ofLine allowBlanks line = .directive Directive.elseIf.keyword tail

/-- A line of a directive that takes nothing behind its keyword. -/
structure BareLine (allowBlanks : Bool) (directive : Directive) where
  line : List Char
  tail : List Char
  form : LineForm.ofLine allowBlanks line = .directive directive.keyword tail
  bare : Directive.BareTail tail

/-! ## Documents -/

mutual
/-- A sequence of lines and blocks. -/
inductive Document (allowBlanks : Bool) where
  | empty
  | line (ordinary : OrdinaryLine allowBlanks) (rest : Document allowBlanks)
  | block (opening : OpeningLine allowBlanks) (body : Document allowBlanks)
      (branches : Branches allowBlanks) (rest : Document allowBlanks)

/-- What follows the body of a block or of an alternative, up to the end of the block. -/
inductive Branches (allowBlanks : Bool) where
  | close (closing : BareLine allowBlanks .close)
  | otherwise (starting : BareLine allowBlanks .otherwise) (body : Document allowBlanks)
      (closing : BareLine allowBlanks .close)
  | elseIf (starting : AlternativeLine allowBlanks) (body : Document allowBlanks)
      (others : Branches allowBlanks)
end

variable {allowBlanks : Bool}

mutual
/-- The lines of a document. -/
def Document.lines : Document allowBlanks → List (List Char)
  | .empty => []
  | .line ordinary rest => ordinary.line :: rest.lines
  | .block opening body branches rest =>
    opening.line :: (body.lines ++ (branches.lines ++ rest.lines))

/-- The lines from behind a body to the end of its block. -/
def Branches.lines : Branches allowBlanks → List (List Char)
  | .close closing => [closing.line]
  | .otherwise starting body closing => starting.line :: (body.lines ++ [closing.line])
  | .elseIf starting body others => starting.line :: (body.lines ++ others.lines)
end

/-! ## Interpretation -/

/-- A session behind some lines, and the failure that ended their reading if one did. -/
abbrev Interpretation := Session × Option RunError

/-- What follows an interpretation unless that failed. -/
def Interpretation.andThen (first : Interpretation) (next : Session → Interpretation) :
    Interpretation :=
  match first with
  | (session, some failure) => (session, some failure)
  | (session, none) => next session

/-- What follows a line unless that fails. -/
def Interpretation.ofOutcome {α : Type} (location : Location) (session : Session)
    (outcome : Except LineError α) (next : α → Interpretation) : Interpretation :=
  match outcome with
  | .error cause => (session, some (.line location cause))
  | .ok value => next value

mutual
/-- What a document does to a session, if so many lines of its file stand in front of it. -/
def Document.interpret (config : Config) (path : String) :
    Nat → Session → Document allowBlanks → Interpretation
  | _, session, .empty => (session, none)
  | number, session, .line ordinary rest =>
    let location := Processing.lineLocation path number ordinary.line
    let (session, outcome) := session.processLine ⟨config, location, 0⟩ ordinary.line
    Interpretation.ofOutcome location session outcome fun _ =>
      rest.interpret config path (number + 1) session
  | number, session, .block opening body branches rest =>
    let location := Processing.lineLocation path number opening.line
    let session := session.skip config
    let behindBody := number + 1 + body.lines.length
    let test := session.readTest ⟨config, location, 0⟩ opening.tail opening.test
    let block := Interpretation.ofOutcome location session test fun
      | true => (body.interpret config path (number + 1) session).andThen fun session =>
        (session.skipLines config branches.lines.length, none)
      | false =>
        branches.interpret config path behindBody (session.skipLines config body.lines.length)
    block.andThen fun session =>
      rest.interpret config path (behindBody + branches.lines.length) session

/-- What the branches behind a body do to a session where no branch was taken so far. -/
def Branches.interpret (config : Config) (path : String) :
    Nat → Session → Branches allowBlanks → Interpretation
  | _, session, .close _ => (session.skip config, none)
  | number, session, .otherwise _ body _ =>
    (body.interpret config path (number + 1) (session.skip config)).andThen fun session =>
      (session.skip config, none)
  | number, session, .elseIf starting body others =>
    let location := Processing.lineLocation path number starting.line
    let session := session.skip config
    let test := session.readCondition ⟨config, location, 0⟩ starting.tail
    Interpretation.ofOutcome location session test fun
      | true => (body.interpret config path (number + 1) session).andThen fun session =>
        (session.skipLines config others.lines.length, none)
      | false =>
        others.interpret config path (number + 1 + body.lines.length)
          (session.skipLines config body.lines.length)
end

/-- How the reading of a file ends that holds nothing but the lines of a document. -/
def Interpretation.ending (interpretation : Interpretation) : Ending :=
  match interpretation.2 with
  | some failure => .failed failure
  | none => .complete

/-- The result of a file that holds the lines of a document. -/
def Document.result (document : Document allowBlanks) (config : Config) (globals : Layer)
    (providers : List Provider) (path source : String) : FileResult :=
  let interpretation :=
    document.interpret config path 0 { globals := globals, providers := providers }
  FileResult.ofEnding config source interpretation.1 interpretation.ending

end CommentDirectives
