import CommentDirectives.Directive
import CommentDirectives.Expr.Parser
import CommentDirectives.Name
import CommentDirectives.Text.Blank

/-!
# Arguments of directives

What stands behind a directive's keyword, read according to the shape that the
directive asks for.
-/

namespace CommentDirectives

set_option autoImplicit false

/-- What is wrong with the form of a directive. -/
inductive Malformation where
  | unexpectedText (text : String)
  | missingName
  | invalidName (text : String)
  | missingValue (name : String)
  /-- The directive has to give a value. -/
  | needsAssignment (directive : Directive)
  /-- A file to include is not given by a text. -/
  | needsPath
  deriving DecidableEq, Repr

/-- The wording of a malformation. -/
def Malformation.message : Malformation → String
  | .unexpectedText text => "unexpected text '" ++ text ++ "'"
  | .missingName => "missing variable name"
  | .invalidName text => "'" ++ text ++ "' is not a valid variable name"
  | .missingValue name => "missing value after '" ++ name ++ " ='"
  | .needsAssignment directive => "#" ++ directive.keyword ++ " needs 'name = expression'"
  | .needsPath => "#include needs a string path"

/-- Why an argument cannot be read. -/
inductive ArgumentError where
  | unreadable (failure : ParseError)
  | malformed (cause : Malformation)
  deriving DecidableEq

namespace Directive

/-- The text in front of the first equality sign, and the text behind it. -/
def splitEquality : List Char → Option (List Char × List Char)
  | [] => none
  | character :: rest =>
    if character = '=' then some ([], rest)
    else (splitEquality rest).map fun (before, behind) => (character :: before, behind)

/-- Reads nothing: the tail is blank or a comment. -/
def readNothing (tail : List Char) : Except ArgumentError Unit :=
  match Text.trim tail with
  | [] => .ok ()
  | '/' :: '/' :: _ => .ok ()
  | text => .error (.malformed (.unexpectedText (String.ofList text)))

/-- Reads one expression. -/
def readExpression (tail : List Char) : Except ArgumentError Expr :=
  (Expr.parse (String.ofList (Text.trim tail))).mapError .unreadable

/-- Reads a list of expressions, perhaps an empty one. -/
def readExpressions (tail : List Char) : Except ArgumentError (List Expr) :=
  (Expr.parseList (String.ofList (Text.trim tail))).mapError .unreadable

/-- Reads a text up to the end of the line. -/
def readTail (tail : List Char) : List Char := Text.trimStart tail

/-- Reads the name of a variable. -/
def readName (tail : List Char) : Except ArgumentError String :=
  match Text.trim tail with
  | [] => .error (.malformed .missingName)
  | name =>
    if Name.areValid name then .ok (String.ofList name)
    else .error (.malformed (.invalidName (String.ofList name)))

/-- Reads a name and, behind an equality sign, an expression. -/
def readAssignment (tail : List Char) : Except ArgumentError (String × Option Expr) :=
  match splitEquality (Text.trim tail) with
  | none => (readName tail).map fun name => (name, none)
  | some (before, behind) =>
    match readName before with
    | .error failure => .error failure
    | .ok name =>
      if (Text.trim behind).isEmpty then .error (.malformed (.missingValue name))
      else (readExpression behind).map fun expr => (name, some expr)

/-- An argument of any shape. -/
inductive Argument where
  | nothing
  | expression (expr : Expr)
  | expressions (exprs : List Expr)
  | tail (text : List Char)
  | name (name : String)
  | assignment (name : String) (value : Option Expr)

end Directive

/-- Reads an argument of a given shape. -/
def ArgumentShape.read (shape : ArgumentShape) (tail : List Char) :
    Except ArgumentError Directive.Argument :=
  match shape with
  | .nothing => (Directive.readNothing tail).map fun _ => .nothing
  | .expression => (Directive.readExpression tail).map .expression
  | .expressions => (Directive.readExpressions tail).map .expressions
  | .tail => .ok (.tail (Directive.readTail tail))
  | .variableName => (Directive.readName tail).map .name
  | .assignment =>
    (Directive.readAssignment tail).map fun (name, value) => .assignment name value

end CommentDirectives
