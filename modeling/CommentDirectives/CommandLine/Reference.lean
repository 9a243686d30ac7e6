import CommentDirectives.Builtin
import CommentDirectives.Directive
import CommentDirectives.Operator

/-!
# The reference

The listing of all directives, operators and functions, in columns, as the command
line prints it.
-/

namespace CommentDirectives

set_option autoImplicit false

/-- The name of a shape in the reference. -/
def ArgumentShape.listed : ArgumentShape → String
  | .nothing => "None"
  | .expression => "Expression"
  | .expressions => "MultiExpression"
  | .tail => "TailText"
  | .variableName => "VariableName"
  | .assignment => "Assignment"

/-- The name of a tier in the reference. -/
def Tier.listed : Tier → String
  | .logical => "Logical"
  | .equality => "Equality"
  | .relational => "Relational"
  | .additive => "Additive"
  | .multiplicative => "Multiplicative"
  | .unary => "Unary"

namespace Reference

/-- A text filled up with blanks to a width. -/
def column (width : Nat) (text : String) : String :=
  text ++ String.ofList (List.replicate (width - text.length) ' ')

/-- The line of a directive. -/
def directiveLine (directive : Directive) : String :=
  "  //#" ++ column 10 directive.keyword ++ " " ++ column 16 directive.shape.listed ++ " " ++
    directive.description

/-- The line of an operator. -/
def operatorLine (entry : OperatorEntry) : String :=
  "  " ++ column 3 entry.symbol ++ " " ++ column 16 entry.tier.listed ++ " " ++ entry.description

/-- The line of a function. -/
def builtinLine (builtin : Builtin) : String :=
  "  " ++ column 10 builtin.name ++ " " ++ column 14 (builtin.arity.text ++ " arg(s)") ++ " " ++
    builtin.description

/-- The lines of the reference. -/
def lines : List String :=
  ["Directives:"] ++ Directive.all.map directiveLine ++
    ["", "Operators:"] ++ operatorReference.map operatorLine ++
    ["", "Functions:"] ++ Builtin.all.map builtinLine

end Reference

end CommentDirectives
