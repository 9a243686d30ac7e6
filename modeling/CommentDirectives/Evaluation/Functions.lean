import CommentDirectives.Evaluation.Error
import CommentDirectives.Text.Blank
import CommentDirectives.Text.JavaEscape
import CommentDirectives.Text.Lowercase
import CommentDirectives.Value.Recognition
import CommentDirectives.Value.Text

/-!
# Builtin functions on values

What each function of the table answers for its arguments.  A function that finds
arguments of other kinds than it takes names their kinds; one that finds the right
kinds but no answer says what is wrong with the argument.
-/

namespace CommentDirectives.Builtin

set_option autoImplicit false

/-- Whether a list of characters occurs inside another. -/
def occurs (needle : List Char) : List Char → Bool
  | [] => needle.isEmpty
  | character :: rest => needle.isPrefixOf (character :: rest) || occurs needle rest

/-- The failure of a conversion from a text. -/
def notConvertible (builtin : Builtin) (text expected : String) : EvaluationError :=
  .invalidArgument builtin.name ("'" ++ text ++ "' is not " ++ expected)

/-- The answer of a conversion from a text. -/
def converted (builtin : Builtin) (text expected : String) (answer : Option Value) :
    Except EvaluationError Value :=
  match answer with
  | some value => .ok value
  | none => .error (notConvertible builtin text expected)

/-- A number cut off toward zero, where an integer holds it; `function` is the name that the
failure gives. -/
def wholeNumber (function : String) (number : Float32) : Except EvaluationError Int64 :=
  match Binary32.truncate? number with
  | some whole => .ok whole
  | none =>
    .error (.invalidArgument function (Binary32.text number ++ " does not fit in an integer"))

/-- The answer of a function for some arguments. -/
def apply (builtin : Builtin) (arguments : List Value) : Except EvaluationError Value :=
  match builtin, arguments with
  | .abs, [.int number] => .ok (.int number.abs)
  | .abs, [.float number] => .ok (.float number.abs)
  | .round, [.int number] => .ok (.int number)
  | .round, [.float number] =>
    (wholeNumber Builtin.round.name (Binary32.round number)).map Value.int
  | .str2int, [.int number] => .ok (.int number)
  | .str2int, [.string text] =>
    converted .str2int text "an integer"
      ((IntegerText.integer? (Text.trim text.toList)).map Value.int)
  | .str2float, [.float number] => .ok (.float number)
  | .str2float, [.int number] => .ok (.float (Binary32.ofInt64 number))
  | .str2float, [.string text] =>
    converted .str2float text "a float"
      ((Binary32.ofText? (Text.trim text.toList)).map Value.float)
  | .str2bool, [.bool truth] => .ok (.bool truth)
  | .str2bool, [.string text] =>
    converted .str2bool text "a boolean" ((Value.truthOfText? text.toList).map Value.bool)
  | .tostr, [value] => .ok (.string value.text)
  | .strlen, [.string text] => .ok (.int (IntegerText.ofCount text.length))
  | .issubstr, [.string needle, .string text] =>
    .ok (.bool (occurs (Text.lowercase needle).toList (Text.lowercase text).toList))
  | .str2java, [.string text] => .ok (.string (String.ofList (Text.javaEscape text.toList)))
  | .set, values => .ok (Value.setOf values)
  | .size, [.set members] => .ok (.int (IntegerText.ofCount members.length))
  | .contains, [.set members, value] => .ok (.bool (value.occursIn members))
  | .union, [.set left, .set right] => .ok (.set (Value.union left right))
  | .intersect, [.set left, .set right] => .ok (.set (Value.intersection left right))
  | .diff, [.set left, .set right] => .ok (.set (Value.difference left right))
  | builtin, found => .error (.argumentKinds builtin.name (found.map Value.kind))

/-- Calls the function with a given name: it has to be in the table and to take so many
arguments. -/
def call (name : String) (arguments : List Value) : Except EvaluationError Value :=
  match named? name with
  | none => .error (.unknownFunction name)
  | some builtin =>
    if builtin.arity.accepts arguments.length then builtin.apply arguments
    else .error (.argumentCount builtin.name builtin.arity arguments.length)

end CommentDirectives.Builtin
