import CommentDirectives.Text.AsciiCase

/-!
# Builtin functions

The table of functions that expressions may call: their names, how many arguments
they take, and what they do.  A name is found without regard to ASCII case, and
the table's own spelling is the one that expressions and messages keep.
-/

namespace CommentDirectives

set_option autoImplicit false

/-- How many arguments a function takes. -/
inductive Arity where
  | exactly (count : Nat)
  | any
  deriving DecidableEq, Repr

namespace Arity

/-- Whether a function with this arity takes so many arguments. -/
def accepts : Arity → Nat → Bool
  | .exactly count, found => found == count
  | .any, _ => true

/-- The arity as messages and the reference show it. -/
def text : Arity → String
  | .exactly count => toString count
  | .any => "any number of"

end Arity

/-- A builtin function. -/
inductive Builtin where
  | abs
  | round
  | str2int
  | str2float
  | str2bool
  | tostr
  | strlen
  | issubstr
  | str2java
  | set
  | size
  | contains
  | union
  | intersect
  | diff
  deriving DecidableEq, Repr

namespace Builtin

/-- All functions, in the order of the table. -/
def all : List Builtin :=
  [.abs, .round, .str2int, .str2float, .str2bool, .tostr, .strlen, .issubstr, .str2java, .set,
    .size, .contains, .union, .intersect, .diff]

/-- The name under which the table lists a function. -/
def name : Builtin → String
  | .abs => "abs"
  | .round => "round"
  | .str2int => "str2int"
  | .str2float => "str2float"
  | .str2bool => "str2bool"
  | .tostr => "tostr"
  | .strlen => "strlen"
  | .issubstr => "issubstr"
  | .str2java => "str2java"
  | .set => "set"
  | .size => "size"
  | .contains => "contains"
  | .union => "union"
  | .intersect => "intersect"
  | .diff => "diff"

/-- How many arguments a function takes. -/
def arity : Builtin → Arity
  | .issubstr | .contains | .union | .intersect | .diff => .exactly 2
  | .set => .any
  | _ => .exactly 1

/-- What a function does. -/
def description : Builtin → String
  | .abs => "absolute value of an int or float"
  | .round => "float rounded half away from zero to int"
  | .str2int => "decimal or hex string parsed as int"
  | .str2float => "string parsed as float"
  | .str2bool => "\"true\" or \"false\" parsed as bool"
  | .tostr => "any value rendered as a string"
  | .strlen => "character count of a string"
  | .issubstr => "case-insensitive test that the first string occurs in the second"
  | .str2java => "string escaped as a Java string literal body"
  | .set => "set of the distinct arguments"
  | .size => "member count of a set"
  | .contains => "set membership"
  | .union => "members of either set"
  | .intersect => "members of the first set also in the second"
  | .diff => "members of the first set not in the second"

/-- The function that a name calls, ASCII case not counted. -/
def named? (name : String) : Option Builtin :=
  all.find? fun builtin => Text.sameAsciiCase builtin.name.toList name.toList

end Builtin

end CommentDirectives
