import CommentDirectives.Number.Binary32

/-!
# Values

The values of the expression language: integers of 64 bits, binary32 numbers,
texts, truth values and sets.  A set keeps its members in the order in which they
came, and holds no two that are equal.

Two members of a set are equal when they have the same kind and the same value,
where sets are compared without regard to order, an undefined number equals
itself and the two zeros are one.  This differs from the `==` of the language,
which promotes integers and follows the arithmetic of binary32.
-/

namespace CommentDirectives

set_option autoImplicit false

/-- The kinds of values. -/
inductive Kind where
  | int
  | float
  | string
  | bool
  | set
  deriving DecidableEq, Repr

/-- The name of a kind in messages. -/
def Kind.name : Kind → String
  | .int => "int"
  | .float => "float"
  | .string => "string"
  | .bool => "bool"
  | .set => "set"

/-- A value of the expression language. -/
inductive Value where
  | int (number : Int64)
  | float (number : Float32)
  | string (text : String)
  | bool (truth : Bool)
  | set (members : List Value)

namespace Value

instance : Inhabited Value := ⟨.bool false⟩

/-- The kind of a value. -/
def kind : Value → Kind
  | .int _ => .int
  | .float _ => .float
  | .string _ => .string
  | .bool _ => .bool
  | .set _ => .set

/-! ## Equality of members -/

/-- Whether two values are equal as members of a set.  Sets are equal if they have as many members,
and each on the left is found on the right, where the members that are there are compared with it. -/
def sameMember : Value → Value → Bool
  | .int left, .int right => left == right
  | .float left, .float right => Binary32.sameMember left right
  | .string left, .string right => left == right
  | .bool left, .bool right => left == right
  | .set left, .set right =>
    left.length == right.length &&
      left.attach.all fun member => right.attach.any fun other => sameMember other.1 member.1
  | _, _ => false
termination_by left right => sizeOf left + sizeOf right
decreasing_by
  have inLeft := List.sizeOf_lt_of_mem member.2
  have inRight := List.sizeOf_lt_of_mem other.2
  simp only [Value.set.sizeOf_spec]
  omega

/-- Whether some members hold an equal of a value. -/
def occursIn (value : Value) (members : List Value) : Bool :=
  members.any fun member => sameMember member value

/-- Whether two member lists make the same set: as many members on either side, and each on the
left has an equal on the right. -/
def sameMembers (left right : List Value) : Bool :=
  left.length == right.length && left.all fun member => member.occursIn right

/-- As members, sets are compared like elsewhere. -/
theorem sameMember_set (left right : List Value) :
    (Value.set left).sameMember (.set right) = sameMembers left right := by
  simp only [sameMember, sameMembers, occursIn, List.all_subtype, List.any_subtype,
    List.unattach_attach]

/-! ## Sets -/

/-- Appends to a member list the values that have no equal in front of them. -/
def distinctAfter (members : List Value) : List Value → List Value
  | [] => members
  | value :: rest =>
    if value.occursIn members then distinctAfter members rest
    else distinctAfter (members ++ [value]) rest

/-- The values without those that have an equal in front of them. -/
def distinct (values : List Value) : List Value := distinctAfter [] values

/-- The set of some values. -/
def setOf (values : List Value) : Value := .set (distinct values)

/-- The members of the first set, then those of the second that are not in the first. -/
def union (left right : List Value) : List Value := distinct (left ++ right)

/-- The members of the first set that are in the second. -/
def intersection (left right : List Value) : List Value :=
  left.filter fun member => member.occursIn right

/-- The members of the first set that are not in the second. -/
def difference (left right : List Value) : List Value :=
  left.filter fun member => !member.occursIn right

end Value

end CommentDirectives
