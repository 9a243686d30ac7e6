/-!
# Integers written as text

Signed 64-bit integers are read in decimal, where the value has to fit, and in
hexadecimal, where up to 64 bits are taken and the topmost one is the sign.
-/

namespace CommentDirectives.IntegerText

set_option autoImplicit false

/-! ## Digits -/

/-- The value of a digit in a base of at most sixteen. -/
def digitValue? (base : Nat) (character : Char) : Option Nat :=
  let code := character.toNat
  let value :=
    if 48 ≤ code ∧ code ≤ 57 then code - 48
    else if 97 ≤ code ∧ code ≤ 102 then code - 87
    else if 65 ≤ code ∧ code ≤ 70 then code - 55
    else base
  if value < base then some value else none

/-- Reads further digits behind a value already read. -/
def digitsFrom? (base value : Nat) : List Char → Option Nat
  | [] => some value
  | character :: rest =>
    match digitValue? base character with
    | some digit => digitsFrom? base (value * base + digit) rest
    | none => none

/-- The number written by one or more digits. -/
def natural? (base : Nat) : List Char → Option Nat
  | [] => none
  | digits => digitsFrom? base 0 digits

/-! ## Signed 64-bit integers -/

/-- The value of the topmost of 64 bits, the first magnitude that signed integers lack. -/
def topBit : Nat := 0x8000000000000000

/-- The integer with the given magnitude, if 64 bits hold it. -/
def ofMagnitude? (magnitude : Nat) : Option Int64 :=
  if magnitude < topBit then some (Int64.ofNat magnitude) else none

/-- The decimal integer written by one or more digits, if 64 bits hold it. -/
def decimal? (digits : List Char) : Option Int64 :=
  (natural? 10 digits).bind ofMagnitude?

/-- The integer whose 64 bits are written in hexadecimal; a plus sign may stand in front. -/
def hexadecimal? (digits : List Char) : Option Int64 :=
  let magnitude :=
    match digits with
    | '+' :: rest => natural? 16 rest
    | _ => natural? 16 digits
  magnitude.bind fun value => if value < UInt64.size then some (Int64.ofNat value) else none

/-- Splits a sign off a text: whether it is a minus, and what follows. -/
def splitSign : List Char → Bool × List Char
  | '-' :: rest => (true, rest)
  | '+' :: rest => (false, rest)
  | text => (false, text)

/-- The magnitude behind a sign; only a minus admits the magnitude of the least integer. -/
def magnitude? (negative : Bool) : List Char → Option Int64
  | '0' :: 'x' :: digits => hexadecimal? digits
  | '0' :: 'X' :: digits => hexadecimal? digits
  | digits =>
    (natural? 10 digits).bind fun value =>
      if negative && value == topBit then some Int64.minValue else ofMagnitude? value

/-- The integer written by a text: an optional sign, then decimal digits, or `0x` and
hexadecimal ones. -/
def integer? (text : List Char) : Option Int64 :=
  let (negative, body) := splitSign text
  (magnitude? negative body).map fun magnitude => if negative then -magnitude else magnitude

/-- A count as an integer; counts beyond the greatest integer stay there. -/
def ofCount (count : Nat) : Int64 :=
  if count < topBit then Int64.ofNat count else Int64.maxValue

/-- The decimal text of an integer. -/
def text (number : Int64) : String := toString number.toInt

end CommentDirectives.IntegerText
