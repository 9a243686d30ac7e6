import CommentDirectives.Number.IntegerText

/-!
# Single-precision numbers

Operations on binary32 numbers that the language needs beside the arithmetic of
`Float32`: promotion of integers, the remainder, rounding to an integer, two
comparisons, and reading and writing them as text.  Everything is computed from
the sign, the significand and the exponent in exact integer arithmetic.

The written form has the fewest decimal digits that read back as the number, and
among those the ones nearest to it.  It is positional for zero and for exponents
from -4 to 15, and has an exponent elsewhere.
-/

namespace CommentDirectives.Binary32

set_option autoImplicit false

/-! ## The parts of a number -/

/-- Whether the sign bit is set. -/
def isNegative (number : Float32) : Bool := decide (0x80000000 ≤ number.toBits.toNat)

/-- The value of the leading bit of a significand. -/
def leadingBit : Nat := 0x800000

/-- The eight bits that hold the exponent. -/
def exponentField (number : Float32) : Nat := number.toBits.toNat / leadingBit % 256

/-- The twenty-three bits below the leading one. -/
def fractionField (number : Float32) : Nat := number.toBits.toNat % leadingBit

/-- Whether the number is neither infinite nor undefined. -/
def isFinite (number : Float32) : Bool := exponentField number != 255

/-- The significand of a finite number, as an integer. -/
def significand (number : Float32) : Nat :=
  if exponentField number = 0 then fractionField number else leadingBit + fractionField number

/-- The power of two by which the significand is scaled. -/
def exponent (number : Float32) : Int :=
  if exponentField number = 0 then -149 else (exponentField number : Int) - 150

/-- The binary32 number with the given bits; all undefined numbers are one. -/
def ofBits (bits : Nat) : Float32 := Float32.ofBits (UInt32.ofNat bits)

/-- The low thirty-one bits of the number `significand * 2 ^ exponent`, the significand shifted
left until its leading bit is in place or the exponent is the least one. -/
def magnitudeBits : Nat → Nat → Int → Nat
  | 0, significand, _ => significand
  | shifts + 1, significand, exponent =>
    if leadingBit ≤ significand then (exponent + 149).toNat * leadingBit + significand
    else if exponent ≤ -149 then significand
    else magnitudeBits shifts (significand * 2) (exponent - 1)

/-- The number of given sign with magnitude `significand * 2 ^ exponent`, for a significand
below `2 ^ 24` and an exponent of at least -149 whose product is finite. -/
def ofParts (negative : Bool) (significand : Nat) (exponent : Int) : Float32 :=
  let magnitude := if significand = 0 then 0 else magnitudeBits 25 significand exponent
  ofBits ((if negative then 0x80000000 else 0) + magnitude)

/-! ## Integers -/

/-- The nearest number to an integer; halves go to the even neighbour. -/
def ofInt64 (number : Int64) : Float32 := Float32.ofInt number.toInt

/-- A finite number cut off toward zero. -/
def truncate (number : Float32) : Int :=
  let magnitude :=
    if 0 ≤ exponent number then significand number <<< (exponent number).toNat
    else significand number >>> (-exponent number).toNat
  if isNegative number then -(magnitude : Int) else magnitude

/-- A number rounded to the nearest whole number; halves go away from zero.  The significand of
a number that is not whole has room for the result. -/
def round (number : Float32) : Float32 :=
  if 0 ≤ exponent number then number
  else
    let unit := 1 <<< (-exponent number).toNat
    ofParts (isNegative number) ((significand number + unit / 2) / unit) 0

/-- A whole number as a signed 64-bit integer, if it is one. -/
def int64OfInt? (number : Int) : Option Int64 :=
  if Int64.minValue.toInt ≤ number ∧ number ≤ Int64.maxValue.toInt then some (Int64.ofInt number)
  else none

/-- A number cut off toward zero, if the result is a signed 64-bit integer. -/
def truncate? (number : Float32) : Option Int64 :=
  if isFinite number then int64OfInt? (truncate number) else none

/-! ## Remainder and comparison -/

/-- The remainder of a division cut off toward zero, with the sign of the dividend. -/
def remainder (dividend divisor : Float32) : Float32 :=
  if dividend.isNaN || divisor.isNaN || !isFinite dividend then ofBits 0x7fc00000
  else if significand divisor = 0 then ofBits 0x7fc00000
  else if !isFinite divisor then dividend
  else
    let common := min (exponent dividend) (exponent divisor)
    let scaledDividend := significand dividend <<< (exponent dividend - common).toNat
    let scaledDivisor := significand divisor <<< (exponent divisor - common).toNat
    ofParts (isNegative dividend) (scaledDividend % scaledDivisor) common

/-- The order of two numbers; an undefined number has none. -/
def compare? (left right : Float32) : Option Ordering :=
  if left < right then some .lt
  else if left == right then some .eq
  else if right < left then some .gt
  else none

/-- Equality of set members: an undefined number equals itself. -/
def sameMember (left right : Float32) : Bool :=
  if left.isNaN then right.isNaN else left == right

/-! ## Writing

A decimal grid is the set of multiples of a power of ten.  The digits of a number
are taken from the coarsest grid that has a point which reads back as it. -/

/-- A decimal number `digits * 10 ^ exponent`. -/
structure Decimal where
  digits : Nat
  exponent : Int

/-- The reals that read back as a finite nonzero number: twice the half-widths below and above
its magnitude, scaled like the significand times four, and whether the ends belong to it. -/
structure RoundingInterval where
  lower : Nat
  middle : Nat
  upper : Nat
  exponent : Int
  closed : Bool

/-- The magnitudes that read back as a finite nonzero number.  Below a power of two the
neighbours are closer by half. -/
def roundingInterval (number : Float32) : RoundingInterval :=
  let middle := 4 * significand number
  let below :=
    if fractionField number = 0 ∧ 1 < exponentField number then 1 else 2
  { lower := middle - below
    middle := middle
    upper := middle + 2
    exponent := exponent number - 2
    closed := significand number % 2 == 0 }

/-- A numerator and denominator for `value * 2 ^ two / 10 ^ ten`. -/
def fraction (value : Nat) (two ten : Int) : Nat × Nat :=
  (value <<< two.toNat * Nat.pow 10 (-ten).toNat, Nat.pow 10 ten.toNat <<< (-two).toNat)

/-- Whether the point `digits * 10 ^ ten` lies in an interval. -/
def RoundingInterval.holds (interval : RoundingInterval) (digits : Nat) (ten : Int) : Bool :=
  let (lowerNumerator, denominator) := fraction interval.lower interval.exponent ten
  let (upperNumerator, _) := fraction interval.upper interval.exponent ten
  let point := digits * denominator
  if interval.closed then decide (lowerNumerator ≤ point) && decide (point ≤ upperNumerator)
  else decide (lowerNumerator < point) && decide (point < upperNumerator)

/-- The point of the grid of `10 ^ ten` that reads back as the number, the nearer of two and
the greater of two equally near. -/
def RoundingInterval.pointOn? (interval : RoundingInterval) (ten : Int) : Option Nat :=
  let (numerator, denominator) := fraction interval.middle interval.exponent ten
  let below := numerator / denominator
  match interval.holds below ten, interval.holds (below + 1) ten with
  | true, true =>
    some (if 2 * (numerator - below * denominator) < denominator then below else below + 1)
  | true, false => some below
  | false, true => some (below + 1)
  | false, false => none

/-- Searches the grids from `10 ^ ten` downward. -/
def RoundingInterval.coarsest (interval : RoundingInterval) : Nat → Int → Decimal
  | 0, ten => ⟨0, ten⟩
  | grids + 1, ten =>
    match interval.pointOn? ten with
    | some digits => ⟨digits, ten⟩
    | none => interval.coarsest grids (ten - 1)

/-- The shortest decimal that reads back as a finite nonzero number.  No number of this format
needs a grid coarser than `10 ^ 39` or finer than `10 ^ -55`. -/
def shortest (number : Float32) : Decimal :=
  (roundingInterval number).coarsest 95 39

/-- The digits of a number with a point behind the first `places` of them; zeros fill the
places before and behind, and at least one digit follows the point. -/
def positional (digits : List Char) (places : Int) : List Char :=
  if places ≤ 0 then ['0', '.'] ++ List.replicate (-places).toNat '0' ++ digits
  else
    let whole := digits.take places.toNat
    let part := digits.drop places.toNat
    let zeros := List.replicate (places.toNat - digits.length) '0'
    whole ++ zeros ++ ['.'] ++ (if part.isEmpty then ['0'] else part)

/-- The digits of a number with one before the point, and its exponent.  With `keepPoint` a
single digit is followed by `.0`. -/
def scientific (keepPoint : Bool) (digits : List Char) (exponent : Int) : List Char :=
  let mantissa :=
    match digits with
    | [digit] => if keepPoint then [digit, '.', '0'] else [digit]
    | digit :: rest => digit :: '.' :: rest
    | [] => []
  mantissa ++ ['e'] ++ (toString exponent).toList

/-- The text of a number. -/
def textWith (keepPoint : Bool) (number : Float32) : String :=
  if number.isNaN then "NaN"
  else
    let sign := if isNegative number then ['-'] else []
    let magnitude :=
      if !isFinite number then ['i', 'n', 'f']
      else if significand number = 0 then ['0', '.', '0']
      else
        let decimal := shortest number
        let digits := Nat.toDigits 10 decimal.digits
        let places := decimal.exponent + digits.length
        if -4 < places ∧ places ≤ 16 then positional digits places
        else scientific keepPoint digits (places - 1)
    String.ofList (sign ++ magnitude)

/-- The text of a number inside messages and expressions. -/
def text (number : Float32) : String := textWith false number

/-! ## Reading -/

/-- The number nearest to `digits * 10 ^ exponent`; halves go to the even neighbour. -/
def ofDecimal (digits : Nat) (exponent : Int) : Float32 :=
  if 0 ≤ exponent then Float32.ofScientific digits false exponent.toNat
  else Float32.ofScientific digits true (-exponent).toNat

/-- Reads an exponent: a sign and one or more digits. -/
def exponent? (text : List Char) : Option Int :=
  let (negative, digits) := IntegerText.splitSign text
  (IntegerText.natural? 10 digits).map fun value => if negative then -(value : Int) else value

/-- Reads an unsigned decimal: digits with an optional point on either side of which digits may
be missing, but not on both, and an optional exponent. -/
def magnitude? (text : List Char) : Option Float32 :=
  let whole := text.takeWhile Char.isDigit
  let afterWhole := text.dropWhile Char.isDigit
  let (part, afterPart) :=
    match afterWhole with
    | '.' :: rest => (rest.takeWhile Char.isDigit, rest.dropWhile Char.isDigit)
    | rest => ([], rest)
  match IntegerText.natural? 10 (whole ++ part) with
  | none => none
  | some digits =>
    match afterPart with
    | [] => some (ofDecimal digits (-(part.length : Int)))
    | mark :: rest =>
      if mark = 'e' ∨ mark = 'E' then
        (exponent? rest).map fun exponent => ofDecimal digits (exponent - part.length)
      else none

/-- The number written by a text: an optional sign, then a decimal, an infinity or the
undefined number, these by their names in either case. -/
def ofText? (text : List Char) : Option Float32 :=
  let (negative, body) := IntegerText.splitSign text
  let name := String.ofList (body.map Char.toLower)
  let magnitude :=
    if name = "inf" ∨ name = "infinity" then some (ofBits 0x7f800000)
    else if name = "nan" then some (ofBits 0x7fc00000)
    else magnitude? body
  magnitude.map fun number => if negative then -number else number

end CommentDirectives.Binary32
