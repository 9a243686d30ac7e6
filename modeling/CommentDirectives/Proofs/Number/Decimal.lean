import Mathlib.Data.Nat.Digits.Defs
import CommentDirectives.Number.IntegerText

/-!
# Decimal texts of integers

The reading of decimal digits beside their writing.  Digits have the number that the library reads
from them (`natural?_of_digits`), so that the digits which an integer is written with stand for that
very integer (`decimal?_toDigits`).
-/

namespace CommentDirectives.IntegerText

set_option autoImplicit false

/-! ## Digits -/

theorem digitValue?_of_isDigit {character : Char} (digit : character.isDigit = true) :
    digitValue? 10 character = some (character.toNat - '0'.toNat) := by
  have zero : '0'.toNat = 48 := rfl
  have bounds : 48 ≤ character.toNat ∧ character.toNat ≤ 57 := by
    simpa [Char.isDigit, UInt32.le_iff_toNat_le] using digit
  have small : character.toNat - 48 < 10 := by omega
  rw [digitValue?, if_pos bounds, zero]
  exact if_pos small

/-- Further digits have the number that they have behind the value already read. -/
theorem digitsFrom?_of_digits {digits : List Char} (each : ∀ digit ∈ digits, digit.isDigit = true)
    (value : Nat) : digitsFrom? 10 value digits = some (Nat.ofDigitChars 10 digits value) := by
  induction digits generalizing value with
  | nil => rfl
  | cons digit digits ih =>
      have read := digitValue?_of_isDigit (each digit List.mem_cons_self)
      have onward := ih (fun other member => each other (List.mem_cons_of_mem _ member))
        (value * 10 + (digit.toNat - '0'.toNat))
      rw [digitsFrom?, read, Nat.ofDigitChars_cons, Nat.mul_comm 10 value]
      exact onward

/-- **One or more digits are read as their number.** -/
theorem natural?_of_digits {digits : List Char} (each : ∀ digit ∈ digits, digit.isDigit = true)
    (present : digits ≠ []) : natural? 10 digits = some (Nat.ofDigitChars 10 digits 0) := by
  cases digits with
  | nil => exact absurd rfl present
  | cons digit digits => exact digitsFrom?_of_digits each 0

/-- All characters that a number is written with are digits. -/
theorem isDigit_of_mem_toDigits {number : Nat} :
    ∀ digit ∈ Nat.toDigits 10 number, digit.isDigit = true :=
  fun _ member => Nat.isDigit_of_mem_toDigits (by decide) (by decide) member

theorem exists_first_digit (number : Nat) :
    ∃ first tail, Nat.toDigits 10 number = first :: tail ∧ first.isDigit = true := by
  obtain ⟨first, tail, written⟩ := List.exists_cons_of_ne_nil (Nat.toDigits_ne_nil (n := number))
  exact ⟨first, tail, written, isDigit_of_mem_toDigits first (written ▸ List.mem_cons_self)⟩

theorem natural?_toDigits (number : Nat) : natural? 10 (Nat.toDigits 10 number) = some number := by
  rw [natural?_of_digits isDigit_of_mem_toDigits Nat.toDigits_ne_nil,
    Nat.ofDigitChars_toDigits (by decide) (by decide)]

/-! ## Integers that are not negative -/

/-- The text of such an integer consists of the digits of its value. -/
theorem toList_text {number : Int64} (positive : 0 ≤ number) :
    (text number).toList = Nat.toDigits 10 number.toInt.toNat := by
  obtain ⟨magnitude, same⟩ := Int.eq_ofNat_of_zero_le (Int64.le_iff_toInt_le.mp positive)
  have written : toString (magnitude : Int) = toString magnitude := rfl
  rw [text, same, written, Nat.toString_eq_ofList_toDigits, String.toList_ofList,
    Int.toNat_natCast]

/-- **The digits of such an integer are read as the integer.** -/
theorem decimal?_toDigits {number : Int64} (positive : 0 ≤ number) :
    decimal? (Nat.toDigits 10 number.toInt.toNat) = some number := by
  have nonneg : (0 : Int) ≤ number.toInt := Int64.le_iff_toInt_le.mp positive
  have bound := number.toInt_lt
  have fits : number.toInt.toNat < topBit := by
    rw [topBit]
    omega
  have same : Int64.ofNat number.toInt.toNat = number := by
    rw [← Int64.ofInt_eq_ofNat, Int.toNat_of_nonneg nonneg, Int64.ofInt_toInt]
  rw [decimal?, natural?_toDigits, Option.bind_some, ofMagnitude?, if_pos fits, same]

end CommentDirectives.IntegerText
