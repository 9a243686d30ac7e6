import Mathlib
import CommentDirectives.Proofs.Evaluation.Operations

/-!
# Arithmetic on integers

Sums, differences, products and negations of integers are the mathematical ones, reduced modulo
`2 ^ 64` into the signed range (`Value.Reduces`).  A quotient is the mathematical one, truncated
toward zero, with one exception: the least integer divided by minus one would leave the signed range,
and is the least integer again.  A remainder is zero or has the sign of the dividend, and is smaller in
magnitude than the divisor.

Quotient and remainder always give the dividend back (`Value.divide_multiply_add_remainder`).  The
exception is none here, since the quotient, the product and the sum are reduced by the same modulus,
which may then be applied once, at the end.

Only a divisor of zero makes a division fail.  The main statement says all this of expressions,
whatever the expressions are that their operands come from (`Expr.integer_arithmetic_exact`).
-/

namespace CommentDirectives

set_option autoImplicit false

namespace Value

/-! ## Reduction into the signed range -/

/-- An integer is what a whole number is reduced to: it lies in the signed range of 64 bits, and
differs from the number by a multiple of `2 ^ 64`. -/
structure Reduces (exact : Int) (number : Int64) : Prop where
  least : -2 ^ 63 ≤ number.toInt
  below : number.toInt < 2 ^ 63
  multiple : (2 ^ 64 : Int) ∣ number.toInt - exact

/-- The integer that a whole number is reduced to is its balanced remainder, so there is just one. -/
theorem reduces_iff {exact : Int} {number : Int64} :
    Reduces exact number ↔ number.toInt = exact.bmod (2 ^ 64) := by
  rw [eq_comm, Int.bmod_eq_iff (by decide)]
  constructor
  · rintro ⟨least, below, multiple⟩
    exact ⟨least, below, multiple⟩
  · rintro ⟨least, below, multiple⟩
    exact ⟨least, below, multiple⟩

/-! ## Quotients and remainders -/

variable (dividend divisor : Int64)

/-- **Quotient and remainder give the dividend back.** -/
theorem divide_multiply_add_remainder :
    dividend / divisor * divisor + dividend % divisor = dividend := by
  rw [← Int64.toInt_inj]
  calc (dividend / divisor * divisor + dividend % divisor).toInt
    _ = (((dividend.toInt.tdiv divisor.toInt).bmod (2 ^ 64) * divisor.toInt).bmod (2 ^ 64) +
          dividend.toInt.tmod divisor.toInt).bmod (2 ^ 64) := by
        rw [Int64.toInt_add, Int64.toInt_mul, Int64.toInt_div, Int64.toInt_mod]
    _ = (dividend.toInt.tdiv divisor.toInt * divisor.toInt +
          dividend.toInt.tmod divisor.toInt).bmod (2 ^ 64) := by
        rw [Int.bmod_mul_bmod, Int.bmod_add_bmod]
    _ = dividend.toInt := by
        rw [Int.tdiv_mul_add_tmod]
        exact dividend.toInt_bmod

/-- A remainder is zero or has the sign of the dividend. -/
theorem remainder_eq_zero_or_sign :
    dividend % divisor = 0 ∨ (dividend % divisor).toInt.sign = dividend.toInt.sign := by
  rw [← Int64.toInt_inj, Int64.toInt_mod]
  by_cases divides : divisor.toInt ∣ dividend.toInt
  · exact .inl (Int.tmod_eq_zero_of_dvd divides)
  · exact .inr (by rw [Int.sign_tmod, if_neg divides])

variable {divisor} in
/-- A remainder is smaller in magnitude than the divisor. -/
theorem abs_remainder_lt (nonzero : divisor ≠ 0) :
    |(dividend % divisor).toInt| < |divisor.toInt| := by
  have positive : 0 < divisor.toInt.natAbs := by
    rw [Int.natAbs_pos]
    exact fun zero => nonzero (Int64.toInt_inj.mp zero)
  rw [Int64.toInt_mod, Int.abs_eq_natAbs, Int.abs_eq_natAbs, Int.natAbs_tmod, Int.ofNat_lt]
  exact Nat.mod_lt _ positive

/-- A quotient is reduced like the results of the other operations. -/
theorem reduces_quotient :
    Reduces (dividend.toInt.tdiv divisor.toInt) (dividend / divisor) :=
  reduces_iff.mpr (Int64.toInt_div dividend divisor)

variable {dividend divisor} in
/-- A quotient is truncated toward zero, unless it would leave the signed range. -/
theorem toInt_quotient (fits : ¬(dividend = Int64.minValue ∧ divisor = -1)) :
    (dividend / divisor).toInt = dividend.toInt.tdiv divisor.toInt := by
  rcases not_and_or.mp fits with other | other
  · exact Int64.toInt_div_of_ne_left dividend divisor other
  · exact Int64.toInt_div_of_ne_right dividend divisor other

/-! ## Operators on integers -/

variable {divisor} in
/-- Integers are divided unless the divisor is zero. -/
theorem binary_divide (nonzero : divisor ≠ 0) :
    (int dividend).binary .divide (int divisor) = .ok (.int (dividend / divisor)) := by
  simp only [binary, BinaryOperator.tier, arithmetic, integerArithmetic?, if_neg nonzero]

variable {divisor} in
theorem binary_remainder (nonzero : divisor ≠ 0) :
    (int dividend).binary .remainder (int divisor) = .ok (.int (dividend % divisor)) := by
  simp only [binary, BinaryOperator.tier, arithmetic, integerArithmetic?, if_neg nonzero]

end Value

namespace Expr

variable {scope : Scope} {left right : Expr} {first second : Int64}

/-- An operator is carried out on the integers that its operands give. -/
theorem eval_binary_of_integers (operator : BinaryOperator)
    (leftGives : left.eval scope = .ok (.int first))
    (rightGives : right.eval scope = .ok (.int second)) (offset : Nat) :
    (Expr.binary operator left right offset).eval scope =
      (Value.int first).binary operator (.int second) := by
  rw [eval_binary, leftGives, rightGives]
  rfl

/-- **Arithmetic on integers is total and exact.**  Of two expressions that give integers, the
quotient and the remainder have values unless the second integer is zero, when both are divisions by
zero.  Times the divisor and plus the remainder, the quotient is the dividend.  The remainder is zero or
has the sign of the dividend, and is smaller in magnitude than the divisor; the quotient is truncated
toward zero, and reduced only where the least integer is divided by minus one.  Sums, differences,
products and negations are reduced into the signed range. -/
theorem integer_arithmetic_exact (leftGives : left.eval scope = .ok (.int first))
    (rightGives : right.eval scope = .ok (.int second)) (offset : Nat) :
    (second ≠ 0 → ∃ quotient remainder : Int64,
      (Expr.binary .divide left right offset).eval scope = .ok (.int quotient) ∧
      (Expr.binary .remainder left right offset).eval scope = .ok (.int remainder) ∧
      (∀ atQuotient atProduct atRemainder,
        (Expr.binary .add
            (.binary .multiply (.binary .divide left right atQuotient) right atProduct)
            (.binary .remainder left right atRemainder) offset).eval scope = .ok (.int first)) ∧
      (remainder = 0 ∨ remainder.toInt.sign = first.toInt.sign) ∧
      |remainder.toInt| < |second.toInt| ∧
      Value.Reduces (first.toInt.tdiv second.toInt) quotient ∧
      (¬(first = Int64.minValue ∧ second = -1) →
        quotient.toInt = first.toInt.tdiv second.toInt)) ∧
    (second = 0 →
      (Expr.binary .divide left right offset).eval scope = .error .divisionByZero ∧
      (Expr.binary .remainder left right offset).eval scope = .error .divisionByZero) ∧
    (∃ sum, (Expr.binary .add left right offset).eval scope = .ok (.int sum) ∧
      Value.Reduces (first.toInt + second.toInt) sum) ∧
    (∃ difference, (Expr.binary .subtract left right offset).eval scope = .ok (.int difference) ∧
      Value.Reduces (first.toInt - second.toInt) difference) ∧
    (∃ product, (Expr.binary .multiply left right offset).eval scope = .ok (.int product) ∧
      Value.Reduces (first.toInt * second.toInt) product) ∧
    (∃ negation, (Expr.unary .negate left offset).eval scope = .ok (.int negation) ∧
      Value.Reduces (-first.toInt) negation) := by
  have operates (operator : BinaryOperator) (offset : Nat) :=
    eval_binary_of_integers operator leftGives rightGives offset
  refine ⟨fun nonzero => ?division, fun zero => ?byZero, ?sum, ?difference, ?product, ?negation⟩
  case division =>
    have divided (offset : Nat) : (Expr.binary .divide left right offset).eval scope =
        .ok (.int (first / second)) := (operates _ _).trans (Value.binary_divide first nonzero)
    have remained (offset : Nat) : (Expr.binary .remainder left right offset).eval scope =
        .ok (.int (first % second)) := (operates _ _).trans (Value.binary_remainder first nonzero)
    refine ⟨first / second, first % second, divided offset, remained offset, ?_,
      Value.remainder_eq_zero_or_sign first second, Value.abs_remainder_lt first nonzero,
      Value.reduces_quotient first second, Value.toInt_quotient⟩
    intro atQuotient atProduct atRemainder
    have product := eval_binary_of_integers .multiply (divided atQuotient) rightGives atProduct
    rw [eval_binary_of_integers .add product (remained atRemainder) offset]
    exact congrArg (fun number => Except.ok (Value.int number))
      (Value.divide_multiply_add_remainder first second)
  case byZero =>
    rw [operates, operates, zero]
    exact ⟨rfl, rfl⟩
  case sum => exact ⟨_, operates .add offset, Value.reduces_iff.mpr (Int64.toInt_add _ _)⟩
  case difference =>
    exact ⟨_, operates .subtract offset, Value.reduces_iff.mpr (Int64.toInt_sub _ _)⟩
  case product => exact ⟨_, operates .multiply offset, Value.reduces_iff.mpr (Int64.toInt_mul _ _)⟩
  case negation =>
    refine ⟨-first, ?_, Value.reduces_iff.mpr (Int64.toInt_neg first)⟩
    rw [eval_unary, leftGives]
    rfl

/-- The least integer, which cannot be written as a literal. -/
def leastInteger : Expr :=
  .binary .subtract (.unary .negate (.literal (.int Int64.maxValue) 1) 0) (.literal (.int 1) 23) 21

/-- Minus one. -/
def minusOne : Expr := .unary .negate (.literal (.int 1) 1) 0

/-- The one quotient that leaves the signed range gives the dividend back as well. -/
theorem integer_arithmetic_exact_least :
    leastInteger.eval {} = .ok (.int Int64.minValue) ∧ minusOne.eval {} = .ok (.int (-1)) ∧
      (-1 : Int64) ≠ 0 ∧
      (Expr.binary .add
          (.binary .multiply (.binary .divide leastInteger minusOne 0) minusOne 0)
          (.binary .remainder leastInteger minusOne 0) 0).eval {} = .ok (.int Int64.minValue) := by
  have leastGives : leastInteger.eval {} = .ok (.int Int64.minValue) := by cbv
  have minusGives : minusOne.eval {} = .ok (.int (-1)) := by cbv
  have nonzero : (-1 : Int64) ≠ 0 := by decide
  obtain ⟨_, _, _, _, recombined, _⟩ := (integer_arithmetic_exact leastGives minusGives 0).1 nonzero
  exact ⟨leastGives, minusGives, nonzero, recombined 0 0 0⟩

end Expr

end CommentDirectives
