import Mathlib
import CommentDirectives.Proofs.Number.Decimal

/-!
# The notation of integers

An integer is written as decimal digits, or as hexadecimal digits behind `0x` or `0X`, and a sign may
stand in front (`IntegerText.Spells`).  Decimal digits have to stay within the 64-bit integers with
their sign; hexadecimal ones give up to 64 bits, and a minus turns them around in the arithmetic of
such integers.

Reading accepts this notation, and one more: a plus may stand between the mark of a hexadecimal
integer and its digits (`IntegerText.integer?_eq_some_iff`).
-/

namespace CommentDirectives.IntegerText

set_option autoImplicit false

/-! ## Digits and what they denote -/

/-- The digits of bases up to sixteen in the order of their weights, with small letters. -/
def lowerDigits : List Char :=
  ['0', '1', '2', '3', '4', '5', '6', '7', '8', '9', 'a', 'b', 'c', 'd', 'e', 'f']

/-- The same digits with capital letters. -/
def upperDigits : List Char :=
  ['0', '1', '2', '3', '4', '5', '6', '7', '8', '9', 'A', 'B', 'C', 'D', 'E', 'F']

/-- The weight of a digit; what is no digit weighs sixteen. -/
def weight (character : Char) : Nat :=
  min (lowerDigits.idxOf character) (upperDigits.idxOf character)

/-- One or more digits of a base, and the number that they denote by their places. -/
structure Denotes (base : Nat) (digits : List Char) (value : Nat) : Prop where
  present : digits ≠ []
  each : ∀ digit ∈ digits, weight digit < base
  value : value = Nat.ofDigits base (digits.map weight).reverse

/-- The characters with the codes of digits are digits. -/
theorem mem_digits_of_code {character : Char}
    (code : 48 ≤ character.toNat ∧ character.toNat ≤ 57 ∨
      97 ≤ character.toNat ∧ character.toNat ≤ 102 ∨
      65 ≤ character.toNat ∧ character.toNat ≤ 70) :
    character ∈ lowerDigits ++ upperDigits := by
  have each : ∀ code ∈ List.range 128, (48 ≤ code ∧ code ≤ 57 ∨ 97 ≤ code ∧ code ≤ 102 ∨
      65 ≤ code ∧ code ≤ 70) → Char.ofNat code ∈ lowerDigits ++ upperDigits := by decide +kernel
  have here := each character.toNat (List.mem_range.mpr (by omega)) code
  rwa [Char.ofNat_toNat] at here

theorem weight_of_not_mem {character : Char} (other : character ∉ lowerDigits ++ upperDigits) :
    weight character = 16 := by
  rw [List.mem_append, not_or] at other
  rw [weight, List.idxOf_of_notMem other.1, List.idxOf_of_notMem other.2]
  rfl

/-- A character is read as a digit of a base just if it weighs less than the base. -/
theorem digitValue?_eq {base : Nat} (small : base ≤ 16) (character : Char) :
    digitValue? base character =
      if weight character < base then some (weight character) else none := by
  by_cases digit : character ∈ lowerDigits ++ upperDigits
  · have each : (lowerDigits ++ upperDigits).all
        (fun digit => digitValue? 16 digit == some (weight digit)) = true := rfl
    have read := eq_of_beq (List.all_eq_true.mp each character digit)
    unfold digitValue? at read ⊢
    grind
  · have coded := mt mem_digits_of_code digit
    have heavy := weight_of_not_mem digit
    unfold digitValue?
    grind

/-- The digits that weigh less than ten are the decimal ones. -/
theorem weight_lt_ten_iff {character : Char} :
    weight character < 10 ↔ character.isDigit = true := by
  constructor
  · intro light
    have each : (lowerDigits ++ upperDigits).all
        (fun digit => decide (weight digit < 10) == digit.isDigit) = true := rfl
    have member : character ∈ lowerDigits ++ upperDigits := by
      by_contra other
      rw [weight_of_not_mem other] at light
      cases Nat.lt_asymm light (by decide)
    rw [← eq_of_beq (List.all_eq_true.mp each character member)]
    exact decide_eq_true light
  · intro digit
    have read := digitValue?_of_isDigit digit
    rw [digitValue?_eq (by decide)] at read
    by_contra heavy
    rw [if_neg heavy] at read
    cases read

/-- Further digits move the number in front of them to the left. -/
theorem digitsFrom?_eq_some_iff {base : Nat} (small : base ≤ 16) {digits : List Char}
    {front value : Nat} :
    digitsFrom? base front digits = some value ↔
      (∀ digit ∈ digits, weight digit < base) ∧
        value = Nat.ofDigits base (digits.map weight).reverse + base ^ digits.length * front := by
  induction digits generalizing front with
  | nil => simp [digitsFrom?, eq_comm]
  | cons digit digits ih =>
      rw [digitsFrom?, digitValue?_eq small]
      by_cases light : weight digit < base
      · have places : Nat.ofDigits base ((digit :: digits).map weight).reverse +
              base ^ (digit :: digits).length * front =
            Nat.ofDigits base (digits.map weight).reverse +
              base ^ digits.length * (front * base + weight digit) := by
          rw [List.map_cons, List.reverse_cons, Nat.ofDigits_append, Nat.ofDigits_singleton,
            List.length_reverse, List.length_map, List.length_cons]
          ring
        rw [if_pos light, places, List.forall_mem_cons]
        simp only [ih, light, true_and]
      · rw [if_neg light, List.forall_mem_cons]
        simp only [light, false_and, reduceCtorEq]

/-- **One or more digits are read as the number that they denote.** -/
theorem natural?_eq_some_iff {base : Nat} (small : base ≤ 16) {digits : List Char} {value : Nat} :
    natural? base digits = some value ↔ Denotes base digits value := by
  cases digits with
  | nil => exact ⟨nofun, fun denotes => absurd rfl denotes.present⟩
  | cons digit digits =>
      have read : natural? base (digit :: digits) = digitsFrom? base 0 (digit :: digits) := rfl
      rw [read, digitsFrom?_eq_some_iff small, Nat.mul_zero, Nat.add_zero]
      exact ⟨fun ⟨each, value⟩ => ⟨List.cons_ne_nil _ _, each, value⟩,
        fun denotes => ⟨denotes.each, denotes.value⟩⟩

/-! ## Integers -/

/-- A sign, or none. -/
def IsSign (sign : List Char) : Prop := sign ∈ [[], ['+'], ['-']]

instance (sign : List Char) : Decidable (IsSign sign) :=
  inferInstanceAs (Decidable (sign ∈ [[], ['+'], ['-']]))

/-- A text with no sign in front. -/
def Unsigned (text : List Char) : Prop := text.head? ≠ some '+' ∧ text.head? ≠ some '-'

instance (text : List Char) : Decidable (Unsigned text) :=
  inferInstanceAs (Decidable (text.head? ≠ some '+' ∧ text.head? ≠ some '-'))

/-- A number with a sign in front. -/
def signed (sign : List Char) (value : Nat) : Int :=
  if sign = ['-'] then -value else value

/-- Decimal digits behind a sign, if there is one; with the sign they denote an integer of 64 bits. -/
inductive SpellsDecimal : List Char → Int64 → Prop where
  | intro {sign digits : List Char} {value : Nat} : IsSign sign → Denotes 10 digits value →
      -2 ^ 63 ≤ signed sign value → signed sign value < 2 ^ 63 →
      SpellsDecimal (sign ++ digits) (Int64.ofInt (signed sign value))

/-- Hexadecimal digits behind `0x` or `0X` and a sign, if there is one; they denote up to 64 bits,
which a minus turns around.  Some text stands between the mark and the digits. -/
inductive SpellsHexadecimal (between : List Char) : List Char → Int64 → Prop where
  | intro {sign digits : List Char} {mark : Char} {value : Nat} : IsSign sign →
      (mark = 'x' ∨ mark = 'X') → Denotes 16 digits value → value < 2 ^ 64 →
      SpellsHexadecimal between (sign ++ '0' :: mark :: (between ++ digits))
        (Int64.ofInt (signed sign value))

/-- The notation of integers. -/
def Spells (text : List Char) (number : Int64) : Prop :=
  SpellsDecimal text number ∨ SpellsHexadecimal [] text number

variable {sign body text digits between : List Char} {value : Nat} {number : Int64}

/-- The text holds what stands between the mark and the digits. -/
theorem SpellsHexadecimal.between_subset (spells : SpellsHexadecimal between text number) :
    between ⊆ text := by
  cases spells
  intro character member
  simp [member]

/-- A minus in front of a number turns around the integer of 64 bits. -/
theorem ofInt_signed (sign : List Char) (value : Nat) :
    Int64.ofInt (signed sign value) =
      if sign = ['-'] then -Int64.ofInt value else Int64.ofInt value := by
  unfold signed
  split
  · exact Int64.ofInt_neg _
  · rfl

/-! ## Reading the notation -/

/-- Behind a sign that is there or not, another one is not taken for a sign. -/
theorem splitSign_append (isSign : IsSign sign) (unsigned : Unsigned body) :
    splitSign (sign ++ body) = (decide (sign = ['-']), body) := by
  simp only [IsSign, List.mem_cons, List.not_mem_nil, or_false] at isSign
  rcases isSign with rfl | rfl | rfl
  · cases body with
    | nil => rfl
    | cons first rest =>
        rw [List.nil_append]
        unfold splitSign
        split
        · next same => exact absurd (congrArg List.head? same) unsigned.2
        · next same => exact absurd (congrArg List.head? same) unsigned.1
        · rfl
  · rfl
  · rfl

/-- Every text is a sign, if there is one, and what follows. -/
theorem exists_sign (text : List Char) :
    ∃ sign body, IsSign sign ∧ text = sign ++ body ∧
      splitSign text = (decide (sign = ['-']), body) := by
  unfold splitSign
  split
  · next rest => exact ⟨['-'], rest, by decide, rfl, rfl⟩
  · next rest => exact ⟨['+'], rest, by decide, rfl, rfl⟩
  · exact ⟨[], text, by decide, rfl, rfl⟩

/-- Digits are no signs. -/
theorem Denotes.unsigned {base : Nat} (small : base ≤ 16) (denotes : Denotes base digits value) :
    Unsigned digits := by
  have heavy : weight '+' = 16 ∧ weight '-' = 16 := by decide
  constructor <;> intro starts
  · have light := denotes.each '+' (List.mem_of_mem_head? starts)
    omega
  · have light := denotes.each '-' (List.mem_of_mem_head? starts)
    omega

/-- The 64 bits of hexadecimal digits are read, also behind a plus. -/
theorem hexadecimal?_eq_some_iff :
    hexadecimal? text = some number ↔
      ∃ between digits value, (between = [] ∨ between = ['+']) ∧ text = between ++ digits ∧
        Denotes 16 digits value ∧ value < 2 ^ 64 ∧ number = Int64.ofInt value := by
  have bits (value : Nat) :
      (if value < UInt64.size then some (Int64.ofNat value) else none) = some number ↔
        value < 2 ^ 64 ∧ number = Int64.ofInt value := by
    have size : UInt64.size = 2 ^ 64 := rfl
    rw [size, Int64.ofInt_eq_ofNat]
    split
    · next fits => rw [Option.some_inj, eq_comm, and_iff_right fits]
    · next large => simp only [large, false_and, reduceCtorEq]
  have behind (between digits : List Char)
      (read : hexadecimal? (between ++ digits) = (natural? 16 digits).bind fun value =>
        if value < UInt64.size then some (Int64.ofNat value) else none) :
      hexadecimal? (between ++ digits) = some number ↔
        ∃ value, Denotes 16 digits value ∧ value < 2 ^ 64 ∧ number = Int64.ofInt value := by
    rw [read, Option.bind_eq_some_iff]
    simp only [natural?_eq_some_iff (Nat.le_refl 16), bits]
  constructor
  · intro read
    by_cases plus : ∃ rest, text = '+' :: rest
    · obtain ⟨rest, rfl⟩ := plus
      obtain ⟨value, denotes⟩ := (behind ['+'] rest rfl).mp read
      exact ⟨['+'], rest, value, .inr rfl, rfl, denotes⟩
    · have plain : hexadecimal? text = (natural? 16 text).bind fun value =>
          if value < UInt64.size then some (Int64.ofNat value) else none := by
        unfold hexadecimal?
        split
        · next rest => exact absurd ⟨rest, rfl⟩ plus
        · rfl
      obtain ⟨value, denotes⟩ := (behind [] text plain).mp read
      exact ⟨[], text, value, .inl rfl, rfl, denotes⟩
  · rintro ⟨between, digits, value, plus, rfl, denotes, rest⟩
    rcases plus with rfl | rfl
    · refine (behind [] digits ?_).mpr ⟨value, denotes, rest⟩
      rw [List.nil_append]
      unfold hexadecimal?
      split
      · exact absurd rfl (denotes.unsigned (Nat.le_refl 16)).1
      · rfl
    · exact (behind ['+'] digits rfl).mpr ⟨value, denotes, rest⟩

/-- What is read behind a sign is read by the mark of hexadecimal integers, or as decimal digits. -/
theorem magnitude?_cases (negative : Bool) (body : List Char) :
    (∃ mark digits, (mark = 'x' ∨ mark = 'X') ∧ body = '0' :: mark :: digits ∧
        magnitude? negative body = hexadecimal? digits) ∨
      (∀ mark digits, (mark = 'x' ∨ mark = 'X') → body ≠ '0' :: mark :: digits) ∧
        magnitude? negative body = (natural? 10 body).bind fun value =>
          if negative && value == topBit then some Int64.minValue else ofMagnitude? value := by
  unfold magnitude?
  split
  · next digits => exact .inl ⟨'x', digits, .inl rfl, rfl, rfl⟩
  · next digits => exact .inl ⟨'X', digits, .inr rfl, rfl, rfl⟩
  · next small capital =>
    refine .inr ⟨?_, rfl⟩
    rintro mark digits (rfl | rfl) same
    · exact small digits same
    · exact capital digits same

/-- **A magnitude is read just if 64 bits hold the number with its sign**, the least one included. -/
theorem signed_magnitude (sign : List Char) (value : Nat) :
    (if decide (sign = ['-']) && value == topBit then some Int64.minValue
        else ofMagnitude? value).map
          (fun magnitude => if decide (sign = ['-']) then -magnitude else magnitude) =
        some number ↔
      -2 ^ 63 ≤ signed sign value ∧ signed sign value < 2 ^ 63 ∧
        number = Int64.ofInt (signed sign value) := by
  have top : topBit = 2 ^ 63 := rfl
  have least : -Int64.minValue = Int64.ofInt (-2 ^ 63) := by decide
  have same (value : Nat) : Int64.ofNat value = Int64.ofInt value := Int64.ofInt_eq_ofNat.symm
  unfold signed ofMagnitude?
  by_cases negative : sign = ['-']
  · simp only [negative, decide_true, Bool.true_and, if_true, beq_iff_eq]
    rcases Nat.lt_trichotomy value topBit with below | rfl | above
    · have within : -2 ^ 63 ≤ -(value : Int) ∧ -(value : Int) < 2 ^ 63 := by omega
      rw [if_neg below.ne, if_pos below, Option.map_some, Option.some_inj, same, ← Int64.ofInt_neg]
      simp only [within, true_and, eq_comm]
    · rw [if_pos rfl, Option.map_some, Option.some_inj, least, top]
      simp [eq_comm]
    · have outside : ¬ -2 ^ 63 ≤ -(value : Int) := by omega
      rw [if_neg above.ne', if_neg (Nat.lt_asymm above)]
      simp only [outside, false_and, Option.map_none, reduceCtorEq]
  · simp only [negative, decide_false, Bool.false_and, if_false, Bool.false_eq_true]
    by_cases below : value < topBit
    · have within : -2 ^ 63 ≤ (value : Int) ∧ (value : Int) < 2 ^ 63 := by omega
      rw [if_pos below, Option.map_some, Option.some_inj, same]
      simp only [within, true_and, eq_comm]
    · have outside : ¬ (value : Int) < 2 ^ 63 := by omega
      rw [if_neg below]
      simp only [outside, false_and, and_false, Option.map_none, reduceCtorEq]

/-- What is read behind a sign, by the magnitude that stands there. -/
theorem integer?_append (isSign : IsSign sign) (unsigned : Unsigned body) :
    integer? (sign ++ body) = (magnitude? (decide (sign = ['-'])) body).map fun magnitude =>
      if decide (sign = ['-']) then -magnitude else magnitude := by
  rw [integer?, splitSign_append isSign unsigned]

theorem integer?_of_spellsDecimal (spells : SpellsDecimal text number) :
    integer? text = some number := by
  obtain ⟨isSign, denotes, lower, upper⟩ := spells
  next sign digits value =>
  rw [integer?_append isSign (denotes.unsigned (by decide))]
  rcases magnitude?_cases (decide (sign = ['-'])) digits with
    ⟨mark, text, isMark, rfl, -⟩ | ⟨-, magnitude⟩
  · -- the mark is no decimal digit
    have light := denotes.each mark (by simp)
    rcases isMark with rfl | rfl <;> exact absurd light (by decide)
  · rw [magnitude, Option.map_bind, (natural?_eq_some_iff (by decide)).mpr denotes,
      Option.bind_some]
    exact (signed_magnitude sign value).mpr ⟨lower, upper, rfl⟩

theorem integer?_of_spellsHexadecimal (plus : between = [] ∨ between = ['+'])
    (spells : SpellsHexadecimal between text number) : integer? text = some number := by
  obtain ⟨isSign, isMark, denotes, fits⟩ := spells
  next sign digits mark value =>
  have unsigned : Unsigned ('0' :: mark :: (between ++ digits)) := by
    simp [Unsigned]
  have bits := hexadecimal?_eq_some_iff.mpr ⟨between, digits, value, plus, rfl, denotes, fits, rfl⟩
  rw [integer?_append isSign unsigned]
  rcases magnitude?_cases (decide (sign = ['-'])) ('0' :: mark :: (between ++ digits)) with
    ⟨mark', text, -, same, magnitude⟩ | ⟨other, -⟩
  · obtain ⟨rfl, rfl⟩ := List.cons.inj (List.cons.inj same).2
    rw [magnitude, bits, Option.map_some, ofInt_signed]
    simp only [decide_eq_true_eq]
  · exact absurd rfl (other mark _ isMark)

/-- **The integers that texts are read as.**  Reading accepts the notation of integers, and besides a
plus behind the mark of a hexadecimal one. -/
theorem integer?_eq_some_iff :
    integer? text = some number ↔ Spells text number ∨ SpellsHexadecimal ['+'] text number := by
  constructor
  · intro read
    obtain ⟨sign, body, isSign, rfl, split⟩ := exists_sign text
    rw [integer?, split] at read
    dsimp only at read
    rcases magnitude?_cases (decide (sign = ['-'])) body with
      ⟨mark, text, isMark, rfl, magnitude⟩ | ⟨-, magnitude⟩ <;> rw [magnitude] at read
    · obtain ⟨unsigned, bits, rfl⟩ := Option.map_eq_some_iff.mp read
      obtain ⟨between, digits, value, plus, rfl, denotes, fits, rfl⟩ :=
        hexadecimal?_eq_some_iff.mp bits
      have spells : SpellsHexadecimal between (sign ++ '0' :: mark :: (between ++ digits))
          (Int64.ofInt (signed sign value)) := .intro isSign isMark denotes fits
      rw [ofInt_signed] at spells
      simp only [decide_eq_true_eq]
      rcases plus with rfl | rfl
      · exact .inl (.inr spells)
      · exact .inr spells
    · rw [Option.map_bind] at read
      obtain ⟨value, digits, bounded⟩ := Option.bind_eq_some_iff.mp read
      obtain ⟨lower, upper, rfl⟩ := (signed_magnitude sign value).mp bounded
      exact .inl (.inl (.intro isSign ((natural?_eq_some_iff (by decide)).mp digits) lower upper))
  · rintro ((spells | spells) | spells)
    · exact integer?_of_spellsDecimal spells
    · exact integer?_of_spellsHexadecimal (.inl rfl) spells
    · exact integer?_of_spellsHexadecimal (.inr rfl) spells

end CommentDirectives.IntegerText
