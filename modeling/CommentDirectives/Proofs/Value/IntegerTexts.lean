import Mathlib
import CommentDirectives.Evaluation.Functions
import CommentDirectives.Proofs.Expr.Names
import CommentDirectives.Proofs.Token.Integers

/-!
# The texts of integers are read back

The text of an integer is its magnitude in decimal digits, behind a minus if it is negative
(`IntegerText.spellsDecimal_text`).  The function that reads integers gives back every integer from
its text.  So does the reader of raw values but for the least integer, which it takes for a text: it
reads the digits as a token, and there is no token for a magnitude that only a minus admits
(`Value.integers_read_back`).
-/

namespace CommentDirectives

set_option autoImplicit false

namespace IntegerText

/-- The sign that an integer is written with. -/
def signOf (number : Int64) : List Char := if number.toInt < 0 then ['-'] else []

/-- The digits that an integer is written with. -/
def digitsOf (number : Int64) : List Char := Nat.toDigits 10 number.toInt.natAbs

theorem toList_text_eq (number : Int64) :
    (text number).toList = signOf number ++ digitsOf number := by
  rw [text, signOf, digitsOf]
  cases number.toInt with
  | ofNat magnitude =>
      have written : toString (Int.ofNat magnitude) = toString magnitude := rfl
      have notNegative : ¬Int.ofNat magnitude < 0 := Int.not_lt.mpr (Int.natCast_nonneg magnitude)
      rw [written, Nat.toString_eq_ofList_toDigits, String.toList_ofList, if_neg notNegative]
      rfl
  | negSucc magnitude =>
      have written : toString (Int.negSucc magnitude) = "-" ++ toString (magnitude + 1) := rfl
      have minus : "-".toList = ['-'] := rfl
      rw [written, Nat.toString_eq_ofList_toDigits, String.toList_append, minus,
        String.toList_ofList, if_pos (Int.negSucc_lt_zero magnitude)]
      rfl

theorem isSign_signOf (number : Int64) : IsSign (signOf number) := by
  unfold signOf
  split <;> decide

theorem denotes_digitsOf (number : Int64) :
    Denotes 10 (digitsOf number) number.toInt.natAbs :=
  (natural?_eq_some_iff (by decide)).mp (natural?_toDigits _)

theorem signed_signOf (number : Int64) :
    signed (signOf number) number.toInt.natAbs = number.toInt := by
  unfold signed signOf
  by_cases negative : number.toInt < 0
  · rw [if_pos negative, if_pos rfl]
    omega
  · rw [if_neg negative, if_neg (by decide)]
    omega

/-- **The text of an integer spells it.** -/
theorem spellsDecimal_text (number : Int64) : SpellsDecimal (text number).toList number := by
  have spells := SpellsDecimal.intro (isSign_signOf number) (denotes_digitsOf number)
    (by rw [signed_signOf]; exact number.le_toInt) (by rw [signed_signOf]; exact number.toInt_lt)
  rwa [signed_signOf, Int64.ofInt_toInt, ← toList_text_eq] at spells

/-- The text of an integer starts with a minus or a digit, and all others are digits. -/
theorem text_characters (number : Int64) : ∀ character ∈ (text number).toList,
    character = '-' ∨ character.isDigit = true := by
  intro character member
  rw [toList_text_eq, List.mem_append] at member
  rcases member with sign | digit
  · unfold signOf at sign
    split at sign
    · exact .inl (List.mem_singleton.mp sign)
    · cases sign
  · exact .inr (isDigit_of_mem_toDigits character digit)

/-- The text of an integer has no blanks. -/
theorem isBlank_text (number : Int64) :
    ∀ character ∈ (text number).toList, Text.isBlank character = false := by
  intro character member
  rcases text_characters number character member with rfl | digit
  · decide
  · exact Name.isBlank_of_canContinue (by simp [Name.canContinue, Char.isAlphanum, digit])

/-- A magnitude that 64 bits hold is read from its digits, whatever the sign. -/
theorem decimal?_digitsOf {number : Int64} (other : number ≠ Int64.minValue) :
    decimal? (digitsOf number) = some (Int64.ofInt number.toInt.natAbs) := by
  refine Token.decimal?_eq_some_iff.mpr ⟨_, denotes_digitsOf number, ?_, rfl⟩
  have lower := number.le_toInt
  have upper := number.toInt_lt
  have notLeast : number.toInt ≠ -2 ^ 63 := fun least => other (Int64.toInt_inj.mp least)
  omega

end IntegerText

namespace Value

variable {raw : List Char}

/-! ## Raw values -/

/-- A text that starts with neither a t nor an f spells no truth value. -/
theorem truthOfText?_eq_none {first : Char} {rest : List Char}
    (trimmed : Text.trim raw = first :: rest) (notTrue : first.toLower ≠ 't')
    (notFalse : first.toLower ≠ 'f') : truthOfText? raw = none := by
  have differs (second : Char) (word : List Char) (lower : second.toLower = second)
      (other : first.toLower ≠ second) :
      Text.sameAsciiCase (first :: rest) (second :: word) = false := by
    rw [Text.sameAsciiCase, beq_eq_false_iff_ne, List.map_cons, List.map_cons, lower]
    exact fun same => other (List.cons.inj same).1
  have noTrue : Text.sameAsciiCase (first :: rest) "true".toList = false :=
    differs 't' _ rfl notTrue
  have noFalse : Text.sameAsciiCase (first :: rest) "false".toList = false :=
    differs 'f' _ rfl notFalse
  simp only [truthOfText?, trimmed, noTrue, noFalse, Bool.false_eq_true, if_false]

/-- A minus and digits have no small form, so that no text of an integer spells a truth value. -/
theorem truthOfText?_text (number : Int64) :
    truthOfText? (IntegerText.text number).toList = none := by
  have trimmed := Text.trim_of_visible (IntegerText.isBlank_text number)
  obtain ⟨first, tail, digits, _⟩ := IntegerText.exists_first_digit number.toInt.natAbs
  obtain ⟨first, rest, written⟩ : ∃ first rest,
      (IntegerText.text number).toList = first :: rest := by
    rw [IntegerText.toList_text_eq, IntegerText.digitsOf, digits]
    exact List.exists_cons_of_ne_nil (List.append_ne_nil_of_right_ne_nil _ (List.cons_ne_nil _ _))
  have kind := IntegerText.text_characters number first (written ▸ List.mem_cons_self)
  have low : first.toNat < 65 := by
    rcases kind with rfl | digit
    · decide
    · have code : 48 ≤ first.toNat ∧ first.toNat ≤ 57 := by
        simpa [Char.isDigit, UInt32.le_iff_toNat_le] using digit
      omega
  have same : first.toLower = first := Char.toLower_eq_of_not_isUpper fun upper => by
    have code : 65 ≤ first.toNat ∧ first.toNat ≤ 90 := by
      simpa [Char.isUpper, UInt32.le_iff_toNat_le] using upper
    omega
  refine truthOfText?_eq_none (trimmed.trans written) ?_ ?_ <;> rw [same] <;> rintro rfl <;>
    exact absurd low (by decide)

/-- The minus of an integer is taken off its text. -/
theorem splitMinus_text (number : Int64) :
    splitMinus (IntegerText.text number).toList =
      (decide (number.toInt < 0), IntegerText.digitsOf number) := by
  have start := Text.trimStart_of_visible (IntegerText.isBlank_text number)
  rw [splitMinus, start, IntegerText.toList_text_eq, IntegerText.signOf]
  by_cases negative : number.toInt < 0
  · rw [if_pos negative, decide_eq_true negative]
    rfl
  · rw [if_neg negative, decide_eq_false negative, List.nil_append]
    split
    · next rest minus =>
      have member : '-' ∈ IntegerText.digitsOf number := minus ▸ List.mem_cons_self
      cases IntegerText.isDigit_of_mem_toDigits '-' member
    · rfl

theorem literal?_of_lexeme {negative : Bool} {body : List Char} {token : Token}
    (split : splitMinus raw = (negative, body))
    (read : Token.lexemesFrom 0 0 body = .ok [⟨token, 0⟩]) :
    literal? raw = ofToken? negative token := by
  simp only [literal?, split, read]

/-- But for the least integer, the digits of an integer are a token that gives the integer behind
its sign. -/
theorem literal?_text {number : Int64} (other : number ≠ Int64.minValue) :
    literal? (IntegerText.text number).toList = some (.int number) := by
  have isDigits : Token.IsDigits (IntegerText.digitsOf number) :=
    ⟨Nat.toDigits_ne_nil, IntegerText.isDigit_of_mem_toDigits⟩
  have written := Token.Written.decimal isDigits
  rw [IntegerText.decimal?_digitsOf other] at written
  rw [literal?_of_lexeme (splitMinus_text number) (Token.lexemesFrom_of_written written)]
  have turned := IntegerText.ofInt_signed (IntegerText.signOf number) number.toInt.natAbs
  rw [IntegerText.signed_signOf, Int64.ofInt_toInt, IntegerText.signOf] at turned
  by_cases negative : number.toInt < 0
  · rw [if_pos negative, if_pos rfl] at turned
    rw [decide_eq_true negative, ofToken?, ← turned]
  · rw [if_neg negative, if_neg (by decide)] at turned
    rw [decide_eq_false negative, ofToken?, ← turned]

/-- The least integer is no literal: there is no token for its digits. -/
theorem recognize_minValue :
    recognize (text (.int Int64.minValue)) = .string (text (.int Int64.minValue)) := by
  cbv

/-- **Integers are read back from their texts.**  The function that makes texts gives the text of an
integer, from which the function that reads integers gives the integer back; and the reader of raw
values does so, too, but for the least integer, whose text it takes for a text. -/
theorem integers_read_back (number : Int64) :
    Builtin.apply .tostr [.int number] = .ok (.string (text (.int number))) ∧
      Builtin.apply .str2int [.string (text (.int number))] = .ok (.int number) ∧
      recognize (text (.int number)) =
        if number = Int64.minValue then .string (text (.int number)) else .int number := by
  have written : text (.int number) = IntegerText.text number := rfl
  refine ⟨rfl, ?_, ?_⟩
  · have read := IntegerText.integer?_of_spellsDecimal (IntegerText.spellsDecimal_text number)
    have trimmed := Text.trim_of_visible (IntegerText.isBlank_text number)
    rw [written, Builtin.apply, trimmed, read]
    rfl
  · by_cases least : number = Int64.minValue
    · rw [if_pos least, least]
      exact recognize_minValue
    · simp only [if_neg least, recognize, written, truthOfText?_text, literal?_text least]

/-- The least integer is not read back from raw text. -/
theorem least_not_read_back : ¬∀ number, recognize (text (.int number)) = .int number := by
  intro all
  cases recognize_minValue.symm.trans (all Int64.minValue)

end Value

end CommentDirectives
