import Mathlib
import CommentDirectives.Proofs.Number.Notation
import CommentDirectives.Proofs.Token.Partition

/-!
# Integers as tokens

A text is a single token from its first character to its last just if it is a word that is written
for this token (`Token.fills_iff`).  For integers the words are the notation of integers without a
sign (`Token.written_int_iff`), so that the lexer and the reader of integers accept the same texts,
but for those with a plus behind the mark of a hexadecimal integer, which only the reader accepts
(`Token.integer?_accepts`).
-/

namespace CommentDirectives.Token

set_option autoImplicit false

open IntegerText (integer? Spells SpellsHexadecimal Denotes IsSign Unsigned signed weight)

variable {text : List Char} {number : Int64}

/-! ## Texts that are a single token -/

/-- A text is a single token from end to end: the token stands at its front, nothing else follows,
and there is no blank at the end. -/
structure Fills (source : String) (token : Token) : Prop where
  sequence : Token.sequence source = .ok ⟨[⟨token, 0⟩], source.utf8ByteSize⟩
  last : ∀ last ∈ source.toList.getLast?, isTokenBlank last = false

theorem bytes_eq_zero_iff {text : List Char} : bytes text = 0 ↔ text = [] := by
  cases text with
  | nil => simp [bytes]
  | cons first rest =>
      have positive := first.utf8Size_pos
      rw [bytes_cons]
      simp only [reduceCtorEq, iff_false]
      omega

/-- No word ends with a blank. -/
theorem Shape.last_not_blank {word : List Char} (shape : Shape word) :
    ∀ last ∈ word.getLast?, isTokenBlank last = false := by
  intro last ends
  rcases shape.cases_separates with ⟨body, -, rfl⟩ | rfl | plain
  · rw [← List.cons_append, List.getLast?_concat] at ends
    cases ends
    rfl
  · cases ends
    rfl
  · by_contra blank
    rw [Bool.not_eq_false] at blank
    cases (separates_of_isTokenBlank blank).symm.trans (plain last (List.mem_of_getLast? ends))

/-- A word that is written for a token is cut into that token. -/
theorem lexemesFrom_of_written {token : Token} (written : Written text (some token)) :
    lexemesFrom 0 0 text = .ok [⟨token, 0⟩] := by
  have longest : Longest (text ++ []) text := by
    rw [List.append_nil]
    exact ⟨List.prefix_rfl, ⟨_, written⟩, fun other front _ => front.length_le⟩
  have cut := cut_word longest written 0
  rw [Cut, List.append_nil] at cut
  rw [cut]
  rfl

/-- **A text is a single token just if it is a word that is written for the token.** -/
theorem fills_iff {source : String} {token : Token} :
    Fills source token ↔ Written source.toList (some token) := by
  constructor
  · rintro ⟨cut, noBlank⟩
    obtain ⟨pieces, last, spelled, same⟩ := exists_spelled cut
    have placed : [⟨token, 0⟩] = place 0 pieces := congrArg TokenSequence.lexemes same
    cases pieces with
    | nil => cases placed
    | cons piece pieces =>
        rw [place] at placed
        obtain ⟨first, onward⟩ := List.cons.inj placed
        obtain ⟨rfl, offset⟩ := Lexeme.mk.inj first
        obtain rfl : pieces = [] := by
          cases pieces with
          | nil => rfl
          | cons => cases onward
        have gap : piece.gap = [] := bytes_eq_zero_iff.mp (by omega)
        have text := spelled.text
        rw [spell, spell, gap, List.nil_append] at text
        -- blanks behind the word would be the end of the text
        obtain rfl : last = [] := by
          rcases List.eq_nil_or_concat' last with none | ⟨front, end_, rfl⟩
          · exact none
          · have blank := spelled.blank end_ (List.mem_append_right _ List.mem_cons_self)
            have ends : source.toList.getLast? = some end_ := by
              rw [text, ← List.append_assoc, List.getLast?_concat]
            cases blank.symm.trans (noBlank end_ ends)
        rw [List.append_nil] at text
        cases spelled.partition with
        | piece blank longest written onward =>
            rw [text]
            exact written
  · intro written
    refine ⟨?_, written.shape.last_not_blank⟩
    rw [Token.sequence, lexemesFrom_of_written written]

/-! ## Integers -/

theorem isHexadecimal_iff {character : Char} :
    isHexadecimal character = true ↔ weight character < 16 := by
  rw [isHexadecimal, IntegerText.digitValue?_eq (Nat.le_refl 16)]
  split
  · next light => simp [light]
  · next heavy => simp [heavy]

/-- Decimal digits without a sign are read as the integer that they spell. -/
theorem decimal?_eq_some_iff :
    IntegerText.decimal? text = some number ↔
      ∃ value, Denotes 10 text value ∧ (value : Int) < 2 ^ 63 ∧ number = Int64.ofInt value := by
  have top : IntegerText.topBit = 2 ^ 63 := rfl
  rw [IntegerText.decimal?, Option.bind_eq_some_iff]
  refine exists_congr fun value => and_congr (IntegerText.natural?_eq_some_iff (by decide)) ?_
  unfold IntegerText.ofMagnitude?
  split
  · next fits =>
    have within : (value : Int) < 2 ^ 63 := by omega
    rw [Option.some_inj, eq_comm, Int64.ofInt_eq_ofNat, and_iff_right within]
  · next large =>
    have beyond : ¬ (value : Int) < 2 ^ 63 := by omega
    simp only [beyond, false_and, reduceCtorEq]

/-- **The words of integers are their notation without a sign.** -/
theorem written_int_iff (unsigned : Unsigned text) :
    Written text (some (.int number)) ↔ Spells text number := by
  have noSign : IsSign [] := by decide
  constructor
  · intro written
    generalize stands : some (Token.int number) = value at written
    cases written with
    | fractional | exponential | string =>
        obtain ⟨_, _, other⟩ := Option.map_eq_some_iff.mp stands.symm
        cases other
    | truth | name => cases stands
    | symbol member =>
        cases stands
        simp [symbols] at member
    | @hexadecimal mark digits isMark present each =>
        obtain ⟨read, bits, same⟩ := Option.map_eq_some_iff.mp stands.symm
        cases same
        obtain ⟨between, rest, value, plus, rfl, denotes, fits, rfl⟩ :=
          IntegerText.hexadecimal?_eq_some_iff.mp bits
        rcases plus with rfl | rfl
        · exact .inr (.intro noSign isMark denotes fits)
        · exact absurd (each '+' List.mem_cons_self) (by decide)
    | @decimal isDigits =>
        obtain ⟨read, digits, same⟩ := Option.map_eq_some_iff.mp stands.symm
        cases same
        obtain ⟨value, denotes, fits, rfl⟩ := decimal?_eq_some_iff.mp digits
        exact .inl (.intro noSign denotes
          (Int.le_trans (by decide) (Int.natCast_nonneg value)) fits)
  · intro spells
    have none {sign body : List Char} (isSign : IsSign sign) (text_ : text = sign ++ body) :
        sign = [] := by
      simp only [IsSign, List.mem_cons, List.not_mem_nil, or_false] at isSign
      rcases isSign with rfl | rfl | rfl
      · rfl
      · exact absurd (congrArg List.head? text_) unsigned.1
      · exact absurd (congrArg List.head? text_) unsigned.2
    rcases spells with spells | spells
    · obtain ⟨isSign, denotes, lower, upper⟩ := spells
      next sign digits value =>
      obtain rfl := none isSign rfl
      have read : IntegerText.decimal? digits = some (Int64.ofInt (signed [] value)) :=
        decimal?_eq_some_iff.mpr ⟨value, denotes, upper, rfl⟩
      have isDigits : IsDigits digits := ⟨denotes.present, fun digit member =>
        IntegerText.weight_lt_ten_iff.mp (denotes.each digit member)⟩
      have written := Written.decimal isDigits
      rw [read] at written
      exact written
    · obtain ⟨isSign, isMark, denotes, fits⟩ := spells
      next sign digits mark value =>
      obtain rfl := none isSign rfl
      have bits : IntegerText.hexadecimal? digits = some (Int64.ofInt (signed [] value)) :=
        IntegerText.hexadecimal?_eq_some_iff.mpr ⟨[], digits, value, .inl rfl, rfl, denotes, fits, rfl⟩
      have written := Written.hexadecimal isMark denotes.present fun digit member =>
        isHexadecimal_iff.mpr (denotes.each digit member)
      rw [bits] at written
      exact written

/-- **The texts that are read as integers.**  A text is read as an integer just if it spells it: an
optional sign, and decimal digits within the 64-bit integers or hexadecimal digits behind `0x` or
`0X`; or if a plus stands between this mark and the digits.  Without a sign in front, and but for such
a plus, it is read as an integer just if it is a single token of that integer. -/
theorem integer?_accepts (source : String) (number : Int64) :
    (integer? source.toList = some number ↔
      Spells source.toList number ∨ SpellsHexadecimal ['+'] source.toList number) ∧
    (Unsigned source.toList →
      (integer? source.toList = some number ↔
        Fills source (.int number) ∨ SpellsHexadecimal ['+'] source.toList number)) := by
  refine ⟨IntegerText.integer?_eq_some_iff, fun unsigned => ?_⟩
  rw [fills_iff, written_int_iff unsigned]
  exact IntegerText.integer?_eq_some_iff

/-- Sixteen hexadecimal digits of which the topmost bit is set are read, and are a single token. -/
theorem integer?_accepts_topBit :
    Unsigned "0X80000000000000fF".toList ∧
      integer? "0X80000000000000fF".toList = some (-9223372036854775553) ∧
      Fills "0X80000000000000fF" (.int (-9223372036854775553)) := by
  have unsigned : Unsigned "0X80000000000000fF".toList := by decide
  have read : integer? "0X80000000000000fF".toList = some (-9223372036854775553) := by
    decide +kernel
  have noPlus : '+' ∉ "0X80000000000000fF".toList := by decide
  refine ⟨unsigned, read, (((integer?_accepts _ _).2 unsigned).mp read).resolve_right ?_⟩
  exact fun late => noPlus (late.between_subset List.mem_cons_self)

/-- Digits behind a plus and the mark are read, though they are in no notation of integers and make
several tokens. -/
theorem integer?_plus_behind_mark :
    integer? "0x+1".toList = some 1 ∧ (∀ number, ¬Spells "0x+1".toList number) ∧
      ∀ number, ¬Fills "0x+1" (.int number) := by
  have several : Token.sequence "0x+1" =
      .ok ⟨[⟨.int 0, 0⟩, ⟨.identifier "x", 1⟩, ⟨.operator .add, 2⟩, ⟨.int 1, 3⟩], 4⟩ := by cbv
  have none (number : Int64) : ¬Fills "0x+1" (.int number) := by
    intro fills
    cases several.symm.trans fills.sequence
  refine ⟨by decide, fun number spells => none number ?_, none⟩
  have unsigned : Unsigned "0x+1".toList := by decide
  exact fills_iff.mpr ((written_int_iff unsigned).mpr spells)

end CommentDirectives.Token
