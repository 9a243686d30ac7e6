import CommentDirectives.Proofs.Token.Words

/-!
# The longest word is taken

What the scanner takes off the front of a text is the longest of all words that the text starts
with, and where it starts with none, nothing is taken (`takes_scan`).  So a token is scanned just
where its word is the longest one (`scan_eq_token`).

For each form it is shown that the characters which are taken make a word of this form, and that no
word of a form with the same first character is longer.  Numbers are where this takes an argument:
an exponent is only taken whole, and what looks like the start of one is left to the next token.
-/

namespace CommentDirectives.Token

set_option autoImplicit false

variable {text word rest : List Char} {value : Option Token}

/-- What a scanner takes off the front of a text: the longest word, with its token if it has a
value, or nothing if the text starts with no word. -/
inductive Takes (text : List Char) : Scanned → Prop where
  | word {word : List Char} {value : Option Token} : Longest text word → Written word value →
      Takes text (valued word value)
  | nothing (refused : List Char) : (∀ word, word <+: text → ¬ IsWord word) →
      Takes text (.refused refused)

/-! ## Numbers -/

section Greedy

variable {p : Char → Bool}

/-- Characters of a kind are among those of that kind that a text starts with. -/
theorem length_le_takeWhile (each : ∀ character ∈ word, p character = true) (front : word <+: text) :
    word.length ≤ (text.takeWhile p).length := by
  obtain ⟨rest, rfl⟩ := front
  rw [List.takeWhile_append_of_pos each, List.length_append]
  exact Nat.le_add_right _ _

theorem takeWhile_each (text : List Char) : ∀ character ∈ text.takeWhile p, p character = true :=
  fun _ member => List.all_eq_true.mp List.all_takeWhile _ member

end Greedy

/-- Digits at the front of a text, if there are any. -/
theorem isDigits_takeWhile (present : text.takeWhile Char.isDigit ≠ []) :
    IsDigits (text.takeWhile Char.isDigit) :=
  ⟨present, takeWhile_each text⟩

theorem isPrefix_fractionPart (text : List Char) : fractionPart text <+: text := by
  unfold fractionPart
  split
  · next rest =>
    have front := List.takeWhile_prefix (l := rest) Char.isDigit
    cases taken : rest.takeWhile Char.isDigit with
    | nil => exact List.nil_prefix
    | cons digit digits => exact List.cons_prefix_cons.mpr ⟨rfl, taken ▸ front⟩
  · exact List.nil_prefix

theorem isFraction_fractionPart (text : List Char) :
    fractionPart text = [] ∨ IsFraction (fractionPart text) := by
  unfold fractionPart
  split
  · next rest =>
    cases taken : rest.takeWhile Char.isDigit with
    | nil => exact .inl rfl
    | cons digit digits =>
        exact .inr ⟨digit :: digits, taken ▸ isDigits_takeWhile (taken ▸ nofun), rfl⟩
  · exact .inl rfl

theorem isPrefix_signPart (text : List Char) : signPart text <+: text := by
  unfold signPart
  split
  · exact ⟨_, rfl⟩
  · exact ⟨_, rfl⟩
  · exact List.nil_prefix

theorem signPart_mem (text : List Char) : signPart text ∈ [[], ['+'], ['-']] := by
  unfold signPart
  split <;> simp

/-- The sign in front of digits. -/
theorem signPart_append {sign digits : List Char} (isSign : sign ∈ [[], ['+'], ['-']])
    (isDigits : IsDigits digits) (rest : List Char) : signPart (sign ++ (digits ++ rest)) = sign := by
  simp only [List.mem_cons, List.not_mem_nil, or_false] at isSign
  rcases isSign with rfl | rfl | rfl
  · cases digits with
    | nil => exact absurd rfl isDigits.present
    | cons digit digits =>
        have isDigit := isDigits.each digit List.mem_cons_self
        rw [List.nil_append, List.cons_append]
        unfold signPart
        split
        · next same => obtain ⟨rfl, -⟩ := List.cons.inj same; cases isDigit
        · next same => obtain ⟨rfl, -⟩ := List.cons.inj same; cases isDigit
        · rfl
  · rfl
  · rfl

/-- What an exponent is made of, unless there is none. -/
theorem exponentPart_cases (text : List Char) :
    exponentPart text = [] ∨ ∃ mark rest, text = mark :: rest ∧ (mark = 'e' ∨ mark = 'E') ∧
      (rest.drop (signPart rest).length).takeWhile Char.isDigit ≠ [] ∧
      exponentPart text =
        mark :: (signPart rest ++ (rest.drop (signPart rest).length).takeWhile Char.isDigit) := by
  cases text with
  | nil => exact .inl rfl
  | cons mark rest =>
      by_cases isMark : mark = 'e' ∨ mark = 'E'
      · cases taken : (rest.drop (signPart rest).length).takeWhile Char.isDigit with
        | nil =>
            left
            simp only [exponentPart, if_pos isMark, taken]
        | cons digit digits =>
            refine .inr ⟨mark, rest, rfl, isMark, taken ▸ List.cons_ne_nil digit digits, ?_⟩
            simp only [exponentPart, if_pos isMark, taken, List.cons_append]
      · exact .inl (if_neg isMark)

theorem isPrefix_exponentPart (text : List Char) : exponentPart text <+: text := by
  rcases exponentPart_cases text with none | ⟨mark, rest, rfl, -, -, taken⟩
  · exact none ▸ List.nil_prefix
  · have sign := List.prefix_iff_eq_append.mp (isPrefix_signPart rest)
    have digits := List.takeWhile_prefix (l := rest.drop (signPart rest).length) Char.isDigit
    rw [taken, List.cons_prefix_cons]
    refine ⟨rfl, ?_⟩
    conv => rhs; rw [← sign]
    exact (List.prefix_append_right_inj _).mpr digits

theorem isExponent_exponentPart (text : List Char) :
    exponentPart text = [] ∨ IsExponent (exponentPart text) := by
  rcases exponentPart_cases text with none | ⟨mark, rest, -, isMark, present, taken⟩
  · exact .inl none
  · exact .inr ⟨mark, _, _, isMark, signPart_mem rest, isDigits_takeWhile present, taken⟩

/-- No exponent that a text starts with is longer than the one that is taken. -/
theorem length_le_exponentPart (isExponent : IsExponent word) (front : word <+: text) :
    word.length ≤ (exponentPart text).length := by
  obtain ⟨mark, sign, digits, isMark, isSign, isDigits, rfl⟩ := isExponent
  obtain ⟨rest, rfl⟩ := front
  have same := signPart_append isSign isDigits rest
  have longer := length_le_takeWhile isDigits.each (List.prefix_append digits rest)
  rw [List.cons_append, List.append_assoc, exponentPart, if_pos isMark]
  dsimp only
  rw [same, List.drop_left]
  cases taken : (digits ++ rest).takeWhile Char.isDigit with
  | nil =>
      rw [taken] at longer
      exact absurd (List.eq_nil_of_length_eq_zero (Nat.le_zero.mp longer)) isDigits.present
  | cons digit others =>
      rw [taken] at longer
      simp only [List.length_cons, List.length_append] at longer ⊢
      omega

/-- What is taken off the front of a text as a number that is not hexadecimal. -/
def numeral (text : List Char) : List Char :=
  let whole := text.takeWhile Char.isDigit
  let behind := text.drop whole.length
  let fraction := fractionPart behind
  whole ++ (fraction ++ exponentPart (behind.drop fraction.length))

theorem isPrefix_numeral (text : List Char) : numeral text <+: text := by
  have whole := List.prefix_iff_eq_append.mp (List.takeWhile_prefix (l := text) Char.isDigit)
  have fraction := List.prefix_iff_eq_append.mp
    (isPrefix_fractionPart (text.drop (text.takeWhile Char.isDigit).length))
  rw [numeral]
  conv => rhs; rw [← whole, ← fraction]
  simp only [List.prefix_append_right_inj]
  exact isPrefix_exponentPart _

/-- Behind the digits in front of it, no fraction with an exponent is longer than what is taken. -/
theorem length_le_fraction_exponent {fraction exponent : List Char}
    (isFraction : fraction = [] ∨ IsFraction fraction) (isExponent : exponent = [] ∨ IsExponent exponent)
    (front : fraction ++ exponent <+: text) :
    (fraction ++ exponent).length ≤
      (fractionPart text ++ exponentPart (text.drop (fractionPart text).length)).length := by
  obtain ⟨rest, rfl⟩ := front
  rcases isFraction with rfl | ⟨digits, isDigits, rfl⟩
  · -- an exponent, or nothing, is behind no point
    rcases isExponent with rfl | isExponent
    · exact Nat.zero_le _
    have longer := length_le_exponentPart isExponent (List.prefix_append exponent rest)
    obtain ⟨mark, sign, digits, isMark, isSign, isDigits, rfl⟩ := isExponent
    have noPoint : fractionPart (mark :: (sign ++ digits) ++ rest) = [] := by
      rcases isMark with rfl | rfl <;> rfl
    simpa only [List.nil_append, noPoint, List.length_nil, List.drop_zero] using longer
  · rcases isExponent with rfl | isExponent
    · have longer := length_le_takeWhile isDigits.each (List.prefix_append digits rest)
      rw [List.append_nil, List.cons_append, List.length_append]
      refine Nat.le_trans ?_ (Nat.le_add_right _ _)
      rw [fractionPart]
      cases taken : (digits ++ rest).takeWhile Char.isDigit with
      | nil =>
          rw [taken] at longer
          exact absurd (List.eq_nil_of_length_eq_zero (Nat.le_zero.mp longer)) isDigits.present
      | cons digit others =>
          rw [taken] at longer
          exact Nat.succ_le_succ longer
    · -- the digits of the fraction end at the mark of the exponent
      have longer := length_le_exponentPart isExponent (List.prefix_append exponent rest)
      have stops : ∀ next ∈ (exponent ++ rest).head?, next.isDigit = false := by
        obtain ⟨mark, sign, digits, isMark, -, -, rfl⟩ := isExponent
        rintro next ⟨⟩
        rcases isMark with rfl | rfl <;> rfl
      have whole := takeWhile_append_of_stops isDigits.each stops
      have taken : fractionPart ('.' :: (digits ++ (exponent ++ rest))) = '.' :: digits := by
        rw [fractionPart, whole]
        cases digits with
        | nil => exact absurd rfl isDigits.present
        | cons digit digits => rfl
      have behind : ('.' :: (digits ++ (exponent ++ rest))).drop ('.' :: digits).length =
          exponent ++ rest := by
        rw [← List.cons_append, List.drop_left]
      rw [List.cons_append, List.cons_append, List.append_assoc, taken, behind]
      simp only [List.length_cons, List.length_append] at longer ⊢
      omega

/-- No number that a text starts with is longer than what is taken, unless it is hexadecimal. -/
theorem length_le_numeral (isNumeral : IsNumeral word) (front : word <+: text) :
    word.length ≤ (numeral text).length := by
  obtain ⟨whole, fraction, exponent, isDigits, isFraction, isExponent, rfl⟩ := isNumeral
  obtain ⟨rest, rfl⟩ := front
  by_cases further : fraction ++ exponent = []
  · have longer := length_le_takeWhile isDigits.each (List.prefix_append whole rest)
    rw [further, List.append_nil, numeral, List.length_append]
    exact Nat.le_trans longer (Nat.le_add_right _ _)
  · -- the digits end at the point or at the mark of the exponent
    have stops : ∀ next ∈ (fraction ++ exponent ++ rest).head?, next.isDigit = false := by
      rcases isFraction with rfl | ⟨digits, -, rfl⟩
      · rcases isExponent with rfl | ⟨mark, sign, digits, isMark, -, -, rfl⟩
        · exact absurd rfl further
        · rintro next ⟨⟩
          rcases isMark with rfl | rfl <;> rfl
      · rintro next ⟨⟩
        rfl
    have digits := takeWhile_append_of_stops isDigits.each stops
    have longer := length_le_fraction_exponent isFraction isExponent
      (List.prefix_append (fraction ++ exponent) rest)
    have behind : (whole ++ (fraction ++ exponent ++ rest)).drop whole.length =
        fraction ++ exponent ++ rest := List.drop_left
    rw [List.append_assoc, numeral, digits]
    simp only [behind, List.length_append] at longer ⊢
    omega

/-- What is taken as a number is written as one, with the value that the scanner gives it. -/
theorem written_numeral {first : Char} {tail : List Char} (digit : first.isDigit = true)
    (decimal : hexadecimalPart (first :: tail) = []) :
    ∃ value, scanNumber (first :: tail) = valued (numeral (first :: tail)) value ∧
      Written (numeral (first :: tail)) value := by
  have present : (first :: tail).takeWhile Char.isDigit ≠ [] := by
    rw [List.takeWhile_cons_of_pos digit]
    nofun
  have whole := isDigits_takeWhile present
  rw [scanNumber, decimal, numeral]
  generalize (first :: tail).takeWhile Char.isDigit = digits at whole
  dsimp only
  rw [← List.drop_drop, List.append_assoc]
  generalize (first :: tail).drop digits.length = behind
  have isFraction := isFraction_fractionPart behind
  have isExponent := isExponent_exponentPart (behind.drop (fractionPart behind).length)
  generalize exponentPart (behind.drop (fractionPart behind).length) = exponent at isExponent
  generalize fractionPart behind = fraction at isFraction
  rcases isFraction with rfl | isFraction
  · rcases isExponent with rfl | isExponent
    · refine ⟨(IntegerText.decimal? digits).map .int, ?_, ?_⟩
      · simp
      · simpa using Written.decimal whole
    · refine ⟨_, if_neg ?_, Written.exponential whole isExponent⟩
      obtain ⟨mark, sign, digits, -, -, -, rfl⟩ := isExponent
      simp
  · refine ⟨_, if_neg ?_, Written.fractional whole isFraction isExponent⟩
    obtain ⟨digits, -, rfl⟩ := isFraction
    simp

/-- **The longest number is taken.** -/
theorem takes_scanNumber {first : Char} {tail : List Char} (digit : first.isDigit = true) :
    Takes (first :: tail) (scanNumber (first :: tail)) := by
  rcases hexadecimalPart_cases (first :: tail) with decimal | ⟨mark, rest, same, isMark, present, taken⟩
  · obtain ⟨value, scanned, written⟩ := written_numeral digit decimal
    rw [scanned]
    refine .word ⟨isPrefix_numeral _, ⟨value, written⟩, ?_⟩ written
    intro other front isWord
    obtain ⟨tail', rfl, within, shape⟩ := isWord.shape_of_front front
    rcases shape.number_of_isDigit digit with isNumeral | isHexadecimal
    · exact length_le_numeral isNumeral front
    · -- the text would start with a hexadecimal number too
      obtain ⟨mark, digits, isMark, present, each, same⟩ := isHexadecimal
      obtain ⟨rfl, rfl⟩ := List.cons.inj same
      obtain ⟨rest, rfl⟩ := within
      have longer := length_le_takeWhile each (List.prefix_append digits rest)
      have none : (digits ++ rest).takeWhile Token.isHexadecimal = [] := by
        rcases isMark with rfl | rfl <;> exact decimal
      rw [none] at longer
      exact absurd (List.eq_nil_of_length_eq_zero (Nat.le_zero.mp longer)) present
  · obtain ⟨rfl, rfl⟩ := List.cons.inj same
    have each := takeWhile_each (p := Token.isHexadecimal) rest
    have front := List.takeWhile_prefix (l := rest) Token.isHexadecimal
    have word : ('0' :: mark :: rest).take (2 + (rest.takeWhile Token.isHexadecimal).length) =
        '0' :: mark :: rest.takeWhile Token.isHexadecimal := by
      rw [Nat.add_comm, List.take_succ_cons, List.take_succ_cons,
        ← List.prefix_iff_eq_take.mp front]
    have scanned : scanNumber ('0' :: mark :: rest) =
        valued ('0' :: mark :: rest.takeWhile Token.isHexadecimal)
          ((IntegerText.hexadecimal? (rest.takeWhile Token.isHexadecimal)).map .int) := by
      rw [scanNumber, taken, ← word]
      cases digits : rest.takeWhile Token.isHexadecimal with
      | nil => exact absurd digits present
      | cons => rfl
    have written := Written.hexadecimal isMark present each
    rw [scanned]
    refine .word ⟨?_, ⟨_, written⟩, ?_⟩ written
    · exact List.cons_prefix_cons.mpr ⟨rfl, List.cons_prefix_cons.mpr ⟨rfl, front⟩⟩
    · intro other front isWord
      obtain ⟨tail', rfl, within, shape⟩ := isWord.shape_of_front front
      rcases shape.number_of_isDigit digit with isNumeral | ⟨mark', digits, -, -, each, same⟩
      · -- the mark is no part of a number
        cases tail' with
        | nil => exact Nat.succ_le_succ (Nat.zero_le _)
        | cons next tail' =>
            obtain ⟨rfl, -⟩ := List.cons_prefix_cons.mp within
            exact absurd isMark isNumeral.not_mark
      · rw [same] at front ⊢
        obtain ⟨-, within⟩ := List.cons_prefix_cons.mp front
        obtain ⟨-, within⟩ := List.cons_prefix_cons.mp within
        exact Nat.succ_le_succ (Nat.succ_le_succ (length_le_takeWhile each within))

/-! ## Texts -/

theorem isPrefix_stringBody (text : List Char) : stringBody text <+: text := by
  fun_induction stringBody text with
  | case2 character rest _ ih =>
      exact List.cons_prefix_cons.mpr ⟨rfl, List.cons_prefix_cons.mpr ⟨rfl, ih⟩⟩
  | case5 character rest _ _ _ ih => exact List.cons_prefix_cons.mpr ⟨rfl, ih⟩
  | case1 | case3 | case4 | case6 => exact List.nil_prefix

theorem isBody_stringBody (text : List Char) : IsBody (stringBody text) := by
  fun_induction stringBody text with
  | case2 character rest newline ih => exact .escape newline ih
  | case5 character rest escape last plain ih =>
      refine .plain ?_ ih
      have noBackslash : character ≠ '\\' := by
        intro backslash
        cases rest with
        | nil => exact last backslash rfl
        | cons next others => exact escape next others backslash rfl
      simpa [noBackslash, not_or] using plain
  | case1 | case3 | case4 | case6 => exact .nil

/-- The body of a literal goes on up to its closing quote. -/
theorem IsBody.stringBody_eq {body : List Char} (isBody : IsBody body) (rest : List Char) :
    stringBody (body ++ '"' :: rest) = body := by
  induction isBody with
  | nil => rfl
  | @plain character body plain _ ih =>
      simp only [List.mem_cons, List.not_mem_nil, or_false, not_or] at plain
      rw [List.cons_append, stringBody, if_neg (by simp [plain]), ih]
      · simp [plain]
      · simp [plain]
  | @escape character body newline _ ih =>
      rw [List.cons_append, List.cons_append, stringBody, if_neg newline, ih]

/-- **A text literal is taken up to its closing quote**, and none other starts there. -/
theorem takes_scanString (rest : List Char) : Takes ('"' :: rest) (scanString rest) := by
  have body (other : List Char) (front : other <+: '"' :: rest) (isWord : IsWord other) :
      other = '"' :: (stringBody rest ++ ['"']) := by
    obtain ⟨tail', rfl, ⟨behind, rfl⟩, shape⟩ := isWord.shape_of_front front
    obtain ⟨body, isBody, rfl⟩ := shape.string_of_quote rfl
    rw [List.append_assoc, List.singleton_append, isBody.stringBody_eq]
  have front := List.prefix_iff_eq_append.mp (isPrefix_stringBody rest)
  rw [scanString]
  split
  · next behind closed =>
    have written := Written.string (isBody_stringBody rest)
    rw [List.cons_append]
    refine .word ⟨?_, ⟨_, written⟩, ?_⟩ written
    · rw [List.cons_prefix_cons]
      refine ⟨rfl, behind, ?_⟩
      rw [List.append_assoc, List.singleton_append, ← closed, front]
    · intro other front isWord
      rw [body other front isWord]
  · next unclosed =>
    refine .nothing _ fun other front' isWord => ?_
    obtain rfl := body other front' isWord
    obtain ⟨-, behind, closed⟩ := List.cons_prefix_cons.mp front'
    rw [List.append_assoc, List.singleton_append] at closed
    exact unclosed behind (List.append_cancel_left (front.trans closed.symm))

/-! ## Words and symbols -/

/-- A word of the language is one of the two truth values, or a name. -/
theorem written_ofWord {first : Char} {tail : List Char} (starts : startsName first = true)
    (onward : tail.all continuesName = true) :
    Written (first :: tail) (some (ofWord (first :: tail))) := by
  by_cases isTrue : first :: tail = ['t', 'r', 'u', 'e']
  · rw [isTrue]
    exact .truth true
  by_cases isFalse : first :: tail = ['f', 'a', 'l', 's', 'e']
  · rw [isFalse]
    exact .truth false
  rw [ofWord, if_neg isTrue, if_neg isFalse]
  exact .name ⟨starts, onward, isTrue, isFalse⟩

/-- **The longest name is taken**, which is one of the truth values only if the name is that. -/
theorem takes_word {first : Char} (starts : startsName first = true) (rest : List Char) :
    Takes (first :: rest) (.token (ofWord (first :: rest.takeWhile continuesName))
      (first :: rest.takeWhile continuesName)) := by
  have written := written_ofWord starts (List.all_takeWhile (l := rest) (p := continuesName))
  refine .word ⟨?_, ⟨_, written⟩, ?_⟩ written
  · exact List.cons_prefix_cons.mpr ⟨rfl, List.takeWhile_prefix _⟩
  · intro other front isWord
    obtain ⟨tail', rfl, within, shape⟩ := isWord.shape_of_front front
    have onward := List.all_eq_true.mp (shape.word_of_startsName starts)
    exact Nat.succ_le_succ (length_le_takeWhile onward within)

/-- A symbol is one of one character or one of two. -/
theorem characters_of_symbol {token : Token} (member : token ∈ symbols) :
    (∃ character, token.text.toList = [character] ∧ singleSymbol? character = some token) ∨
      ∃ character next, token.text.toList = [character, next] ∧
        doubleSymbol? character next = some token := by
  have each : ∀ token ∈ symbols,
      (token.text.toList.tail = [] ∧ token.text.toList.head?.bind singleSymbol? = some token) ∨
      (token.text.toList.tail.tail = [] ∧ (token.text.toList.head?.bind fun character =>
        token.text.toList.tail.head?.bind (doubleSymbol? character)) = some token) := by decide
  rcases each token member with ⟨last, found⟩ | ⟨last, found⟩
  · obtain ⟨character, first, found⟩ := Option.bind_eq_some_iff.mp found
    exact .inl ⟨character, (List.eq_cons_of_mem_head? first).trans (by rw [last]), found⟩
  · obtain ⟨character, first, found⟩ := Option.bind_eq_some_iff.mp found
    obtain ⟨next, second, found⟩ := Option.bind_eq_some_iff.mp found
    have behind := (List.eq_cons_of_mem_head? second).trans (by rw [last])
    exact .inr ⟨character, next, (List.eq_cons_of_mem_head? first).trans (by rw [behind]), found⟩

theorem mem_symbols_of_single {character : Char} {token : Token}
    (found : singleSymbol? character = some token) :
    token ∈ symbols ∧ token.text.toList = [character] := by
  unfold singleSymbol? at found
  split at found <;> cases found <;> exact ⟨by decide, rfl⟩

theorem mem_symbols_of_double {character next : Char} {token : Token}
    (found : doubleSymbol? character next = some token) :
    token ∈ symbols ∧ token.text.toList = [character, next] := by
  unfold doubleSymbol? at found
  split at found <;> cases found <;> exact ⟨by decide, rfl⟩

/-- **A symbol of two characters is taken before one of one.** -/
theorem takes_scanSymbol {character : Char} (noDigit : character.isDigit = false)
    (noQuote : character ≠ '"') (noName : startsName character = false) (rest : List Char) :
    Takes (character :: rest) (scanSymbol character rest) := by
  have symbolic (other : List Char) (front : other <+: character :: rest) (isWord : IsWord other) :
      (∃ token, other = [character] ∧ singleSymbol? character = some token) ∨
        ∃ next token, other = [character, next] ∧ rest.head? = some next ∧
          doubleSymbol? character next = some token := by
    obtain ⟨tail', rfl, ⟨behind, rfl⟩, shape⟩ := isWord.shape_of_front front
    obtain ⟨token, member, text⟩ := shape.symbol_of_other noDigit noQuote noName
    rcases characters_of_symbol member with ⟨single, written, found⟩ | ⟨first, next, written, found⟩
    · obtain ⟨rfl, rfl⟩ := List.cons.inj (text.symm.trans written)
      exact .inl ⟨token, rfl, found⟩
    · obtain ⟨rfl, rfl⟩ := List.cons.inj (text.symm.trans written)
      exact .inr ⟨next, token, rfl, rfl, found⟩
  rw [scanSymbol]
  split
  · next token found =>
    obtain ⟨next, first, double⟩ := Option.bind_eq_some_iff.mp found
    obtain ⟨behind, rfl⟩ : ∃ behind, rest = next :: behind := by
      cases rest with
      | nil => cases first
      | cons next behind => cases first; exact ⟨behind, rfl⟩
    obtain ⟨member, text⟩ := mem_symbols_of_double double
    have written := Written.symbol member
    rw [text] at written
    refine .word ⟨⟨behind, rfl⟩, ⟨_, written⟩, ?_⟩ written
    intro other front isWord
    rcases symbolic other front isWord with ⟨_, rfl, _⟩ | ⟨_, _, rfl, _⟩
    · exact Nat.le_succ 1
    · exact Nat.le_refl 2
  · next notDouble =>
    have single (other : List Char) (front : other <+: character :: rest) (isWord : IsWord other) :
        other = [character] ∧ (singleSymbol? character).isSome = true := by
      rcases symbolic other front isWord with ⟨token, same, found⟩ | ⟨next, token, _, first, found⟩
      · exact ⟨same, Option.isSome_of_mem found⟩
      · rw [first, Option.bind_some, found] at notDouble
        cases notDouble
    cases found : singleSymbol? character with
    | none =>
        refine .nothing _ fun other front isWord => ?_
        have some := (single other front isWord).2
        rw [found] at some
        cases some
    | some token =>
        obtain ⟨member, text⟩ := mem_symbols_of_single found
        have written := Written.symbol member
        rw [text] at written
        refine .word ⟨⟨rest, rfl⟩, ⟨_, written⟩, ?_⟩ written
        intro other front isWord
        rw [(single other front isWord).1]

/-- **The scanner takes the longest word off the front of a text.** -/
theorem takes_scan (first : Char) (rest : List Char) : Takes (first :: rest) (scan first rest) := by
  rw [scan]
  split
  · next digit => exact takes_scanNumber digit
  split
  · next quote => exact quote ▸ takes_scanString rest
  split
  · next starts => exact takes_word starts rest
  · next noDigit noQuote noName =>
    exact takes_scanSymbol (Bool.eq_false_iff.mpr noDigit) noQuote (Bool.eq_false_iff.mpr noName) rest

/-- **A token is scanned just where its word is the longest one.** -/
theorem scan_eq_token {first : Char} {token : Token} :
    scan first rest = .token token word ↔
      Longest (first :: rest) word ∧ Written word (some token) := by
  have takes := takes_scan first rest
  constructor
  · intro scanned
    generalize scan first rest = outcome at takes scanned
    cases takes with
    | @word _ value longest written =>
        cases value with
        | none => cases scanned
        | some token => cases scanned; exact ⟨longest, written⟩
    | nothing => cases scanned
  · rintro ⟨longest, written⟩
    generalize scan first rest = outcome at takes
    cases takes with
    | word longest' written' =>
        obtain rfl := longest'.unique longest
        rw [written'.unique written, valued]
    | nothing refused none => exact absurd longest.isWord (none _ longest.front)

/-- Where something is refused, the longest word, if there is any, is no token. -/
theorem not_written_of_refused {first : Char} {refused : List Char} {token : Token}
    (scanned : scan first rest = .refused refused) (longest : Longest (first :: rest) word) :
    ¬ Written word (some token) := fun written => by
  cases scanned.symm.trans (scan_eq_token.mpr ⟨longest, written⟩)

end CommentDirectives.Token
