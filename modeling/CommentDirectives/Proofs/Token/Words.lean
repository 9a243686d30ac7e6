import Mathlib.Data.List.TakeWhile
import CommentDirectives.Proofs.Token.Cutting

/-!
# The words of the language

The words that tokens are written with, form by form, each with the token that it stands for
(`Written`): numbers, text literals and names are told by what they are made of, symbols and the two
truth values by the text of the token.  A word can be without a value, such as an integer that 64
bits do not hold, and is then no token.

The forms are told apart by their first characters (`Shape`), but for those of numbers, and the token
of a word can be told from the word alone (`Written.reading_eq`), though a text can start with many
words (`Longest`).
-/

namespace CommentDirectives.Token

set_option autoImplicit false

/-! ## Words -/

/-- One or more decimal digits. -/
structure IsDigits (text : List Char) : Prop where
  present : text ≠ []
  each : ∀ digit ∈ text, digit.isDigit = true

/-- A point with digits behind it. -/
def IsFraction (text : List Char) : Prop := ∃ digits, IsDigits digits ∧ text = '.' :: digits

/-- The mark of an exponent, a sign if there is one, and digits. -/
def IsExponent (text : List Char) : Prop :=
  ∃ mark sign digits, (mark = 'e' ∨ mark = 'E') ∧ sign ∈ [[], ['+'], ['-']] ∧ IsDigits digits ∧
    text = mark :: (sign ++ digits)

/-- What stands between the quotes of a text literal: characters other than a quote, a backslash and
the end of a line, and backslashes with a character behind each. -/
inductive IsBody : List Char → Prop where
  | nil : IsBody []
  | plain {character : Char} {rest : List Char} : character ∉ ['"', '\\', '\n'] → IsBody rest →
      IsBody (character :: rest)
  | escape {character : Char} {rest : List Char} : character ≠ '\n' → IsBody rest →
      IsBody ('\\' :: character :: rest)

/-- The symbols of the language. -/
def symbols : List Token :=
  BinaryOperator.all.map Token.operator ++ [.bang, .openParen, .closeParen, .comma]

/-- A word of one of the forms, and the token that it stands for if it has a value.  The two truth
values have the form of names, and are none. -/
inductive Written : List Char → Option Token → Prop where
  | fractional {whole fraction exponent : List Char} : IsDigits whole → IsFraction fraction →
      (exponent = [] ∨ IsExponent exponent) →
      Written (whole ++ (fraction ++ exponent))
        ((Binary32.magnitude? (whole ++ (fraction ++ exponent))).map .float)
  | exponential {whole exponent : List Char} : IsDigits whole → IsExponent exponent →
      Written (whole ++ exponent) ((Binary32.magnitude? (whole ++ exponent)).map .float)
  | hexadecimal {mark : Char} {digits : List Char} : mark = 'x' ∨ mark = 'X' → digits ≠ [] →
      (∀ digit ∈ digits, isHexadecimal digit = true) →
      Written ('0' :: mark :: digits) ((IntegerText.hexadecimal? digits).map .int)
  | decimal {digits : List Char} : IsDigits digits →
      Written digits ((IntegerText.decimal? digits).map .int)
  | truth (truth : Bool) : Written (Token.bool truth).text.toList (some (.bool truth))
  | string {body : List Char} : IsBody body →
      Written ('"' :: (body ++ ['"']))
        ((unescape? body).map fun meant => .string (String.ofList meant))
  | name {name : List Char} : IsName name → Written name (some (.identifier (String.ofList name)))
  | symbol {token : Token} : token ∈ symbols → Written token.text.toList (some token)

/-- A word of one of the forms, whether it has a value or not. -/
def IsWord (text : List Char) : Prop := ∃ value, Written text value

/-- The longest word that a text starts with. -/
structure Longest (text word : List Char) : Prop where
  front : word <+: text
  isWord : IsWord word
  longest : ∀ other, other <+: text → IsWord other → other.length ≤ word.length

variable {text word rest : List Char} {value : Option Token}

/-- A text starts with one longest word at most. -/
theorem Longest.unique {other : List Char} (longest : Longest text word)
    (longest' : Longest text other) : word = other := by
  have same : word.length = other.length :=
    Nat.le_antisymm (longest'.longest word longest.front longest.isWord)
      (longest.longest other longest'.front longest'.isWord)
  exact (List.prefix_of_prefix_length_le longest.front longest'.front same.le).eq_of_length same

/-! ## First characters -/

/-- Symbols start with characters that start nothing else. -/
theorem first_of_symbol {token : Token} (member : token ∈ symbols) :
    ∃ first tail, token.text.toList = first :: tail ∧ first.isDigit = false ∧ first ≠ '"' ∧
      startsName first = false := by
  have each : ∀ token ∈ symbols, token.text.toList.head?.any
      (fun first => !first.isDigit && first != '"' && !startsName first) = true := by decide
  have starts := each token member
  cases written : token.text.toList with
  | nil =>
      rw [written] at starts
      cases starts
  | cons first tail =>
      rw [written] at starts
      simp only [List.head?_cons, Option.any_some, Bool.and_eq_true, Bool.not_eq_true',
        bne_iff_ne] at starts
      exact ⟨first, tail, rfl, starts.1.1, starts.1.2, starts.2⟩

/-- A number, in any of its forms but the hexadecimal one. -/
def IsNumeral (text : List Char) : Prop :=
  ∃ whole fraction exponent, IsDigits whole ∧ (fraction = [] ∨ IsFraction fraction) ∧
    (exponent = [] ∨ IsExponent exponent) ∧ text = whole ++ (fraction ++ exponent)

/-- A hexadecimal number. -/
def IsHexadecimal (text : List Char) : Prop :=
  ∃ mark digits, (mark = 'x' ∨ mark = 'X') ∧ digits ≠ [] ∧
    (∀ digit ∈ digits, isHexadecimal digit = true) ∧ text = '0' :: mark :: digits

/-- What words are made of, by their first characters. -/
inductive Shape : List Char → Prop where
  | number {first : Char} {tail : List Char} : first.isDigit = true →
      IsNumeral (first :: tail) ∨ IsHexadecimal (first :: tail) → Shape (first :: tail)
  | string {body : List Char} : IsBody body → Shape ('"' :: (body ++ ['"']))
  | word {first : Char} {tail : List Char} : startsName first = true →
      tail.all continuesName = true → Shape (first :: tail)
  | symbol {token : Token} : token ∈ symbols → Shape token.text.toList

theorem IsNumeral.shape (numeral : IsNumeral text) : Shape text := by
  obtain ⟨whole, fraction, exponent, isDigits, isFraction, isExponent, rfl⟩ := numeral
  cases whole with
  | nil => exact absurd rfl isDigits.present
  | cons first tail =>
      exact .number (isDigits.each first List.mem_cons_self)
        (.inl ⟨first :: tail, fraction, exponent, isDigits, isFraction, isExponent, rfl⟩)

/-- Every word has a shape. -/
theorem Written.shape (written : Written word value) : Shape word := by
  cases written with
  | @fractional whole fraction exponent isDigits isFraction isExponent =>
      exact IsNumeral.shape ⟨whole, fraction, exponent, isDigits, .inr isFraction, isExponent, rfl⟩
  | @exponential whole exponent isDigits isExponent =>
      exact IsNumeral.shape ⟨whole, [], exponent, isDigits, .inl rfl, .inr isExponent, rfl⟩
  | @decimal _ isDigits =>
      exact IsNumeral.shape ⟨word, [], [], isDigits, .inl rfl, .inl rfl, (List.append_nil _).symm⟩
  | @hexadecimal mark digits isMark present each =>
      exact .number rfl (.inr ⟨mark, digits, isMark, present, each, rfl⟩)
  | truth truth => cases truth <;> exact .word rfl rfl
  | string isBody => exact .string isBody
  | name isName =>
      obtain ⟨first, tail, rfl, starts, onward⟩ := isName.exists_first
      exact .word starts onward
  | symbol member => exact .symbol member

section First

variable {first : Char} {tail : List Char} (shape : Shape (first :: tail))
include shape

theorem Shape.number_of_isDigit (digit : first.isDigit = true) :
    IsNumeral (first :: tail) ∨ IsHexadecimal (first :: tail) := by
  generalize same : first :: tail = word at shape
  cases shape with
  | number _ isNumber => exact isNumber
  | string =>
      obtain ⟨rfl, -⟩ := List.cons.inj same
      cases digit
  | word starts =>
      obtain ⟨rfl, -⟩ := List.cons.inj same
      cases digit.symm.trans (isDigit_eq_false_of_startsName starts)
  | symbol member =>
      obtain ⟨first', tail', written, noDigit, -⟩ := first_of_symbol member
      obtain ⟨rfl, -⟩ := List.cons.inj (same.trans written)
      cases digit.symm.trans noDigit

theorem Shape.string_of_quote (quote : first = '"') :
    ∃ body, IsBody body ∧ tail = body ++ ['"'] := by
  subst quote
  generalize same : '"' :: tail = word at shape
  cases shape with
  | number digit =>
      obtain ⟨rfl, -⟩ := List.cons.inj same
      cases digit
  | @string body isBody => exact ⟨body, isBody, (List.cons.inj same).2⟩
  | word starts =>
      obtain ⟨rfl, -⟩ := List.cons.inj same
      exact absurd starts (by decide)
  | symbol member =>
      obtain ⟨first', tail', written, -, noQuote, -⟩ := first_of_symbol member
      exact absurd (List.cons.inj (same.trans written)).1.symm noQuote

theorem Shape.word_of_startsName (starts : startsName first = true) :
    tail.all continuesName = true := by
  generalize same : first :: tail = word at shape
  cases shape with
  | number digit =>
      obtain ⟨rfl, -⟩ := List.cons.inj same
      cases digit.symm.trans (isDigit_eq_false_of_startsName starts)
  | string =>
      obtain ⟨rfl, -⟩ := List.cons.inj same
      exact absurd starts (by decide)
  | word _ onward =>
      obtain ⟨-, rfl⟩ := List.cons.inj same
      exact onward
  | symbol member =>
      obtain ⟨first', tail', written, -, -, noName⟩ := first_of_symbol member
      obtain ⟨rfl, -⟩ := List.cons.inj (same.trans written)
      cases starts.symm.trans noName

theorem Shape.symbol_of_other (noDigit : first.isDigit = false) (noQuote : first ≠ '"')
    (noName : startsName first = false) : ∃ token ∈ symbols, token.text.toList = first :: tail := by
  generalize same : first :: tail = word at shape
  cases shape with
  | number digit =>
      obtain ⟨rfl, -⟩ := List.cons.inj same
      cases digit.symm.trans noDigit
  | string => exact absurd (List.cons.inj same).1 noQuote
  | word starts =>
      obtain ⟨rfl, -⟩ := List.cons.inj same
      cases starts.symm.trans noName
  | @symbol token member => exact ⟨token, member, rfl⟩

end First

/-- Words are not empty. -/
theorem Shape.exists_first (shape : Shape word) : ∃ first tail, word = first :: tail := by
  cases shape with
  | number | string | word => exact ⟨_, _, rfl⟩
  | symbol member =>
      obtain ⟨first, tail, written, -⟩ := first_of_symbol member
      exact ⟨first, tail, written⟩

/-- A word at the front of a text starts with its first character. -/
theorem IsWord.shape_of_front {first : Char} {tail : List Char} (isWord : IsWord word)
    (front : word <+: first :: tail) :
    ∃ tail', word = first :: tail' ∧ tail' <+: tail ∧ Shape (first :: tail') := by
  obtain ⟨value, written⟩ := isWord
  have shape := written.shape
  obtain ⟨first', tail', rfl⟩ := shape.exists_first
  obtain ⟨rfl, within⟩ := List.cons_prefix_cons.mp front
  exact ⟨tail', rfl, within, shape⟩

/-! ## The token that a word stands for -/

/-- The token of a word, told from the word alone: a number is an integer if it is all digits or
hexadecimal. -/
def reading : List Char → Option Token
  | [] => none
  | first :: tail =>
    if first.isDigit then
      if tail.all Char.isDigit then (IntegerText.decimal? (first :: tail)).map .int
      else
        match hexadecimalPart (first :: tail) with
        | [] => (Binary32.magnitude? (first :: tail)).map .float
        | digits => (IntegerText.hexadecimal? digits).map .int
    else if first = '"' then
      (unescape? tail.dropLast).map fun meant => .string (String.ofList meant)
    else if startsName first then some (ofWord (first :: tail))
    else symbols.find? fun token => token.text.toList == first :: tail

/-- What hexadecimal digits stand behind, unless there are none. -/
theorem hexadecimalPart_cases (text : List Char) :
    hexadecimalPart text = [] ∨ ∃ mark rest, text = '0' :: mark :: rest ∧ (mark = 'x' ∨ mark = 'X') ∧
      rest.takeWhile isHexadecimal ≠ [] ∧ hexadecimalPart text = rest.takeWhile isHexadecimal := by
  unfold hexadecimalPart
  split
  · next rest =>
    cases taken : rest.takeWhile isHexadecimal with
    | nil => exact .inl rfl
    | cons => exact .inr ⟨'x', rest, rfl, .inl rfl, taken ▸ nofun, taken.symm⟩
  · next rest =>
    cases taken : rest.takeWhile isHexadecimal with
    | nil => exact .inl rfl
    | cons => exact .inr ⟨'X', rest, rfl, .inr rfl, taken ▸ nofun, taken.symm⟩
  · exact .inl rfl

/-- A number does not start with a hexadecimal mark behind its first digit. -/
theorem IsNumeral.not_mark {first mark : Char} (isNumeral : IsNumeral (first :: mark :: rest)) :
    ¬ (mark = 'x' ∨ mark = 'X') := by
  obtain ⟨whole, fraction, exponent, isDigits, isFraction, isExponent, same⟩ := isNumeral
  have isDigit : mark.isDigit = true ∨ mark = '.' ∨ mark = 'e' ∨ mark = 'E' := by
    cases whole with
    | nil => exact absurd rfl isDigits.present
    | cons digit digits =>
        obtain ⟨-, same⟩ := List.cons.inj same
        cases digits with
        | cons next digits =>
            obtain ⟨rfl, -⟩ := List.cons.inj same
            exact .inl (isDigits.each mark (.tail _ (.head _)))
        | nil =>
            rcases isFraction with rfl | ⟨digits, -, rfl⟩
            · rcases isExponent with rfl | ⟨_, sign, digits, isMark, -, -, rfl⟩
              · cases same
              · obtain ⟨rfl, -⟩ := List.cons.inj same
                exact .inr (.inr isMark)
            · exact .inr (.inl (List.cons.inj same).1)
  rintro (rfl | rfl) <;> revert isDigit <;> decide

/-- A number with a fraction or an exponent is read as one of single precision. -/
theorem reading_of_numeral (isNumeral : IsNumeral word)
    (further : ∃ character ∈ word, character.isDigit = false) :
    reading word = (Binary32.magnitude? word).map .float := by
  have decimal : hexadecimalPart word = [] := by
    rcases hexadecimalPart_cases word with decimal | ⟨mark, rest, same, isMark, -, -⟩
    · exact decimal
    · exact absurd isMark (same ▸ isNumeral).not_mark
  have shape := isNumeral.shape
  obtain ⟨whole, fraction, exponent, isDigits, -, -, same⟩ := isNumeral
  cases word with
  | nil =>
      obtain ⟨_, member, _⟩ := further
      cases member
  | cons first tail =>
      have digit : first.isDigit = true := by
        cases whole with
        | nil => exact absurd rfl isDigits.present
        | cons digit digits =>
            obtain ⟨rfl, -⟩ := List.cons.inj same
            exact isDigits.each first List.mem_cons_self
      have notAll : tail.all Char.isDigit ≠ true := by
        intro all
        obtain ⟨character, member, noDigit⟩ := further
        rcases List.mem_cons.mp member with rfl | member
        · cases digit.symm.trans noDigit
        · cases (List.all_eq_true.mp all character member).symm.trans noDigit
      rw [reading, if_pos digit, if_neg notAll, decimal]

/-- **The token of a word can be told from the word.** -/
theorem Written.reading_eq (written : Written word value) : reading word = value := by
  cases written with
  | @fractional whole fraction exponent isDigits isFraction isExponent =>
      refine reading_of_numeral ⟨whole, fraction, exponent, isDigits, .inr isFraction, isExponent,
        rfl⟩ ⟨'.', ?_, rfl⟩
      obtain ⟨digits, -, rfl⟩ := isFraction
      simp
  | @exponential whole exponent isDigits isExponent =>
      have isNumeral : IsNumeral (whole ++ exponent) :=
        ⟨whole, [], exponent, isDigits, .inl rfl, .inr isExponent, rfl⟩
      obtain ⟨mark, sign, digits, isMark, -, -, rfl⟩ := isExponent
      refine reading_of_numeral isNumeral ⟨mark, by simp, ?_⟩
      rcases isMark with rfl | rfl <;> rfl
  | @hexadecimal mark digits isMark present each =>
      have taken : hexadecimalPart ('0' :: mark :: digits) = digits := by
        have all : digits.takeWhile Token.isHexadecimal = digits :=
          List.takeWhile_eq_self_iff.mpr each
        rcases isMark with rfl | rfl <;> exact all
      have noDigit : mark.isDigit = false := by rcases isMark with rfl | rfl <;> rfl
      rw [reading, if_pos (by decide), if_neg (by simp [noDigit]), taken]
      cases digits with
      | nil => exact absurd rfl present
      | cons => rfl
  | @decimal _ isDigits =>
      cases word with
      | nil => exact absurd rfl isDigits.present
      | cons first tail =>
          have all : tail.all Char.isDigit = true :=
            List.all_eq_true.mpr fun digit member => isDigits.each digit (.tail _ member)
          rw [reading, if_pos (isDigits.each first List.mem_cons_self), if_pos all]
  | truth truth => cases truth <;> rfl
  | @string body isBody =>
      rw [reading, if_neg (by decide), if_pos rfl, List.dropLast_concat]
  | name isName =>
      obtain ⟨first, tail, rfl, starts, onward⟩ := isName.exists_first
      have noQuote : first ≠ '"' := by
        rintro rfl
        exact absurd starts (by decide)
      rw [reading, if_neg (Bool.eq_false_iff.mp (isDigit_eq_false_of_startsName starts)),
        if_neg noQuote, if_pos starts, ofWord, if_neg isName.notTrue, if_neg isName.notFalse]
  | @symbol token member =>
      have each : ∀ token ∈ symbols, reading token.text.toList = some token := by decide
      exact each token member

/-- A word stands for one token at most. -/
theorem Written.unique {value' : Option Token} (written : Written word value)
    (written' : Written word value') : value = value' :=
  written.reading_eq.symm.trans written'.reading_eq

end CommentDirectives.Token
