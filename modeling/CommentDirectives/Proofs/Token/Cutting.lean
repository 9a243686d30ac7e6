import Mathlib.Data.List.Basic
import CommentDirectives.Proofs.Number.Decimal
import CommentDirectives.Token.Lexer

/-!
# Texts that are cut piece by piece

A piece of a text is cut into some tokens in front of what follows (`Cut`) if the tokens of both are
those of the piece and then those of what follows.  Pieces are joined, a blank is a piece without
tokens, and what is scanned as a token is a piece of its own.

A token is shown as a text, and this text is cut into the token alone (`cut_text`).  This needs two
things: the token is shown in the words of the language (`Printable`), as numbers below zero and
characters that are quoted by their number are not, and what follows cannot be taken for a part of
it (`Apart`).

Offsets follow from the lengths of the pieces, so that most statements are about the kind of the
tokens alone (`CutAs`).
-/

namespace CommentDirectives

set_option autoImplicit false

/-- A character that is quoted as itself or by one of the short escapes. -/
def Text.ShortlyQuoted (character : Char) : Prop :=
  quoteCharacter character = [character] ∨
    quoteCharacter character ∈ ['n', 'r', 't', '0', '\\', '"'].map fun mark => ['\\', mark]

instance (character : Char) : Decidable (Text.ShortlyQuoted character) :=
  inferInstanceAs (Decidable (_ ∨ _))

/-- Characters without a short escape are quoted as themselves or by their number. -/
theorem Text.quoteCharacter_of_not_mem {character : Char}
    (plain : character ∉ ['\x00', '\t', '\r', '\n', '"', '\\']) :
    quoteCharacter character =
      if isUnprintable character then
        ['\\', 'u', '\x7b'] ++ hexadecimalDigits character.toNat ++ ['\x7d']
      else [character] := by
  unfold quoteCharacter
  split <;> first | rfl | exact absurd (by decide) plain

/-- The forms in which a character can stand inside the quotes of a literal: itself, or a backslash
and a mark. -/
inductive Token.StandsFor (character : Char) : List Char → Prop where
  | itself : character ∉ ['"', '\\', '\n'] → StandsFor character [character]
  | escaped {mark : Char} : mark ≠ '\n' → escaped? mark = some character →
      StandsFor character ['\\', mark]

/-- What is quoted as itself has no meaning of its own inside quotes, and a short escape is that of
the character. -/
theorem Text.ShortlyQuoted.standsFor {character : Char} (short : ShortlyQuoted character) :
    Token.StandsFor character (quoteCharacter character) := by
  by_cases special : character ∈ ['\x00', '\t', '\r', '\n', '"', '\\']
  · simp only [List.mem_cons, List.not_mem_nil, or_false] at special
    rcases special with rfl | rfl | rfl | rfl | rfl | rfl <;> exact .escaped (by decide) rfl
  · rw [ShortlyQuoted, quoteCharacter_of_not_mem special] at short
    rw [quoteCharacter_of_not_mem special]
    split at short
    · simp at short
    · next printable =>
      rw [if_neg printable]
      refine .itself fun meant => special ?_
      simp only [List.mem_cons, List.not_mem_nil, or_false] at meant ⊢
      rcases meant with rfl | rfl | rfl <;> simp

namespace Token

/-! ## Pieces of a text -/

/-- A piece of a text is cut into some tokens in front of what follows. -/
def Cut (piece : List Char) (offset : Nat) (lexemes : List Lexeme) (rest : List Char) : Prop :=
  lexemesFrom 0 offset (piece ++ rest) =
    (lexemesFrom 0 (offset + (piece.map Char.utf8Size).sum) rest).map (lexemes ++ ·)

variable {piece piece' rest : List Char} {offset : Nat} {lexemes lexemes' : List Lexeme}

/-- The tokens of a whole text that is one piece. -/
theorem Cut.sequence_eq {source : String} (cut : Cut source.toList 0 lexemes []) :
    sequence source = .ok ⟨lexemes, source.utf8ByteSize⟩ := by
  rw [Cut, List.append_nil] at cut
  rw [sequence, cut]
  simp [lexemesFrom, Except.map]

/-- A piece without characters has no tokens. -/
theorem cut_nil (offset : Nat) (rest : List Char) : Cut [] offset [] rest := by
  rw [Cut, List.nil_append, List.map_nil, List.sum_nil, Nat.add_zero]
  cases lexemesFrom 0 offset rest <;> rfl

/-- Two pieces are cut one after the other. -/
theorem Cut.append (first : Cut piece offset lexemes (piece' ++ rest))
    (second : Cut piece' (offset + (piece.map Char.utf8Size).sum) lexemes' rest) :
    Cut (piece ++ piece') offset (lexemes ++ lexemes') rest := by
  rw [Cut] at first second ⊢
  rw [List.append_assoc, first, second, List.map_append, List.sum_append, Nat.add_assoc]
  cases lexemesFrom 0 _ rest <;> simp [Except.map]

/-- A blank between tokens is dropped. -/
theorem cut_blank {blank : Char} (isBlank : isTokenBlank blank = true) (offset : Nat)
    (rest : List Char) : Cut [blank] offset [] rest := by
  have next : offset + ([blank].map Char.utf8Size).sum = offset + blank.utf8Size := by simp
  rw [Cut, List.singleton_append, lexemesFrom, next]
  simp only [isBlank, if_true]
  cases lexemesFrom 0 (offset + blank.utf8Size) rest <;> rfl

/-- The characters of a token that has been read are counted off. -/
theorem lexemesFrom_skipped (piece : List Char) (offset : Nat) (rest : List Char) :
    lexemesFrom piece.length offset (piece ++ rest) =
      lexemesFrom 0 (offset + (piece.map Char.utf8Size).sum) rest := by
  induction piece generalizing offset with
  | nil => rfl
  | cons character piece ih =>
      have onward := ih (offset + character.utf8Size)
      rw [Nat.add_assoc] at onward
      rw [List.cons_append, List.length_cons, lexemesFrom, onward, List.map_cons, List.sum_cons]

/-- A blank is not the start of a token. -/
theorem scan_blank {blank : Char} (isBlank : isTokenBlank blank = true) (rest : List Char) :
    scan blank rest = .refused [blank] := by
  simp only [isTokenBlank, Bool.or_eq_true, beq_iff_eq] at isBlank
  rcases isBlank with (((rfl | rfl) | rfl) | rfl) | rfl <;> cases rest <;> rfl

/-- **What is scanned as a token is cut into it.** -/
theorem cut_of_scan {first : Char} {tail : List Char} {token : Token}
    (scanned : scan first (tail ++ rest) = .token token (first :: tail)) (offset : Nat) :
    Cut (first :: tail) offset [⟨token, offset⟩] rest := by
  have visible : isTokenBlank first = false := by
    by_contra isBlank
    rw [scan_blank (Bool.not_eq_false _ ▸ isBlank)] at scanned
    cases scanned
  have onward := lexemesFrom_skipped tail (offset + first.utf8Size) rest
  rw [Nat.add_assoc] at onward
  rw [Cut, List.cons_append, lexemesFrom]
  simp only [visible, Bool.false_eq_true, if_false, scanned, List.length_cons,
    Nat.add_sub_cancel, onward, List.map_cons, List.sum_cons]
  cases lexemesFrom 0 _ rest <;> rfl

/-! ## Numbers -/

/-- Where a number or a name ends: at the end of the text, or in front of a character that goes on
neither. -/
def Ends (rest : List Char) : Prop := ∀ next ∈ rest.head?, continuesName next = false

theorem ends_cons {next : Char} (stops : continuesName next = false) (others : List Char) :
    Ends (next :: others) := by
  rintro _ ⟨⟩
  exact stops

/-- Where a name would end, there is no further digit. -/
theorem Ends.isDigit_eq_false (ends : Ends rest) : ∀ next ∈ rest.head?, next.isDigit = false := by
  intro next first
  have apart := ends next first
  simp only [continuesName, Char.isAlphanum, Bool.or_eq_false_iff] at apart
  exact apart.1.1.2

/-- Characters of a kind in front of one that is of another kind. -/
theorem takeWhile_append_of_stops {p : Char → Bool} {word : List Char}
    (each : ∀ character ∈ word, p character = true)
    (stops : ∀ next ∈ rest.head?, p next = false) : (word ++ rest).takeWhile p = word := by
  rw [List.takeWhile_append_of_pos each]
  cases rest with
  | nil => rw [List.takeWhile_nil, List.append_nil]
  | cons next others =>
      rw [List.takeWhile_cons_of_neg (Bool.eq_false_iff.mp (stops next rfl)), List.append_nil]

theorem fractionPart_of_ends (ends : Ends rest) : fractionPart rest = [] := by
  unfold fractionPart
  split
  · exact absurd (ends '.' rfl) (by decide)
  · rfl

theorem exponentPart_of_ends (ends : Ends rest) : exponentPart rest = [] := by
  cases rest with
  | nil => rfl
  | cons next others =>
      have apart := ends next rfl
      rw [exponentPart, if_neg]
      rintro (rfl | rfl) <;> exact absurd apart (by decide)

section Digits

variable {digits : List Char} (each : ∀ digit ∈ digits, digit.isDigit = true) (ends : Ends rest)
include each ends

/-- Digits do not start with a hexadecimal mark: behind the first one comes another, or the end. -/
theorem hexadecimalPart_of_digits (present : digits ≠ []) :
    hexadecimalPart (digits ++ rest) = [] := by
  have second {first mark : Char} {others : List Char}
      (same : digits ++ rest = first :: mark :: others) :
      mark.isDigit = true ∨ continuesName mark = false := by
    cases digits with
    | nil => exact absurd rfl present
    | cons digit digits =>
        obtain ⟨_, behind⟩ := List.cons.inj same
        cases digits with
        | nil =>
            obtain rfl : rest = mark :: others := behind
            exact .inr (ends mark rfl)
        | cons next digits =>
            obtain ⟨rfl, _⟩ := List.cons.inj behind
            exact .inl (each next (List.mem_cons_of_mem _ List.mem_cons_self))
  unfold hexadecimalPart
  split
  · next same => exact absurd (second same) (by decide)
  · next same => exact absurd (second same) (by decide)
  · rfl

/-- **Digits in front of what ends a number are an integer.** -/
theorem scanNumber_of_digits {number : Int64}
    (reads : IntegerText.decimal? digits = some number) :
    scanNumber (digits ++ rest) = .token (.int number) digits := by
  have present : digits ≠ [] := by
    rintro rfl
    cases reads
  have whole := takeWhile_append_of_stops each ends.isDigit_eq_false
  rw [scanNumber, hexadecimalPart_of_digits each ends present]
  simp [whole, fractionPart_of_ends ends, exponentPart_of_ends ends, reads, valued]

end Digits

/-! ## Texts -/

variable {character : Char} {form : List Char}

/-- What stands inside quotes for a character is part of the literal. -/
theorem StandsFor.stringBody_append (stands : StandsFor character form) (rest : List Char) :
    stringBody (form ++ rest) = form ++ stringBody rest := by
  cases stands with
  | itself plain =>
      simp only [List.mem_cons, List.not_mem_nil, or_false, not_or] at plain
      rw [List.singleton_append, stringBody]
      · rw [if_neg (by simp [plain]), List.singleton_append]
      · simp [plain]
      · simp [plain]
  | escaped newline _ =>
      simp only [List.cons_append, List.nil_append]
      rw [stringBody, if_neg newline]

/-- What stands inside quotes for a character is read as the character. -/
theorem StandsFor.unescape?_append (stands : StandsFor character form) (rest : List Char) :
    unescape? (form ++ rest) = (unescape? rest).map (character :: ·) := by
  cases stands with
  | itself plain =>
      simp only [List.mem_cons, List.not_mem_nil, or_false, not_or] at plain
      rw [List.singleton_append, unescape?]
      · simp [plain]
      · simp [plain]
  | escaped _ meant =>
      simp only [List.cons_append, List.nil_append]
      rw [unescape?, meant]

variable {text : List Char} {spell : Char → List Char}

/-- The body of a literal for a text ends at the closing quote. -/
theorem stringBody_spelled (stands : ∀ character ∈ text, StandsFor character (spell character))
    (rest : List Char) : stringBody (text.flatMap spell ++ '"' :: rest) = text.flatMap spell := by
  induction text with
  | nil => rfl
  | cons character text ih =>
      have first := stands character List.mem_cons_self
      have onward := ih fun other member => stands other (List.mem_cons_of_mem _ member)
      rw [List.flatMap_cons, List.append_assoc, first.stringBody_append, onward]

/-- The body of a literal for a text stands for the text. -/
theorem unescape?_spelled (stands : ∀ character ∈ text, StandsFor character (spell character)) :
    unescape? (text.flatMap spell) = some text := by
  induction text with
  | nil => rfl
  | cons character text ih =>
      have first := stands character List.mem_cons_self
      have onward := ih fun other member => stands other (List.mem_cons_of_mem _ member)
      rw [List.flatMap_cons, first.unescape?_append, onward, Option.map_some]

/-- **A text is read back from the forms that stand for its characters.** -/
theorem scan_spelled (stands : ∀ character ∈ text, StandsFor character (spell character))
    (rest : List Char) :
    scan '"' (text.flatMap spell ++ ['"'] ++ rest) =
      .token (.string (String.ofList text)) ('"' :: (text.flatMap spell ++ ['"'])) := by
  have body := stringBody_spelled stands rest
  have meant := unescape?_spelled stands
  have quotes : scan '"' (text.flatMap spell ++ ['"'] ++ rest) =
      scanString (text.flatMap spell ++ '"' :: rest) := by
    rw [List.append_assoc, List.singleton_append]
    rfl
  rw [quotes, scanString]
  simp [body, meant, valued]

/-! ## Words and symbols -/

/-- A name of the language that is not one of the two truth values. -/
structure IsName (name : List Char) : Prop where
  start : name.head?.any startsName = true
  onward : name.tail.all continuesName = true
  notTrue : name ≠ ['t', 'r', 'u', 'e']
  notFalse : name ≠ ['f', 'a', 'l', 's', 'e']

instance (name : List Char) : Decidable (IsName name) :=
  decidable_of_iff
    (name.head?.any startsName = true ∧ name.tail.all continuesName = true ∧
      name ≠ ['t', 'r', 'u', 'e'] ∧ name ≠ ['f', 'a', 'l', 's', 'e'])
    ⟨fun ⟨start, onward, notTrue, notFalse⟩ => ⟨start, onward, notTrue, notFalse⟩,
      fun name => ⟨name.start, name.onward, name.notTrue, name.notFalse⟩⟩

/-- The first character of a name, and those behind it. -/
theorem IsName.exists_first {name : List Char} (isName : IsName name) :
    ∃ first tail, name = first :: tail ∧ startsName first = true ∧
      tail.all continuesName = true := by
  cases name with
  | nil => cases isName.start
  | cons first tail => exact ⟨first, tail, rfl, isName.start, isName.onward⟩

/-- Names do not start with a digit. -/
theorem isDigit_eq_false_of_startsName {first : Char} (starts : startsName first = true) :
    first.isDigit = false := by
  unfold startsName Char.isAlpha Char.isUpper Char.isLower at starts
  simp only [Char.isDigit, Bool.or_eq_true, Bool.and_eq_true, Bool.and_eq_false_imp,
    decide_eq_true_eq, decide_eq_false_iff_not, ge_iff_le, UInt32.le_iff_toNat_le,
    beq_iff_eq] at starts ⊢
  rcases starts with letter | rfl
  · rintro -
    have nine : '9'.val.toNat = 57 := rfl
    have upper : 'A'.val.toNat = 65 := rfl
    have lower : 'a'.val.toNat = 97 := rfl
    omega
  · decide

/-- A word is scanned up to its end. -/
theorem scan_word {first : Char} {tail : List Char} (starts : startsName first = true)
    (onward : tail.all continuesName = true) (ends : Ends rest) :
    scan first (tail ++ rest) = .token (ofWord (first :: tail)) (first :: tail) := by
  have noDigit := isDigit_eq_false_of_startsName starts
  have noQuote : first ≠ '"' := by
    rintro rfl
    exact absurd starts (by decide)
  have word := takeWhile_append_of_stops (List.all_eq_true.mp onward) ends
  rw [scan, if_neg (Bool.eq_false_iff.mp noDigit), if_neg noQuote, if_pos starts, word]

/-- The characters that are symbols start nothing else. -/
theorem scan_symbol {character : Char} (symbol : (singleSymbol? character).isSome = true)
    (rest : List Char) : scan character rest = scanSymbol character rest := by
  unfold singleSymbol? at symbol
  split at symbol <;> first | rfl | cases symbol

/-- Of the symbols that are one character, none is part of a longer one in front of anything but an
equals sign. -/
theorem doubleSymbol?_eq_none {character next : Char}
    (symbol : (singleSymbol? character).isSome = true) (apart : next ≠ '=') :
    doubleSymbol? character next = none := by
  unfold doubleSymbol?
  split <;> first | rfl | contradiction

/-- A symbol of one character is cut off in front of what does not make it one of two. -/
theorem cut_single {character : Char} {token : Token}
    (symbol : singleSymbol? character = some token)
    (single : ∀ next ∈ rest.head?, doubleSymbol? character next = none) (offset : Nat) :
    Cut [character] offset [⟨token, offset⟩] rest := by
  have apart : rest.head?.bind (doubleSymbol? character) = none := by
    cases rest with
    | nil => rfl
    | cons next others => exact single next rfl
  refine cut_of_scan ?_ offset
  rw [List.nil_append, scan_symbol (Option.isSome_of_mem symbol), scanSymbol, apart, symbol]
  rfl

/-! ## Tokens by their texts -/

/-- Tokens that are shown in the words of the language. -/
def Printable : Token → Prop
  | .float _ => False
  | .int number => 0 ≤ number
  | .string text => ∀ character ∈ text.toList, Text.ShortlyQuoted character
  | .identifier name => IsName name.toList
  | .bool _ | .operator _ | .bang | .openParen | .closeParen | .comma => True

/-- What can stand behind a token without being taken for a part of it. -/
def Apart (rest : List Char) : Token → Prop
  | .float _ | .int _ | .bool _ | .identifier _ => Ends rest
  | .operator _ | .bang => ∀ next ∈ rest.head?, next ≠ '='
  | .string _ | .openParen | .closeParen | .comma => True

/-- But for operators, the text of a token does not start with an equals sign. -/
theorem exists_first_text {token : Token} (printable : token.Printable)
    (other : ∀ symbol, token ≠ .operator symbol) :
    ∃ first tail, token.text.toList = first :: tail ∧ first ≠ '=' := by
  cases token with
  | float => exact printable.elim
  | operator symbol => exact absurd rfl (other symbol)
  | int number =>
      obtain ⟨first, tail, written, digit⟩ := IntegerText.exists_first_digit number.toInt.toNat
      refine ⟨first, tail, (IntegerText.toList_text printable).trans written, ?_⟩
      rintro rfl
      exact absurd digit (by decide)
  | identifier name =>
      have isName : IsName name.toList := printable
      obtain ⟨first, tail, written, starts, _⟩ := isName.exists_first
      refine ⟨first, tail, written, ?_⟩
      rintro rfl
      exact absurd starts (by decide)
  | bool truth => cases truth <;> exact ⟨_, _, rfl, by decide⟩
  | string text =>
      refine ⟨'"', text.toList.flatMap Text.quoteCharacter ++ ['"'], ?_, by decide⟩
      rw [Token.text, Text.quoted, String.toList_ofList, Text.quote, List.cons_append]
  | bang | openParen | closeParen | comma => exact ⟨_, _, rfl, by decide⟩

/-- **The text of a token is cut into the token.** -/
theorem cut_text (token : Token) (printable : token.Printable) (apart : token.Apart rest)
    (offset : Nat) : Cut token.text.toList offset [⟨token, offset⟩] rest := by
  cases token with
  | float => exact printable.elim
  | int number =>
      have scanned := scanNumber_of_digits IntegerText.isDigit_of_mem_toDigits apart
        (IntegerText.decimal?_toDigits printable)
      obtain ⟨first, tail, written, digit⟩ := IntegerText.exists_first_digit number.toInt.toNat
      rw [Token.text, IntegerText.toList_text printable]
      rw [written] at scanned ⊢
      refine cut_of_scan ?_ offset
      rw [scan, if_pos digit]
      exact scanned
  | bool truth =>
      cases truth with
      | true => exact cut_of_scan (scan_word (by decide) (by decide) apart) offset
      | false => exact cut_of_scan (scan_word (by decide) (by decide) apart) offset
  | string text =>
      have scanned := scan_spelled (fun character member => (printable character member).standsFor)
        rest
      rw [String.ofList_toList] at scanned
      rw [Token.text, Text.quoted, String.toList_ofList]
      exact cut_of_scan scanned offset
  | identifier name =>
      have isName : IsName name.toList := printable
      obtain ⟨first, tail, written, starts, onward⟩ := isName.exists_first
      have word : ofWord name.toList = .identifier name := by
        rw [ofWord, if_neg isName.notTrue, if_neg isName.notFalse, String.ofList_toList]
      rw [Token.text, ← word, written]
      exact cut_of_scan (scan_word starts onward apart) offset
  | operator symbol =>
      cases symbol with
      | equal | notEqual | lessEqual | greaterEqual | and | or => exact cut_of_scan rfl offset
      | add | subtract | multiply | divide | remainder | less | greater | xor =>
          exact cut_single rfl (fun next first => doubleSymbol?_eq_none rfl (apart next first))
            offset
  | bang =>
      exact cut_single rfl (fun next first => doubleSymbol?_eq_none rfl (apart next first)) offset
  | openParen | closeParen | comma => exact cut_single rfl (fun _ _ => rfl) offset

/-! ## Kinds of tokens -/

/-- Wherever a piece starts, it is cut into tokens of some kind in front of what follows. -/
def CutAs (kind : List Lexeme → Prop) (piece rest : List Char) : Prop :=
  ∀ offset, ∃ lexemes, Cut piece offset lexemes rest ∧ kind lexemes

variable {kind kind' : List Lexeme → Prop}

theorem CutAs.mono (cut : CutAs kind piece rest)
    (wider : ∀ lexemes, kind lexemes → kind' lexemes) : CutAs kind' piece rest := by
  intro offset
  obtain ⟨lexemes, isCut, isKind⟩ := cut offset
  exact ⟨lexemes, isCut, wider lexemes isKind⟩

/-- Two pieces are cut into tokens of their kinds. -/
theorem CutAs.append (first : CutAs kind piece (piece' ++ rest)) (second : CutAs kind' piece' rest) :
    CutAs (fun lexemes => ∃ before behind, lexemes = before ++ behind ∧ kind before ∧ kind' behind)
      (piece ++ piece') rest := by
  intro offset
  obtain ⟨before, cutBefore, isKind⟩ := first offset
  obtain ⟨behind, cutBehind, isKind'⟩ := second (offset + (piece.map Char.utf8Size).sum)
  exact ⟨before ++ behind, cutBefore.append cutBehind, before, behind, rfl, isKind, isKind'⟩

/-- A token in front of a piece. -/
theorem CutAs.cons (token : Token) (printable : token.Printable)
    (apart : token.Apart (piece ++ rest)) (cut : CutAs kind piece rest) :
    CutAs (fun lexemes => ∃ offset behind, lexemes = ⟨token, offset⟩ :: behind ∧ kind behind)
      (token.text.toList ++ piece) rest := by
  intro offset
  obtain ⟨behind, isCut, isKind⟩ := cut (offset + (token.text.toList.map Char.utf8Size).sum)
  exact ⟨_, (cut_text token printable apart offset).append isCut, offset, behind, rfl, isKind⟩

/-- A blank in front of a piece. -/
theorem CutAs.behindBlank (cut : CutAs kind piece rest) : CutAs kind (' ' :: piece) rest := by
  intro offset
  obtain ⟨lexemes, isCut, isKind⟩ := cut (offset + ([' '].map Char.utf8Size).sum)
  exact ⟨lexemes, (cut_blank rfl offset (piece ++ rest)).append isCut, isKind⟩

/-- A piece in parentheses. -/
theorem CutAs.parens (cut : CutAs kind piece (')' :: rest)) :
    CutAs (fun lexemes => ∃ opened inner closed,
        lexemes = ⟨.openParen, opened⟩ :: (inner ++ [⟨.closeParen, closed⟩]) ∧ kind inner)
      ('(' :: (piece ++ [')'])) rest := by
  have closing : CutAs (fun lexemes => ∃ closed, lexemes = [⟨.closeParen, closed⟩]) [')'] rest :=
    fun offset => ⟨_, cut_text .closeParen trivial trivial offset, offset, rfl⟩
  refine (CutAs.cons .openParen trivial trivial (cut.append closing)).mono ?_
  rintro _ ⟨opened, _, rfl, inner, _, rfl, isKind, closed, rfl⟩
  exact ⟨opened, inner, closed, rfl, isKind⟩

end Token

end CommentDirectives
