import Mathlib
import CommentDirectives.Evaluation.Functions
import CommentDirectives.Proofs.Number.Notation
import CommentDirectives.Proofs.Token.Cutting

/-!
# Escaped texts read back

A text that is escaped as the body of a Java string literal has no control characters, no quote that
could end the literal, and is read back by the rules of such literals (`Text.javaUnescape?`).  Each
character is escaped in one of three forms (`Text.JavaForm`), and what these statements need is shown
for each form in front of an arbitrary rest.

A quote cannot end the literal if an odd number of backslashes stands directly in front of it.  To tell
this number it is not enough to look at the form of the quote, since backslashes of the characters in
front of it come before its own; but each form ends with an even number of them
(`Text.even_finalBackslashes`).

The lexer of expressions knows other escapes.  Both agree on the short escapes but two, so that a text
whose control characters are ends of lines and tabs is also read back from a literal of the language
(`Builtin.str2java_faithful`).
-/

namespace CommentDirectives

set_option autoImplicit false

namespace Text

/-! ## The escapes of Java -/

/-- The short escapes: a mark, and the character that a backslash in front of it stands for. -/
def javaMarks : List (Char × Char) :=
  [('"', '"'), ('\'', '\''), ('\\', '\\'), ('n', '\n'), ('r', '\r'), ('t', '\t'), ('b', '\x08'),
    ('f', '\x0c')]

/-- The character with the number that some hexadecimal digits write, if there is such a character. -/
def numberedCharacter? (digits : List Char) : Option Char :=
  (IntegerText.natural? 16 digits).bind fun number =>
    if number.isValidChar then some (Char.ofNat number) else none

/-- The text that the body of a Java string literal stands for, unless it has an unknown or an
unfinished escape. -/
def javaUnescape? : List Char → Option (List Char)
  | [] => some []
  | '\\' :: 'u' :: first :: second :: third :: fourth :: rest =>
    (numberedCharacter? [first, second, third, fourth]).bind fun character =>
      (javaUnescape? rest).map (character :: ·)
  | '\\' :: mark :: rest =>
    (javaMarks.lookup mark).bind fun character => (javaUnescape? rest).map (character :: ·)
  | character :: rest =>
    if character = '\\' then none else (javaUnescape? rest).map (character :: ·)

/-- The number of backslashes that a text ends with. -/
def finalBackslashes (text : List Char) : Nat := (text.reverse.takeWhile (· == '\\')).length

/-! ## The forms of escaped characters -/

/-- The escaped forms of a character. -/
inductive JavaForm (character : Char) : List Char → Prop where
  | short {mark : Char} : (mark, character) ∈ javaMarks → JavaForm character ['\\', mark]
  | numbered : isControl character = true → character ∉ ['\n', '\r', '\t'] →
      JavaForm character ('\\' :: 'u' :: fourCapitalDigits character.toNat)
  | plain : character ∉ ['"', '\'', '\\'] → isControl character = false →
      JavaForm character [character]

/-- **A character is escaped in one of the forms.** -/
theorem javaForm_javaEscapeCharacter (character : Char) :
    JavaForm character (javaEscapeCharacter character) := by
  unfold javaEscapeCharacter
  split
  case h_9 quote single backslash newline carriage tab _ _ =>
    split
    · next control =>
      refine .numbered control ?_
      simp only [List.mem_cons, List.not_mem_nil, or_false, not_or]
      exact ⟨newline, carriage, tab⟩
    · next printed =>
      refine .plain ?_ (Bool.eq_false_iff.mpr printed)
      simp only [List.mem_cons, List.not_mem_nil, or_false, not_or]
      exact ⟨quote, single, backslash⟩
  all_goals exact .short (by decide)

variable {character : Char} {form : List Char}

/-- The digits of a numbered form are hexadecimal ones. -/
theorem mem_upperDigits_of_mem {number : Nat} {digit : Char}
    (member : digit ∈ fourCapitalDigits number) : digit ∈ IntegerText.upperDigits := by
  have each : ∀ weight < 16, (Nat.digitChar weight).toUpper ∈ IntegerText.upperDigits := by decide
  simp only [fourCapitalDigits, List.mem_map] at member
  obtain ⟨part, -, rfl⟩ := member
  exact each (part % 16) (Nat.mod_lt _ (by decide))

/-- The characters of a numbered form are neither control characters nor quotes. -/
theorem numbered_characters {number : Nat} {written : Char}
    (member : written ∈ '\\' :: 'u' :: fourCapitalDigits number) :
    isControl written = false ∧ written ≠ '"' ∧ written ≠ '\'' := by
  have each : ('\\' :: 'u' :: IntegerText.upperDigits).all (fun written =>
      !isControl written && written != '"' && written != '\'') = true := rfl
  have among : written ∈ '\\' :: 'u' :: IntegerText.upperDigits := by
    simp only [List.mem_cons] at member ⊢
    exact member.imp_right (Or.imp_right mem_upperDigits_of_mem)
  have checked := List.all_eq_true.mp each written among
  simp only [Bool.and_eq_true, Bool.not_eq_true', bne_iff_ne] at checked
  exact ⟨checked.1.1, checked.1.2, checked.2⟩

/-- No form has a control character. -/
theorem JavaForm.isControl_eq_false (isForm : JavaForm character form) :
    ∀ written ∈ form, isControl written = false := by
  intro written member
  cases isForm with
  | short pair =>
      have marks : javaMarks.all (fun pair => ['\\', pair.1].all (!isControl ·)) = true := rfl
      have checked := List.all_eq_true.mp (List.all_eq_true.mp marks _ pair) written member
      rwa [Bool.not_eq_true'] at checked
  | numbered => exact (numbered_characters member).1
  | plain _ printed => exact List.mem_singleton.mp member ▸ printed

/-- A quote in a form stands behind one backslash. -/
theorem JavaForm.quote_behind (isForm : JavaForm character form) {before behind : List Char}
    {quote : Char} (isQuote : quote = '"' ∨ quote = '\'') (split : form = before ++ quote :: behind) :
    before = ['\\'] := by
  have inside : quote ∈ form := split ▸ List.mem_append_right before List.mem_cons_self
  cases isForm with
  | @short mark pair =>
      rcases before with _ | ⟨first, _ | ⟨second, others⟩⟩
      · obtain ⟨rfl, -⟩ := List.cons.inj split
        exact absurd isQuote (by decide)
      · obtain ⟨rfl, -⟩ := List.cons.inj split
        rfl
      · cases others <;> cases split
  | numbered =>
      obtain ⟨-, double, single⟩ := numbered_characters inside
      exact absurd isQuote (not_or.mpr ⟨double, single⟩)
  | plain special =>
      obtain rfl := List.mem_singleton.mp inside
      rcases isQuote with rfl | rfl <;> exact absurd (by decide) special

/-! ## Backslashes at the end -/

/-- Behind a text that ends with an even number of backslashes, such a number stays odd or even. -/
theorem odd_finalBackslashes_append {front : List Char} (even : Even (finalBackslashes front))
    (text : List Char) : Odd (finalBackslashes (front ++ text)) ↔ Odd (finalBackslashes text) := by
  unfold finalBackslashes at *
  rw [List.reverse_append, List.takeWhile_append]
  split
  · next all =>
    rw [List.length_append, ← all, Nat.odd_add, iff_true_right even]
  · rfl

/-- A text that ends with another character ends with no backslash. -/
theorem finalBackslashes_eq_zero {text : List Char} {last : Char} (ends : text.getLast? = some last)
    (other : last ≠ '\\') : finalBackslashes text = 0 := by
  obtain ⟨front, rfl⟩ := List.getLast?_eq_some_iff.mp ends
  simp [finalBackslashes, other]

/-- **A form ends with an even number of backslashes**, which is two for the backslash itself. -/
theorem JavaForm.even_finalBackslashes (isForm : JavaForm character form) :
    Even (finalBackslashes form) := by
  cases isForm with
  | @short mark pair =>
      by_cases backslash : mark = '\\'
      · rw [backslash]
        exact even_two
      · rw [finalBackslashes_eq_zero rfl backslash]
        exact Even.zero
  | numbered =>
      have other : (Nat.digitChar (character.toNat % 16)).toUpper ≠ '\\' := by
        intro backslash
        have last : '\\' ∈ fourCapitalDigits character.toNat :=
          backslash ▸ List.mem_of_getLast? rfl
        exact absurd (mem_upperDigits_of_mem last) (by decide)
      rw [finalBackslashes_eq_zero rfl other]
      exact Even.zero
  | plain special =>
      have other : character ≠ '\\' := by
        rintro rfl
        exact special (by decide)
      rw [finalBackslashes_eq_zero rfl other]
      exact Even.zero

/-! ## Reading back -/

/-- Four capital digits are read as the number that they are made of. -/
theorem natural?_fourCapitalDigits {number : Nat} (small : number < 65536) :
    IntegerText.natural? 16 (fourCapitalDigits number) = some number := by
  have each : (List.range 16).all (fun weight =>
      IntegerText.digitValue? 16 (Nat.digitChar weight).toUpper == some weight) = true := rfl
  have read (part : Nat) : IntegerText.digitValue? 16 (Nat.digitChar (part % 16)).toUpper =
      some (part % 16) :=
    eq_of_beq (List.all_eq_true.mp each _ (List.mem_range.mpr (Nat.mod_lt _ (by decide))))
  simp only [fourCapitalDigits, List.map_cons, List.map_nil, IntegerText.natural?,
    IntegerText.digitsFrom?, read, Option.some.injEq]
  omega

/-- The number of a control character has four hexadecimal digits at most. -/
theorem toNat_lt_of_isControl (control : isControl character = true) : character.toNat < 65536 := by
  simp only [isControl, Bool.or_eq_true, Bool.and_eq_true, decide_eq_true_eq] at control
  omega

/-- A form is read back as its character. -/
theorem JavaForm.javaUnescape?_append (isForm : JavaForm character form) (rest : List Char) :
    javaUnescape? (form ++ rest) = (javaUnescape? rest).map (character :: ·) := by
  cases isForm with
  | @short mark pair =>
      have marks : javaMarks.all (fun pair =>
        pair.1 != 'u' && javaMarks.lookup pair.1 == some pair.2) = true := rfl
      have checked := List.all_eq_true.mp marks _ pair
      simp only [Bool.and_eq_true, bne_iff_ne, beq_iff_eq] at checked
      rw [List.cons_append, List.cons_append, List.nil_append, javaUnescape?, checked.2]
      · rfl
      · intro _ _ _ _ _ same
        exact absurd same checked.1
  | numbered control =>
      have read := natural?_fourCapitalDigits (toNat_lt_of_isControl control)
      have numbered : numberedCharacter? (fourCapitalDigits character.toNat) = some character := by
        have valid : character.toNat.isValidChar := character.valid
        rw [numberedCharacter?, read, Option.bind_some, if_pos valid, Char.ofNat_toNat]
      unfold fourCapitalDigits at numbered ⊢
      simp only [List.map_cons, List.map_nil, List.cons_append, List.nil_append] at numbered ⊢
      rw [javaUnescape?, numbered]
      rfl
  | plain special =>
      have other : character ≠ '\\' := by
        rintro rfl
        exact special (by decide)
      rw [List.singleton_append, javaUnescape?, if_neg other]
      · exact fun _ _ _ _ _ same => absurd same other
      · exact fun _ _ same => absurd same other

/-! ## Escaped texts -/

variable (text : List Char)

/-- No escaped text has a control character. -/
theorem isControl_javaEscape : ∀ written ∈ javaEscape text, isControl written = false := by
  intro written member
  obtain ⟨character, -, within⟩ := List.mem_flatMap.mp member
  exact (javaForm_javaEscapeCharacter character).isControl_eq_false written within

/-- **An escaped text is read back as the text.** -/
theorem javaUnescape?_javaEscape : javaUnescape? (javaEscape text) = some text := by
  induction text with
  | nil => rfl
  | cons character text ih =>
      have isForm := javaForm_javaEscapeCharacter character
      rw [javaEscape, List.flatMap_cons, isForm.javaUnescape?_append]
      rw [javaEscape] at ih
      rw [ih, Option.map_some]

/-- **In front of a quote in an escaped text stands an odd number of backslashes.** -/
theorem odd_before_quote {before behind : List Char} {quote : Char}
    (isQuote : quote = '"' ∨ quote = '\'')
    (split : javaEscape text = before ++ quote :: behind) : Odd (finalBackslashes before) := by
  induction text generalizing before with
  | nil => cases before <;> cases split
  | cons character text ih =>
      have isForm := javaForm_javaEscapeCharacter character
      have inFront := odd_finalBackslashes_append isForm.even_finalBackslashes
      rw [javaEscape, List.flatMap_cons] at split
      rcases List.append_eq_append_iff.mp split with ⟨later, rfl, onward⟩ | ⟨here, own, rest⟩
      · exact (inFront later).mpr (ih onward)
      cases here with
      | nil =>
          rw [List.append_nil] at own
          rw [← own, ← List.append_nil (javaEscapeCharacter character)]
          exact (inFront []).mpr (ih rest.symm)
      | cons first others =>
          obtain ⟨rfl, -⟩ := List.cons.inj rest
          rw [isForm.quote_behind isQuote own]
          exact odd_one

/-! ## Literals of the language -/

/-- The form of a character that is no control character other than the ends of lines and the tab is
one that stands for it in a literal of the language. -/
theorem JavaForm.standsFor (isForm : JavaForm character form)
    (common : isControl character = true → character ∈ ['\n', '\r', '\t']) :
    Token.StandsFor character form := by
  cases isForm with
  | @short mark pair =>
      have marks : javaMarks.all (fun pair => pair.1 != '\n' &&
          (Token.escaped? pair.1 == some pair.2 ||
            isControl pair.2 && decide (pair.2 ∉ ['\n', '\r', '\t']))) = true := rfl
      have checked := List.all_eq_true.mp marks _ pair
      simp only [Bool.and_eq_true, Bool.or_eq_true, bne_iff_ne, beq_iff_eq, decide_eq_true_eq]
        at checked
      refine .escaped checked.1 (checked.2.resolve_right ?_)
      rintro ⟨control, uncommon⟩
      exact uncommon (common control)
  | numbered control uncommon => exact absurd (common control) uncommon
  | plain special printed =>
      refine .itself ?_
      simp only [List.mem_cons, List.not_mem_nil, or_false, not_or] at special ⊢
      refine ⟨special.1, special.2.2, ?_⟩
      rintro rfl
      cases printed

end Text

namespace Builtin

theorem call_str2java (source : String) :
    call "str2java" [.string source] =
      .ok (.string (String.ofList (Text.javaEscape source.toList))) :=
  rfl

/-- **Escaped texts are faithful.**  What the function answers for a text has no control character,
and in front of each quote in it stands an odd number of backslashes.  It is read back as the text by
the rules of Java, so no other text has the same answer.  If the control characters of the text are ends
of lines and tabs, the answer between double quotes is also a literal of the language for the text. -/
theorem str2java_faithful (source : String) :
    ∃ escaped, call "str2java" [.string source] = .ok (.string escaped) ∧
      (∀ character ∈ escaped.toList, Text.isControl character = false) ∧
      (∀ before quote behind, quote = '"' ∨ quote = '\'' →
        escaped.toList = before ++ quote :: behind → Odd (Text.finalBackslashes before)) ∧
      Text.javaUnescape? escaped.toList = some source.toList ∧
      (∀ other, call "str2java" [.string other] = .ok (.string escaped) → other = source) ∧
      ((∀ character ∈ source.toList, Text.isControl character = true →
          character ∈ ['\n', '\r', '\t']) →
        Token.sequence ("\"" ++ escaped ++ "\"") =
          .ok ⟨[⟨.string source, 0⟩], ("\"" ++ escaped ++ "\"").utf8ByteSize⟩) := by
  refine ⟨_, call_str2java source, ?_⟩
  rw [String.toList_ofList]
  refine ⟨Text.isControl_javaEscape _, fun before quote behind => Text.odd_before_quote _,
    Text.javaUnescape?_javaEscape _, ?injective, ?literal⟩
  case injective =>
    intro other same
    rw [call_str2java, Except.ok.injEq, Value.string.injEq, String.ofList_inj] at same
    have read := Text.javaUnescape?_javaEscape other.toList
    rw [same, Text.javaUnescape?_javaEscape, Option.some.injEq] at read
    exact String.toList_inj.mp read.symm
  case literal =>
    intro common
    have stands : ∀ character ∈ source.toList,
        Token.StandsFor character (Text.javaEscapeCharacter character) :=
      fun character member =>
        (Text.javaForm_javaEscapeCharacter character).standsFor (common character member)
    have scanned := Token.scan_spelled stands []
    rw [String.ofList_toList] at scanned
    have cut := Token.cut_of_scan scanned 0
    have written : ("\"" ++ String.ofList (Text.javaEscape source.toList) ++ "\"").toList =
        '"' :: (source.toList.flatMap Text.javaEscapeCharacter ++ ['"']) := by
      simp [Text.javaEscape]
    rw [← written] at cut
    exact cut.sequence_eq

end Builtin

end CommentDirectives
