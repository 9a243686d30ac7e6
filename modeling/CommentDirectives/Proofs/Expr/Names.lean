import Mathlib
import CommentDirectives.Name
import CommentDirectives.Proofs.Expr.Recognition
import CommentDirectives.Proofs.Token.Cutting

/-!
# Names that directives accept

A directive and an expression have the same words for names, with one exception: the two truth
values are names for directives and literals for expressions.  Every other name that directives
accept is, as an expression, the variable with this name (`Expr.parse_name`).

Accepted names consist of ASCII characters and hold no blanks, so that the form under which a name
is stored is its text in small letters (`Name.normalize_of_isValid`), and that of a name in small
letters is the same (`Name.normalize_lowercase`).
-/

namespace CommentDirectives

set_option autoImplicit false

/-! ## Characters of names -/

namespace Name

/-- The code points of the characters that names go on with. -/
theorem codePoint_of_canContinue {character : Char} (continues : canContinue character = true) :
    48 ≤ character.toNat ∧ character.toNat ≤ 57 ∨ 65 ≤ character.toNat ∧ character.toNat ≤ 90 ∨
      97 ≤ character.toNat ∧ character.toNat ≤ 122 ∨ character.toNat = 95 ∨
      character.toNat = 46 := by
  have ranges : ((65 ≤ character.toNat ∧ character.toNat ≤ 90 ∨
      97 ≤ character.toNat ∧ character.toNat ≤ 122) ∨
      48 ≤ character.toNat ∧ character.toNat ≤ 57) ∨ character = '_' ∨ character = '.' := by
    simpa [canContinue, Char.isAlphanum, Char.isAlpha, Char.isUpper, Char.isLower, Char.isDigit,
      UInt32.le_iff_toNat_le, or_assoc] using continues
  rcases ranges with ranges | rfl | rfl
  · omega
  · decide
  · decide

theorem isBlank_of_canContinue {character : Char} (continues : canContinue character = true) :
    Text.isBlank character = false := by
  have ranges := codePoint_of_canContinue continues
  simp only [Text.isBlank, Bool.or_eq_false_iff, Bool.and_eq_false_imp, decide_eq_true_eq,
    decide_eq_false_iff_not, beq_eq_false_iff_ne]
  omega

theorem canContinue_of_canStart {character : Char} (starts : canStart character = true) :
    canContinue character = true := by
  simp only [canStart, canContinue, Char.isAlphanum, Bool.or_eq_true] at starts ⊢
  tauto

theorem canContinue_toLower {character : Char} (continues : canContinue character = true) :
    canContinue character.toLower = true := by
  by_cases upper : character.isUpper = true
  · have letter : character.toLower.isAlpha = true := by
      rw [Char.isAlpha_toLower_eq_isAlpha, Char.isAlpha, upper, Bool.true_or]
    simp [canContinue, Char.isAlphanum, letter]
  · rwa [Char.toLower_eq_of_not_isUpper upper]

end Name

/-! ## Texts of such characters -/

namespace Text

variable {text : List Char}

theorem trimStart_of_visible (visible : ∀ character ∈ text, isBlank character = false) :
    trimStart text = text := by
  rw [trimStart, List.dropWhile_eq_self_iff]
  exact fun present => Bool.eq_false_iff.mp (visible _ (List.getElem_mem present))

/-- A text without blanks is trimmed already. -/
theorem trim_of_visible (visible : ∀ character ∈ text, isBlank character = false) :
    trim text = text := by
  have back : text.rdropWhile isBlank = text :=
    List.rdropWhile_eq_self_iff.mpr fun present =>
      Bool.eq_false_iff.mp (visible _ (List.getLast_mem present))
  rw [trim, trimStart_of_visible visible]
  exact back

variable (each : ∀ character ∈ text, Name.canContinue character = true)
include each

theorem trim_of_canContinue : trim text = text :=
  trim_of_visible fun character inside => Name.isBlank_of_canContinue (each character inside)

theorem lowerAfter_of_canContinue (before : List Char) :
    lowerAfter before text = text.map Char.toLower := by
  induction text generalizing before with
  | nil => rfl
  | cons character rest ih =>
      obtain ⟨first, others⟩ := List.forall_mem_cons.mp each
      have ascii : character.toNat < 0x80 := by
        have ranges := Name.codePoint_of_canContinue first
        omega
      have noSigma : character ≠ 'Σ' := by
        rintro rfl
        exact absurd ascii (by decide)
      rw [lowerAfter, if_neg noSigma, lowerCharacter, if_pos ascii, ih others, List.map_cons,
        List.singleton_append]

end Text

namespace Name

/-- All characters of an accepted name are characters that names go on with. -/
theorem canContinue_of_isValid {name : String} (valid : isValid name = true) :
    ∀ character ∈ name.toList, canContinue character = true := by
  rw [isValid] at valid
  cases written : name.toList with
  | nil =>
      intro character inside
      cases inside
  | cons first rest =>
      rw [written, areValid, Bool.and_eq_true] at valid
      rw [List.forall_mem_cons]
      exact ⟨canContinue_of_canStart valid.1, List.all_eq_true.mp valid.2⟩

/-- An accepted name is stored in small letters. -/
theorem normalize_of_isValid {name : String} (valid : isValid name = true) :
    normalize name = String.ofList (name.toList.map Char.toLower) := by
  have each := canContinue_of_isValid valid
  rw [normalize, Text.trimmed, Text.trim_of_canContinue each, String.ofList_toList, Text.lowercase,
    Text.lowerAfter_of_canContinue each]

/-- A name in small letters is stored in the same form. -/
theorem normalize_lowercase {name : String} (valid : isValid name = true) :
    normalize (Text.lowercase name) = normalize name := by
  have each := canContinue_of_isValid valid
  have eachLower : ∀ character ∈ name.toList.map Char.toLower, canContinue character = true := by
    intro character inside
    obtain ⟨original, found, rfl⟩ := List.mem_map.mp inside
    exact canContinue_toLower (each original found)
  have lowered : Text.lowercase name = String.ofList (name.toList.map Char.toLower) := by
    rw [Text.lowercase, Text.lowerAfter_of_canContinue each]
  rw [normalize_of_isValid valid, lowered, normalize, Text.trimmed, String.toList_ofList,
    Text.trim_of_canContinue eachLower, Text.lowercase, String.toList_ofList,
    Text.lowerAfter_of_canContinue eachLower, List.map_map]
  simp only [Function.comp_def, Char.toLower_toLower_eq_toLower]

/-- An accepted name is a word of expressions, and one that is no truth value a name there. -/
theorem isName_of_isValid {name : String} (valid : isValid name = true) (notTrue : name ≠ "true")
    (notFalse : name ≠ "false") : Token.IsName name.toList := by
  have other {literal : String} (differs : name ≠ literal) : name.toList ≠ literal.toList :=
    fun same => differs (String.toList_inj.mp same)
  rw [isValid] at valid
  cases written : name.toList with
  | nil => rw [written] at valid; cases valid
  | cons first rest =>
      rw [written, areValid, Bool.and_eq_true] at valid
      exact ⟨valid.1, valid.2, written ▸ other notTrue, written ▸ other notFalse⟩

end Name

/-- **As an expression, an accepted name that is no truth value is the variable with this name.** -/
theorem Expr.parse_name {name : String} (valid : Name.isValid name = true) (notTrue : name ≠ "true")
    (notFalse : name ≠ "false") : Expr.parse name = .ok (.variable name 0) := by
  have isName := Name.isName_of_isValid valid notTrue notFalse
  have ends : Token.Ends [] := by
    rintro _ ⟨⟩
  have cut : Token.Cut name.toList 0 [⟨.identifier name, 0⟩] [] :=
    Token.cut_text (.identifier name) isName ends 0
  have derives : Grammar.Derives 0 [⟨.identifier name, 0⟩] (.variable name 0) :=
    (Grammar.Derives.variable name 0).downTo (Nat.zero_le _)
  have reads : ReadsExpression name.utf8ByteSize ([⟨.identifier name, 0⟩] ++ []) (.variable name 0)
      [] := readsExpression_of_chain (chain_of_derives derives) rfl
  rw [List.append_nil] at reads
  exact parse_of_readsExpression cut.sequence_eq reads

end CommentDirectives
