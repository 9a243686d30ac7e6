import CommentDirectives.Line.Comments
import CommentDirectives.Line.Form
import CommentDirectives.Line.Substitution
import Mathlib.Data.List.DropRight

/-!
# What stands inside block comments

A line is compared with others by what stands outside its block comments, and by the marks of the
comments; what stands between the marks is left out, whatever it is (`Comments.outside_of_closed`,
`Comments.outside_of_unclosed`).  The reader of comments sees no more of a line than that
(`Comments.scan_outside`), so two lines that are the same there lose the same
(`Comments.strip_eq_of_outside`).

Whether a line that loses something is blank by itself is another matter: what is left of it is
nothing, or not blank (`Comments.strip_eq_nil`).
-/

namespace CommentDirectives

set_option autoImplicit false

namespace Text

theorem trimEnd_eq_nil {text : List Char} :
    trimEnd text = [] ↔ ∀ character ∈ text, isBlank character :=
  List.rdropWhile_eq_nil_iff

theorem trimEnd_trimEnd (text : List Char) : trimEnd (trimEnd text) = trimEnd text :=
  List.rdropWhile_idempotent isBlank text

/-- A text of blanks, and only such a text, has nothing between the blanks at its ends. -/
theorem trim_eq_nil {text : List Char} :
    trim text = [] ↔ ∀ character ∈ text, isBlank character := by
  rw [trim, trimStart]
  constructor
  · intro nothing
    have blank : (text.dropWhile isBlank).dropWhile isBlank = [] :=
      List.dropWhile_eq_nil_iff.mpr (trimEnd_eq_nil.mp nothing)
    rw [List.dropWhile_idempotent] at blank
    exact List.dropWhile_eq_nil_iff.mp blank
  · intro blank
    rw [List.dropWhile_eq_nil_iff.mpr blank]
    rfl

end Text

namespace Comments

/-- The mode in which a line is read, outside or inside a block comment. -/
def Mode.atStart (inBlock : Bool) : Mode := if inBlock then .block else .plain

/-- A line without the interiors of its block comments, read from a given mode on. -/
def outside : Mode → List Char → List Char
  | .block, [] => []
  | .block, '*' :: '/' :: rest => '*' :: '/' :: outside .plain rest
  | .block, _ :: rest => outside .block rest
  | .quoted _, [] => []
  | .quoted mark, '\\' :: escaped :: rest => '\\' :: escaped :: outside (.quoted mark) rest
  | .quoted mark, character :: rest =>
    character :: outside (if character = mark then .plain else .quoted mark) rest
  | .plain, [] => []
  | .plain, '/' :: '/' :: rest => '/' :: '/' :: rest
  | .plain, '/' :: '*' :: rest => '/' :: '*' :: outside .block rest
  | .plain, character :: rest =>
    character ::
      outside (if character = '"' ∨ character = '\'' then .quoted character else .plain) rest

/-! ## Interiors -/

/-- The mark behind a block comment. -/
def closing : List Char := ['*', '/']

/-- Nothing is seen of what stands in a block comment that goes on behind its line. -/
theorem outside_of_unclosed {interior : List Char} (unclosed : ¬ closing <:+: interior) :
    outside .block interior = [] := by
  induction interior with
  | nil => rfl
  | cons character rest ih =>
      rw [List.infix_cons_iff, not_or] at unclosed
      rw [outside.eq_3, ih unclosed.2]
      rintro behind rfl rfl
      exact unclosed.1 ⟨behind, rfl⟩

/-- Nothing but the mark is seen of a block comment that ends on its line. -/
theorem outside_of_closed {interior : List Char} (unclosed : ¬ closing <:+: interior)
    (rest : List Char) :
    outside .block (interior ++ closing ++ rest) = closing ++ outside .plain rest := by
  induction interior with
  | nil => rfl
  | cons character interior ih =>
      rw [List.infix_cons_iff, not_or] at unclosed
      rw [List.cons_append, List.cons_append, outside.eq_3, ih unclosed.2]
      rintro behind rfl follows
      -- the mark cannot start in the interior, not even with its last character
      cases interior with
      | nil => cases follows
      | cons next interior =>
          cases follows
          exact unclosed.1 ⟨interior, rfl⟩

/-! ## What the reader sees -/

/-- Outside block comments, the next character that is seen is the next one of the line. -/
theorem exists_cons_of_outside {mode : Mode} (visible : mode ≠ .block) {line seen : List Char}
    {character : Char} (sees : outside mode line = character :: seen) :
    ∃ rest, line = character :: rest := by
  have head : (outside mode line).head? = line.head? := by
    cases mode with
    | block => exact absurd rfl visible
    | quoted mark | plain =>
        unfold outside
        split <;> simp_all
  rw [sees] at head
  exact List.head?_eq_some_iff.mp head.symm

/-- Inside a block comment, something is removed even at the end of a line. -/
theorem removed_of_block (line : List Char) : (scan .block line).removed = true := by
  unfold scan
  split <;> simp_all [Remains.drop]

theorem drop_scan_block (line : List Char) : (scan .block line).drop = scan .block line := by
  rw [Remains.drop, ← removed_of_block line]

/-- **The reader of comments sees nothing of the interiors of block comments.** -/
theorem scan_outside (mode : Mode) (line : List Char) :
    scan mode (outside mode line) = scan mode line := by
  -- a character that is kept may not make a mark with the next one that is seen: outside block
  -- comments that is the next one of the line, which makes none
  fun_induction outside mode line with
  | case1 | case4 | case7 => rfl
  | case2 rest ih | case5 mark escaped rest ih | case9 rest ih => simp only [scan, ih]
  | case3 character rest unclosed ih => rw [scan.eq_3 _ _ unclosed, drop_scan_block, ih]
  | case8 rest => simp only [scan]
  | case6 mark character rest single ih =>
      have visible : (if character = mark then Mode.plain else .quoted mark) ≠ .block := by
        split <;> simp
      rw [scan.eq_6 _ _ _ single, scan.eq_6, ih]
      intro escaped seen backslash sees
      obtain ⟨behind, follows⟩ := exists_cons_of_outside visible sees
      exact single _ _ backslash follows
  | case10 character rest line block ih =>
      have visible : (if character = '"' ∨ character = '\'' then Mode.quoted character
          else .plain) ≠ .block := by
        split <;> simp
      rw [scan.eq_10 _ _ line block, scan.eq_10, ih]
      · intro seen slash sees
        obtain ⟨behind, follows⟩ := exists_cons_of_outside visible sees
        exact line _ slash follows
      · intro seen slash sees
        obtain ⟨behind, follows⟩ := exists_cons_of_outside visible sees
        exact block _ slash follows

/-- Lines that are the same outside their block comments lose the same. -/
theorem strip_eq_of_outside {inBlock : Bool} {line line' : List Char}
    (same : outside (Mode.atStart inBlock) line = outside (Mode.atStart inBlock) line') :
    strip inBlock line = strip inBlock line' := by
  have remains : scan (Mode.atStart inBlock) line = scan (Mode.atStart inBlock) line' := by
    rw [← scan_outside _ line, same, scan_outside]
  rw [Mode.atStart] at remains
  simp only [strip, remains]

/-! ## What is left -/

/-- A line that loses nothing stays as it is. -/
theorem kept_of_not_removed (mode : Mode) (line : List Char)
    (unchanged : (scan mode line).removed = false) : (scan mode line).kept = line := by
  fun_induction scan mode line with
  | case1 | case2 | case3 | case8 | case9 => cases unchanged
  | case4 | case7 => rfl
  | case5 mark escaped rest ih => rw [Remains.keep, Remains.keep, ih unchanged]
  | case6 mark character rest single ih => rw [Remains.keep, ih unchanged]
  | case10 character rest line block ih => rw [Remains.keep, ih unchanged]

/-- If only blanks are left of a line, then nothing is left, or the line is blank by itself. -/
theorem strip_eq_nil {inBlock : Bool} {line : List Char}
    (blank : Text.trim (strip inBlock line).1 = []) :
    (strip inBlock line).1 = [] ∨ Text.trim line = [] := by
  cases removed : (scan (Mode.atStart inBlock) line).removed with
  | true =>
      have left : (strip inBlock line).1 = Text.trimEnd (scan (Mode.atStart inBlock) line).kept :=
        if_pos removed
      rw [left] at blank ⊢
      rw [← Text.trimEnd_trimEnd]
      exact .inl (Text.trimEnd_eq_nil.mpr (Text.trim_eq_nil.mp blank))
  | false =>
      have left : (strip inBlock line).1 = (scan (Mode.atStart inBlock) line).kept :=
        if_neg (Bool.eq_false_iff.mp removed)
      rw [left, kept_of_not_removed _ _ removed] at blank
      exact .inr blank

/-! ## Lines that differ inside block comments -/

/-- Two lines of text without marked expressions that are the same but for characters inside block
comments, read outside or inside a block comment. -/
structure DifferInside (allowBlanks inBlock : Bool) (line line' : List Char) : Prop where
  plain : LineForm.ofLine allowBlanks line = .plain
  plain' : LineForm.ofLine allowBlanks line' = .plain
  unmarked : ¬ Substitution.opening <:+: line
  unmarked' : ¬ Substitution.opening <:+: line'
  outside : outside (Mode.atStart inBlock) line = outside (Mode.atStart inBlock) line'

end Comments

end CommentDirectives
