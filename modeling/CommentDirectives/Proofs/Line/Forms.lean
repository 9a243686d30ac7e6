import Mathlib.Data.List.TakeWhile
import CommentDirectives.Line.Form
import CommentDirectives.Proofs.Token.Cutting

/-!
# Which lines have which form

The form of a line is told by how the line is written.  It is a directive if it consists of blanks, two
slashes, a `#`, a keyword and a tail that does not go on with the keyword (`LineForm.IsDirective`).
Blanks between the slashes and the `#` belong to a directive only where they are allowed.  It is a line
to be uncommented if it consists of blanks, one of two marks and a text (`LineForm.IsUncommented`).

Both descriptions leave no choice: neither `/` nor `#` is a blank, so the blanks in front of them are all
there are, and a keyword is as long as it can be.  They also exclude each other, since no blank is a
`$`.  Every other line is plain text (`LineForm.ofLine_exact`).

Where blanks are allowed, lines can become directives only that were plain text before: a directive
without such blanks stays the same directive (`LineForm.IsDirective.allow`), and the marks of lines to
be uncommented do not admit them.
-/

namespace CommentDirectives.LineForm

set_option autoImplicit false

/-! ## How lines are written -/

/-- Whether a text consists of blanks. -/
def AllBlank (text : List Char) : Prop := ∀ character ∈ text, Text.isBlank character = true

/-- A line is written as a directive with a keyword and a tail: blanks, two slashes, more blanks where
they are allowed, a `#`, one or more characters of a keyword, and a tail that starts with none. -/
structure IsDirective (allowBlanks : Bool) (line keyword tail : List Char) : Prop where
  written : ∃ indent gap, AllBlank indent ∧ AllBlank gap ∧ (allowBlanks = false → gap = []) ∧
    line = indent ++ '/' :: '/' :: (gap ++ '#' :: (keyword ++ tail))
  named : keyword ≠ []
  each : ∀ character ∈ keyword, isKeywordCharacter character = true
  ends : ∀ next ∈ tail.head?, isKeywordCharacter next = false

/-- The mark of a line to be uncommented, which tells whether its text is taken as it stands. -/
def uncommentMark (verbatim : Bool) : List Char :=
  if verbatim then ['/', '/', '$', '$'] else ['/', '/', '$']

/-- A line is written as one to be uncommented: all its leading blanks, a mark, and a text, which does
not complete the longer mark if the mark is the shorter one. -/
structure IsUncommented (line indent text : List Char) (verbatim : Bool) : Prop where
  written : line = indent ++ (uncommentMark verbatim ++ text)
  whole : indent = line.takeWhile Text.isBlank
  apart : verbatim = false → text.head? ≠ some '$'

variable {allowBlanks verbatim : Bool} {line indent comment keyword tail text : List Char}

/-- A directive stays one where more is allowed. -/
theorem IsDirective.allow (isDirective : IsDirective false line keyword tail) :
    IsDirective true line keyword tail := by
  obtain ⟨⟨indent, gap, indented, spaced, -, written⟩, named, each, ends⟩ := isDirective
  exact ⟨⟨indent, gap, indented, spaced, Bool.noConfusion, written⟩, named, each, ends⟩

/-! ## Line comments -/

/-- The blanks in front of a line comment are all its leading blanks. -/
theorem takeWhile_of_comment (indented : AllBlank indent) (comment : List Char) :
    (indent ++ '/' :: '/' :: comment).takeWhile Text.isBlank = indent := by
  rw [List.takeWhile_append_of_pos indented, List.takeWhile_cons_of_neg (by decide),
    List.append_nil]

/-- A line comment behind blanks. -/
theorem ofLine_of_comment (indented : AllBlank indent) (comment : List Char) :
    ofLine allowBlanks (indent ++ '/' :: '/' :: comment) =
      ofComment allowBlanks indent comment := by
  have trimmed : Text.trimStart (indent ++ '/' :: '/' :: comment) = '/' :: '/' :: comment := by
    rw [Text.trimStart, List.dropWhile_append_of_pos indented]
    rfl
  rw [ofLine, trimmed, takeWhile_of_comment indented]
  rfl

/-- Every line is a line comment behind blanks, or plain text. -/
theorem exists_comment_or_plain (allowBlanks : Bool) (line : List Char) :
    (∃ indent comment, AllBlank indent ∧ line = indent ++ '/' :: '/' :: comment) ∨
      ofLine allowBlanks line = .plain := by
  have whole : line.takeWhile Text.isBlank ++ Text.trimStart line = line :=
    List.takeWhile_append_dropWhile
  unfold ofLine
  split
  · next comment trimmed =>
    rw [trimmed] at whole
    exact .inl ⟨_, comment, fun _ member => List.mem_takeWhile_imp member, whole.symm⟩
  · exact .inr rfl

/-- No mark starts with blanks in front of a `#`. -/
theorem head?_ne_mark {gap : List Char} (spaced : AllBlank gap) (text : List Char) :
    (gap ++ '#' :: text).head? ≠ some '$' := by
  intro starts
  cases gap with
  | nil => cases starts
  | cons blank gap =>
      obtain rfl : blank = '$' := Option.some.inj starts
      exact absurd (spaced '$' List.mem_cons_self) (by decide)

/-- A comment is a directive text behind a `#`, and behind blanks where they are allowed. -/
theorem ofComment_of_hash {gap : List Char} (spaced : AllBlank gap)
    (allowed : allowBlanks = false → gap = []) (text : List Char) :
    ofComment allowBlanks indent (gap ++ '#' :: text) = ofDirectiveText text := by
  have unmarked := head?_ne_mark spaced text
  have body : (if allowBlanks then Text.trimStart (gap ++ '#' :: text) else gap ++ '#' :: text) =
      '#' :: text := by
    cases allowBlanks with
    | false => rw [allowed rfl]; rfl
    | true =>
        rw [if_pos rfl, Text.trimStart, List.dropWhile_append_of_pos spaced]
        rfl
  unfold ofComment
  split
  · next same => exact absurd (congrArg List.head? same) unmarked
  · next same => exact absurd (congrArg List.head? same) unmarked
  · rw [body]
    rfl

/-- A shorter mark is one that the text does not complete. -/
theorem ofComment_of_apart (apart : text.head? ≠ some '$') :
    ofComment allowBlanks indent ('$' :: text) = .uncomment indent text false := by
  unfold ofComment
  split
  · next same =>
    obtain ⟨-, rfl⟩ := List.cons.inj same
    exact absurd rfl apart
  · next same =>
    obtain ⟨-, rfl⟩ := List.cons.inj same
    rfl
  · next other => exact absurd rfl (other _)

/-- A `#` at the front of a comment, or behind its blanks where they are allowed. -/
theorem exists_gap (found : (if allowBlanks then Text.trimStart comment else comment) = '#' :: text) :
    ∃ gap, AllBlank gap ∧ (allowBlanks = false → gap = []) ∧ comment = gap ++ '#' :: text := by
  cases allowBlanks with
  | false => exact ⟨[], fun _ => nofun, fun _ => rfl, found⟩
  | true =>
      have whole : comment.takeWhile Text.isBlank ++ Text.trimStart comment = comment :=
        List.takeWhile_append_dropWhile
      rw [if_pos rfl] at found
      rw [found] at whole
      exact ⟨_, fun _ member => List.mem_takeWhile_imp member, Bool.noConfusion, whole.symm⟩

/-- A line comment with a form has one of the marks, or a `#`. -/
theorem cases_of_ofComment {form : LineForm} (found : ofComment allowBlanks indent comment = form)
    (special : form ≠ .plain) :
    (∃ text, comment = '$' :: '$' :: text ∧ form = .uncomment indent text true) ∨
    (∃ text, comment = '$' :: text ∧ text.head? ≠ some '$' ∧ form = .uncomment indent text false) ∨
    ∃ gap text, AllBlank gap ∧ (allowBlanks = false → gap = []) ∧ comment = gap ++ '#' :: text ∧
      form = ofDirectiveText text := by
  unfold ofComment at found
  split at found
  · next text => exact .inl ⟨text, rfl, found.symm⟩
  · next text other =>
    refine .inr (.inl ⟨text, rfl, fun starts => ?_, found.symm⟩)
    obtain ⟨behind, rfl⟩ := List.head?_eq_some_iff.mp starts
    exact other behind rfl
  · split at found
    · next text body =>
      obtain ⟨gap, spaced, allowed, written⟩ := exists_gap body
      exact .inr (.inr ⟨gap, text, spaced, allowed, written, found.symm⟩)
    · exact absurd found.symm special

/-! ## Keywords -/

/-- A keyword and what follows it. -/
theorem ofDirectiveText_append (named : keyword ≠ [])
    (each : ∀ character ∈ keyword, isKeywordCharacter character = true)
    (ends : ∀ next ∈ tail.head?, isKeywordCharacter next = false) :
    ofDirectiveText (keyword ++ tail) = .directive (String.ofList keyword) tail := by
  have front : (keyword ++ tail).takeWhile isKeywordCharacter = keyword :=
    Token.takeWhile_append_of_stops each ends
  have whole : (keyword ++ tail).takeWhile isKeywordCharacter ++
      (keyword ++ tail).dropWhile isKeywordCharacter = keyword ++ tail :=
    List.takeWhile_append_dropWhile
  rw [front] at whole
  unfold ofDirectiveText
  rw [front, List.append_cancel_left whole]
  split
  · exact absurd rfl named
  · rfl

/-- A directive text is a keyword and what follows it. -/
theorem exists_keyword {name : String} (found : ofDirectiveText text = .directive name tail) :
    text = name.toList ++ tail ∧ name.toList ≠ [] ∧
      (∀ character ∈ name.toList, isKeywordCharacter character = true) ∧
      ∀ next ∈ tail.head?, isKeywordCharacter next = false := by
  unfold ofDirectiveText at found
  split at found
  · cases found
  · next present =>
    cases found
    rw [String.toList_ofList, List.takeWhile_append_dropWhile]
    refine ⟨rfl, present, fun _ member => List.mem_takeWhile_imp member, fun next first => ?_⟩
    have stops := List.head?_dropWhile_not isKeywordCharacter text
    rw [first] at stops
    exact stops

/-- A directive text is a directive, or plain text. -/
theorem ofDirectiveText_ne_uncomment : ofDirectiveText text ≠ .uncomment indent tail verbatim := by
  unfold ofDirectiveText
  split <;> exact LineForm.noConfusion

/-! ## Forms and how they are written -/

/-- A line has the form of a directive just if it is written as one. -/
theorem ofLine_eq_directive_iff {name : String} :
    ofLine allowBlanks line = .directive name tail ↔
      IsDirective allowBlanks line name.toList tail := by
  constructor
  · intro found
    rcases exists_comment_or_plain allowBlanks line with ⟨indent, comment, indented, rfl⟩ | plain
    · rw [ofLine_of_comment indented] at found
      obtain ⟨_, _, ⟨⟩⟩ | ⟨_, _, _, ⟨⟩⟩ | ⟨gap, text, spaced, allowed, rfl, read⟩ :=
        cases_of_ofComment found LineForm.noConfusion
      obtain ⟨rfl, named, each, ends⟩ := exists_keyword read.symm
      exact ⟨⟨indent, gap, indented, spaced, allowed, rfl⟩, named, each, ends⟩
    · rw [plain] at found
      cases found
  · rintro ⟨⟨indent, gap, indented, spaced, allowed, rfl⟩, named, each, ends⟩
    rw [ofLine_of_comment indented, ofComment_of_hash spaced allowed,
      ofDirectiveText_append named each ends, String.ofList_toList]

/-- A line has the form of a line to be uncommented just if it is written as one. -/
theorem ofLine_eq_uncomment_iff :
    ofLine allowBlanks line = .uncomment indent text verbatim ↔
      IsUncommented line indent text verbatim := by
  constructor
  · intro found
    rcases exists_comment_or_plain allowBlanks line with ⟨blanks, comment, indented, rfl⟩ | plain
    · rw [ofLine_of_comment indented] at found
      have leading (comment : List Char) := (takeWhile_of_comment indented comment).symm
      obtain ⟨_, rfl, ⟨⟩⟩ | ⟨_, rfl, apart, ⟨⟩⟩ | ⟨_, _, _, _, _, read⟩ :=
        cases_of_ofComment found LineForm.noConfusion
      · exact ⟨rfl, leading _, Bool.noConfusion⟩
      · exact ⟨rfl, leading _, fun _ => apart⟩
      · exact absurd read.symm ofDirectiveText_ne_uncomment
    · rw [plain] at found
      cases found
  · rintro ⟨written, whole, apart⟩
    have indented : AllBlank indent := by
      intro character member
      rw [whole] at member
      exact List.mem_takeWhile_imp member
    cases verbatim with
    | true => exact written ▸ ofLine_of_comment indented ('$' :: '$' :: text)
    | false =>
        calc ofLine allowBlanks line
          _ = ofComment allowBlanks indent ('$' :: text) := written ▸ ofLine_of_comment indented _
          _ = .uncomment indent text false := ofComment_of_apart (apart rfl)

/-- The number of characters that a mark is known to have. -/
theorem markLength_eq (verbatim : Bool) : markLength verbatim = (uncommentMark verbatim).length := by
  cases verbatim <;> rfl

/-- **Lines have exactly the forms that they are written in.**  A line has the form of a directive
just if it is written as one, and of a line to be uncommented just if it is written as one; all others
are plain text.  So where blanks are allowed in front of the `#`, a line that was no plain text has the
form that it had. -/
theorem ofLine_exact (line : List Char) :
    (∀ allowBlanks keyword tail, ofLine allowBlanks line = .directive keyword tail ↔
      IsDirective allowBlanks line keyword.toList tail) ∧
    (∀ allowBlanks indent text verbatim, ofLine allowBlanks line = .uncomment indent text verbatim ↔
      IsUncommented line indent text verbatim) ∧
    (∀ verbatim, markLength verbatim = (uncommentMark verbatim).length) ∧
    (∀ allowBlanks, ofLine allowBlanks line = .plain ↔
      (∀ keyword tail, ¬IsDirective allowBlanks line keyword tail) ∧
        ∀ indent text verbatim, ¬IsUncommented line indent text verbatim) ∧
    (ofLine false line ≠ .plain → ofLine true line = ofLine false line) := by
  refine ⟨fun _ _ _ => ofLine_eq_directive_iff, fun _ _ _ _ => ofLine_eq_uncomment_iff,
    markLength_eq, fun allowBlanks => ⟨fun plain => ⟨?noDirective, ?noUncommented⟩, ?others⟩, ?switch⟩
  case noDirective =>
    intro keyword tail isDirective
    have named : keyword = (String.ofList keyword).toList := String.toList_ofList.symm
    rw [named] at isDirective
    cases plain.symm.trans (ofLine_eq_directive_iff.mpr isDirective)
  case noUncommented =>
    intro indent text verbatim isUncommented
    cases plain.symm.trans (ofLine_eq_uncomment_iff.mpr isUncommented)
  case others =>
    rintro ⟨noDirective, noUncommented⟩
    cases form : ofLine allowBlanks line with
    | directive keyword tail => exact absurd (ofLine_eq_directive_iff.mp form) (noDirective _ _)
    | uncomment indent text verbatim =>
        exact absurd (ofLine_eq_uncomment_iff.mp form) (noUncommented _ _ _)
    | plain => rfl
  case switch =>
    intro special
    cases form : ofLine false line with
    | directive keyword tail =>
        exact ofLine_eq_directive_iff.mpr (ofLine_eq_directive_iff.mp form).allow
    | uncomment indent text verbatim =>
        exact ofLine_eq_uncomment_iff.mpr (ofLine_eq_uncomment_iff.mp form)
    | plain => exact absurd form special

/-- Blanks of any kind may stand in front of the slashes, and where they are allowed behind them. -/
example : ofLine true "\u2003//\t#if_1x-y".toList = .directive "if_1x" "-y".toList ∧
    ofLine false "\u2003//\t#if_1x-y".toList = .plain := by
  decide +kernel

end CommentDirectives.LineForm
