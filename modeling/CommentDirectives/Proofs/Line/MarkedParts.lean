import CommentDirectives.Line.Substitution
import CommentDirectives.Proofs.Session.Alike
import Mathlib

/-!
# The marked expressions of a line

A line is cut at the marks of its expressions: a text, an opening mark, the source of an expression,
a closing mark, and so on up to a rest without a marked expression (`Substitution.Parts.Cut`).
Every line has exactly one such cut (`Substitution.existsUnique_cut`).  This needs that no mark
shares characters with another occurrence of itself, because its first character does not come again
in it; so a mark that stands behind a text without it is the first one
(`Substitution.cut_of_absent`).

The values of a line are put in along this cut, and only there (`Scope.substitute_parts`): what a
value brings is not read again, and the first source without a value decides how the line fails.
-/

namespace CommentDirectives

set_option autoImplicit false

namespace Substitution

/-! ## Marks in a text -/

section Marks

variable {mark text before behind rest : List Char}

/-- A text is cut into what stands in front of a mark, the mark, and what stands behind it. -/
theorem eq_of_cut (found : cut mark text = some (before, behind)) :
    text = before ++ mark ++ behind := by
  induction text generalizing before with
  | nil =>
      unfold cut at found
      split at found
      · next empty =>
        cases found
        rw [List.isEmpty_iff.mp empty]
        rfl
      · cases found
  | cons character rest ih =>
      unfold cut at found
      split at found
      · next starts =>
        cases found
        obtain ⟨behind, same⟩ := List.isPrefixOf_iff_prefix.mp starts
        rw [← same, List.drop_left]
        rfl
      · obtain ⟨⟨before', behind'⟩, inner, same⟩ := Option.map_eq_some_iff.mp found
        cases same
        rw [ih inner]
        rfl

/-- A mark whose first character does not come again in it. -/
def Unshared (mark : List Char) : Prop := ∃ first others, mark = first :: others ∧ first ∉ others

theorem unshared_opening : Unshared opening := ⟨'/', ['*', '$'], rfl, by decide⟩

theorem unshared_closing : Unshared closing := ⟨'$', ['*', '/'], rfl, by decide⟩

/-- A mark that a text and the mark behind it start with is one that the text starts with. -/
theorem prefix_of_prefix_append (unshared : Unshared mark) (visible : text ≠ [])
    (starts : mark <+: text ++ mark ++ rest) : mark <+: text := by
  obtain ⟨first, others, same, apart⟩ := unshared
  have front : text <+: text ++ mark ++ rest := by
    rw [List.append_assoc]
    exact List.prefix_append _ _
  rcases Nat.le_total mark.length text.length with shorter | longer
  · exact List.prefix_of_prefix_length_le starts front shorter
  · obtain ⟨overlap, whole⟩ := List.prefix_of_prefix_length_le front starts longer
    cases overlap with
    | nil => rw [← whole, List.append_nil]
    | cons next overlap =>
        -- the mark behind the text would start inside the first one
        obtain ⟨rest', follows⟩ := starts
        have onward : next :: overlap ++ rest' = mark ++ rest := by
          rw [← whole, List.append_assoc, List.append_assoc] at follows
          exact whole ▸ List.append_cancel_left follows
        obtain rfl : next = first := by
          rw [same] at onward
          exact (List.cons.inj onward).1
        cases text with
        | nil => exact absurd rfl visible
        | cons character text =>
            rw [same] at whole
            have inside : next ∈ others := (List.cons.inj whole).2 ▸ by simp
            exact absurd inside apart

/-- **A mark behind a text without it is the first one.** -/
theorem cut_of_absent (unshared : Unshared mark) (absent : ¬ mark <:+: text) (rest : List Char) :
    cut mark (text ++ mark ++ rest) = some (text, rest) := by
  induction text with
  | nil =>
      obtain ⟨first, others, rfl, -⟩ := unshared
      have starts : (first :: others).isPrefixOf (first :: (others ++ rest)) = true :=
        List.isPrefixOf_iff_prefix.mpr (List.prefix_append (first :: others) rest)
      rw [List.nil_append, List.cons_append, cut, if_pos starts]
      exact congrArg (fun behind => some ([], behind)) List.drop_left
  | cons character text ih =>
      have inner : ¬ mark <:+: text := fun inside => absent (List.infix_cons inside)
      have front : ¬ mark.isPrefixOf (character :: (text ++ mark ++ rest)) = true := fun starts =>
        absent (prefix_of_prefix_append unshared (List.cons_ne_nil _ _)
          (List.isPrefixOf_iff_prefix.mp starts)).isInfix
      rw [List.cons_append, List.cons_append, cut, if_neg front, ih inner]
      rfl

end Marks

/-! ## Cuts of a line -/

/-- A text, and the source of the marked expression behind it. -/
structure Part where
  before : List Char
  source : List Char

/-- A text with marked expressions, and what follows the last of them. -/
structure Parts where
  marked : List Part
  rest : List Char

/-- The text of a part, with the marks of its expression. -/
def Part.text (part : Part) : List Char := part.before ++ opening ++ part.source ++ closing

namespace Parts

/-- The text of all parts. -/
def text (parts : Parts) : List Char := parts.marked.flatMap Part.text ++ parts.rest

/-- The text of all parts, with something in place of each marked expression. -/
def filled (parts : Parts) (replacements : List (List Char)) : List Char :=
  (List.zipWith (fun part replacement => part.before ++ replacement) parts.marked
    replacements).flatten ++ parts.rest

/-- A line is cut at the marks of its expressions. -/
structure Cut (parts : Parts) (line : List Char) : Prop where
  text : parts.text = line
  /-- No source holds a closing mark. -/
  sources : ∀ part ∈ parts.marked, ¬ closing <:+: part.source
  /-- Up to the end of an opening mark there is no other one. -/
  openings : ∀ part ∈ parts.marked, ∀ front behind : List Char,
    part.before ++ opening = front ++ opening ++ behind → behind = []
  /-- In the rest, no closing mark follows an opening one. -/
  rest : ∀ front source behind : List Char,
    parts.rest ≠ front ++ opening ++ source ++ closing ++ behind

end Parts

/-- Up to the end of a mark there is no other one if and only if the text in front of it holds
none. -/
theorem absent_iff {mark text : List Char} (unshared : Unshared mark) :
    (∀ front behind, text ++ mark = front ++ mark ++ behind → behind = []) ↔
      ¬ mark <:+: text := by
  constructor
  · rintro only ⟨front, behind, rfl⟩
    have nothing := only front (behind ++ mark) (by simp only [List.append_assoc])
    obtain ⟨first, others, rfl, -⟩ := unshared
    exact List.append_ne_nil_of_right_ne_nil _ (List.cons_ne_nil _ _) nothing
  · intro absent front behind same
    rw [List.append_assoc, List.append_eq_append_iff] at same
    rcases same with ⟨overlap, -, whole⟩ | ⟨between, rfl, whole⟩
    · -- the other mark starts behind the text, so it is as long as the mark itself
      have lengths := congrArg List.length whole
      simp only [List.length_append] at lengths
      exact List.eq_nil_of_length_eq_zero (by omega)
    · cases between with
      | nil => exact List.append_right_eq_self.mp whole
      | cons next between =>
          refine absurd ?_ absent
          have starts : mark <+: next :: between ++ mark ++ [] := by
            rw [List.append_nil, ← whole]
            exact List.prefix_append _ _
          have inside := prefix_of_prefix_append unshared (List.cons_ne_nil _ _) starts
          exact inside.isInfix.trans (List.suffix_append _ _).isInfix

/-- A text is cut at the first occurrence of a mark. -/
theorem length_le_of_cut {mark text front after before behind : List Char}
    (found : cut mark text = some (before, behind)) (occurs : text = front ++ mark ++ after) :
    before.length ≤ front.length := by
  induction text generalizing front before with
  | nil =>
      unfold cut at found
      split at found <;> cases found
      exact Nat.zero_le _
  | cons character rest ih =>
      unfold cut at found
      split at found
      · cases found
        exact Nat.zero_le _
      · next later =>
        obtain ⟨⟨before', behind'⟩, inner, same⟩ := Option.map_eq_some_iff.mp found
        cases same
        cases front with
        | nil =>
            refine absurd (List.isPrefixOf_iff_prefix.mpr ?_) later
            exact ⟨after, occurs.symm⟩
        | cons first front => exact Nat.succ_le_succ (ih inner (List.cons.inj occurs).2)

/-- What follows some occurrence of a mark also follows the first one. -/
theorem suffix_of_cut {mark text front after before behind : List Char}
    (found : cut mark text = some (before, behind)) (occurs : text = front ++ mark ++ after) :
    after <:+ behind := by
  have first := length_le_of_cut found occurs
  have whole := eq_of_cut found
  refine List.suffix_of_suffix_length_le ⟨front ++ mark, occurs.symm⟩
    ⟨before ++ mark, whole.symm⟩ ?_
  have lengths := congrArg List.length (whole.symm.trans occurs)
  simp only [List.length_append] at lengths
  omega

/-- In front of its first occurrence, a mark does not stand. -/
theorem absent_of_cut {mark text before behind : List Char} (visible : mark ≠ [])
    (found : cut mark text = some (before, behind)) : ¬ mark <:+: before := by
  rintro ⟨front, after, rfl⟩
  have occurs : text = front ++ mark ++ (after ++ mark ++ behind) := by
    rw [eq_of_cut found]
    simp only [List.append_assoc]
  have first := length_le_of_cut found occurs
  have positive := List.length_pos_iff.mpr visible
  simp only [List.length_append] at first
  omega

/-- A line is not marked if no closing mark follows its first opening one. -/
theorem unmarked_iff {line : List Char} :
    (∀ front source behind, line ≠ front ++ opening ++ source ++ closing ++ behind) ↔
      ∀ before behind, cut opening line = some (before, behind) → cut closing behind = none := by
  constructor
  · intro unmarked before behind opened
    cases closed : cut closing behind with
    | none => rfl
    | some parts =>
        obtain ⟨source, rest⟩ := parts
        refine absurd ?_ (unmarked before source rest)
        rw [List.append_assoc (before ++ opening), List.append_assoc (before ++ opening),
          ← eq_of_cut closed]
        exact eq_of_cut opened
  · rintro unclosed front source after rfl
    cases opened : cut opening (front ++ opening ++ source ++ closing ++ after) with
    | none =>
        refine cut_eq_none.mp opened ⟨front, source ++ closing ++ after, ?_⟩
        simp only [List.append_assoc]
    | some parts =>
        obtain ⟨before, behind⟩ := parts
        have absent := cut_eq_none.mp (unclosed before behind opened)
        have occurs : front ++ opening ++ source ++ closing ++ after =
            front ++ opening ++ (source ++ closing ++ after) := by
          simp only [List.append_assoc]
        have onward := suffix_of_cut opened occurs
        exact absent ((List.infix_append source closing after).trans onward.isInfix)

namespace Parts.Cut

variable {part : Part} {marked : List Part} {line rest : List Char}

/-- A line without marked expressions is its own rest. -/
theorem ofLast (unclosed : ∀ before behind, cut opening line = some (before, behind) →
    cut closing behind = none) : Cut ⟨[], line⟩ line where
  text := rfl
  sources := nofun
  openings := nofun
  rest := unmarked_iff.mpr unclosed

/-- The rest of a line without parts is the line, and it has no marked expression. -/
theorem last (cuts : Cut ⟨[], rest⟩ line) : rest = line ∧
    ∀ before behind, cut opening line = some (before, behind) → cut closing behind = none := by
  obtain ⟨rfl, -, -, unmarked⟩ := cuts
  exact ⟨rfl, unmarked_iff.mp unmarked⟩

/-- The first part of a line ends at the first opening mark and the first closing one behind it. -/
theorem first (cuts : Cut ⟨part :: marked, rest⟩ line) :
    ∃ behind later, cut opening line = some (part.before, behind) ∧
      cut closing behind = some (part.source, later) ∧ Cut ⟨marked, rest⟩ later := by
  obtain ⟨rfl, sources, openings, unmarked⟩ := cuts
  obtain ⟨source, sources⟩ := List.forall_mem_cons.mp sources
  obtain ⟨alone, openings⟩ := List.forall_mem_cons.mp openings
  have spelled : Parts.text ⟨part :: marked, rest⟩ =
      part.before ++ opening ++ (part.source ++ closing ++ Parts.text ⟨marked, rest⟩) := by
    simp only [Parts.text, Part.text, List.flatMap_cons, List.append_assoc]
  rw [spelled]
  exact ⟨_, _, cut_of_absent unshared_opening ((absent_iff unshared_opening).mp alone) _,
    cut_of_absent unshared_closing source _, rfl, sources, openings, unmarked⟩

/-- A part in front of a line that is cut. -/
theorem ofFirst {behind later : List Char} (opened : cut opening line = some (part.before, behind))
    (closed : cut closing behind = some (part.source, later)) (cuts : Cut ⟨marked, rest⟩ later) :
    Cut ⟨part :: marked, rest⟩ line where
  text := by
    rw [eq_of_cut opened, eq_of_cut closed, ← cuts.text]
    simp only [Parts.text, Part.text, List.flatMap_cons, List.append_assoc]
  sources := List.forall_mem_cons.mpr ⟨absent_of_cut (by decide) closed, cuts.sources⟩
  openings := List.forall_mem_cons.mpr
    ⟨(absent_iff unshared_opening).mpr (absent_of_cut (by decide) opened), cuts.openings⟩
  rest := cuts.rest

end Parts.Cut

/-- **Every line has exactly one cut at the marks of its expressions.** -/
theorem existsUnique_cut (line : List Char) : ∃! parts : Parts, parts.Cut line := by
  induction length : line.length using Nat.strongRecOn generalizing line with
  | _ length ih =>
    subst length
    have unmarked (unclosed : ∀ before behind, cut opening line = some (before, behind) →
        cut closing behind = none) : ∃! parts : Parts, parts.Cut line := by
      refine ⟨⟨[], line⟩, .ofLast unclosed, ?_⟩
      rintro ⟨marked, rest⟩ cuts
      cases marked with
      | nil => rw [cuts.last.1]
      | cons part marked =>
          obtain ⟨behind, later, opened, closed, -⟩ := cuts.first
          cases (unclosed _ _ opened).symm.trans closed
    cases opened : cut opening line with
    | none => exact unmarked fun before behind found => by cases opened.symm.trans found
    | some parts =>
        obtain ⟨before, behind⟩ := parts
        cases closed : cut closing behind with
        | none =>
            refine unmarked fun before' behind' found => ?_
            cases opened.symm.trans found
            exact closed
        | some parts =>
            obtain ⟨source, later⟩ := parts
            have shorter : later.length < line.length :=
              Nat.lt_of_le_of_lt (length_cut_le closed) (length_cut_lt (by decide) opened)
            obtain ⟨⟨marked, rest⟩, cuts, only⟩ := ih later.length shorter later rfl
            refine ⟨⟨⟨before, source⟩ :: marked, rest⟩, .ofFirst opened closed cuts, ?_⟩
            rintro ⟨marked', rest'⟩ cuts'
            cases marked' with
            | nil => cases (cuts'.last.2 _ _ opened).symm.trans closed
            | cons part marked' =>
                obtain ⟨behind', later', opened', closed', onward⟩ := cuts'.first
                cases opened.symm.trans opened'
                cases closed.symm.trans closed'
                cases only _ onward
                rfl

/-! ## Values in place of sources -/

section Values

variable {ε : Type} {value : List Char → Except ε (List Char)} {parts : Parts} {line : List Char}

/-- A line without marked expressions stays as it is. -/
theorem apply_of_last {rest : List Char} (cuts : Parts.Cut ⟨[], rest⟩ line) :
    apply value line = .ok rest := by
  obtain ⟨rfl, unclosed⟩ := cuts.last
  cases opened : cut opening rest with
  | none => exact apply_of_unopened value opened
  | some parts => exact apply_of_unclosed value opened (unclosed _ _ opened)

variable (value) in
/-- A line is its first part, with a value in place of the source, and what the line behind it
becomes. -/
theorem exists_apply_of_first {part : Part} {marked : List Part} {rest : List Char}
    (cuts : Parts.Cut ⟨part :: marked, rest⟩ line) :
    ∃ later, Parts.Cut ⟨marked, rest⟩ later ∧
      apply value line = value part.source >>= fun replacement =>
        apply value later >>= fun remainder => .ok (part.before ++ replacement ++ remainder) := by
  obtain ⟨behind, later, opened, closed, onward⟩ := cuts.first
  exact ⟨later, onward, apply_of_closed value opened closed⟩

/-- **A line becomes its parts with values in place of the sources**, just if each source has a
value. -/
theorem apply_eq_ok {result : List Char} (cuts : parts.Cut line) :
    apply value line = .ok result ↔ ∃ replacements,
      List.Forall₂ (fun part replacement => value part.source = .ok replacement) parts.marked
        replacements ∧ parts.filled replacements = result := by
  obtain ⟨marked, rest⟩ := parts
  induction marked generalizing line result with
  | nil =>
      rw [apply_of_last cuts, Except.ok.injEq]
      constructor
      · exact fun same => ⟨[], .nil, same⟩
      · rintro ⟨replacements, found, same⟩
        cases found
        exact same
  | cons part marked ih =>
      obtain ⟨later, onward, applied⟩ := exists_apply_of_first value cuts
      rw [applied]
      constructor
      · intro succeeded
        obtain ⟨replacement, first, succeeded⟩ := exists_of_bind_eq_ok succeeded
        obtain ⟨remainder, others, succeeded⟩ := exists_of_bind_eq_ok succeeded
        cases succeeded
        obtain ⟨replacements, found, rfl⟩ := (ih onward).mp others
        exact ⟨replacement :: replacements, .cons first found, by simp [Parts.filled]⟩
      · rintro ⟨replacements, found, rfl⟩
        cases found with
        | @cons _ replacement _ replacements first others =>
            rw [first, (ih onward).mpr ⟨replacements, others, rfl⟩]
            simp [Parts.filled, bind, Except.bind]

/-- **The first source without a value decides how a line fails**, and a line fails in no other
way. -/
theorem apply_eq_error {failure : ε} (cuts : parts.Cut line) :
    apply value line = .error failure ↔ ∃ front part behind,
      parts.marked = front ++ part :: behind ∧
      (∀ earlier ∈ front, ∃ replacement, value earlier.source = .ok replacement) ∧
      value part.source = .error failure := by
  obtain ⟨marked, rest⟩ := parts
  induction marked generalizing line with
  | nil =>
      rw [apply_of_last cuts]
      refine iff_of_false nofun ?_
      rintro ⟨front, part, behind, split, -⟩
      exact List.append_ne_nil_of_right_ne_nil front (List.cons_ne_nil part behind) split.symm
  | cons part marked ih =>
      obtain ⟨later, onward, applied⟩ := exists_apply_of_first value cuts
      rw [applied]
      constructor
      · intro failed
        rcases exists_of_bind_eq_error failed with here | ⟨replacement, first, failed⟩
        · exact ⟨[], part, marked, rfl, nofun, here⟩
        · rcases exists_of_bind_eq_error failed with behind | ⟨remainder, -, impossible⟩
          · obtain ⟨front, failing, behind, split, earlier, fails⟩ := (ih onward).mp behind
            refine ⟨part :: front, failing, behind, congrArg (part :: ·) split, ?_, fails⟩
            exact List.forall_mem_cons.mpr ⟨⟨replacement, first⟩, earlier⟩
          · cases impossible
      · rintro ⟨front, failing, behind, split, earlier, fails⟩
        cases front with
        | nil =>
            obtain ⟨rfl, rfl⟩ := List.cons.inj split
            rw [fails]
            rfl
        | cons first front =>
            obtain ⟨rfl, onwards⟩ := List.cons.inj split
            obtain ⟨⟨replacement, found⟩, earlier⟩ := List.forall_mem_cons.mp earlier
            rw [found, (ih onward).mpr ⟨front, failing, behind, onwards, earlier, fails⟩]
            rfl

/-- What is made of the values of some parts is made of each value on its own. -/
theorem forall₂_map_iff {α : Type} {answer : Part → Except ε α} {shown : α → List Char}
    {marked : List Part} {replacements : List (List Char)} :
    List.Forall₂ (fun part replacement => (answer part).map shown = .ok replacement) marked
        replacements ↔
      ∃ values, List.Forall₂ (fun part value => answer part = .ok value) marked values ∧
        values.map shown = replacements := by
  constructor
  · intro found
    induction found with
    | nil => exact ⟨[], .nil, rfl⟩
    | cons first _ ih =>
        obtain ⟨value, answered, rfl⟩ := exists_of_map_eq_ok first
        obtain ⟨values, others, rfl⟩ := ih
        exact ⟨value :: values, .cons answered others, rfl⟩
  · rintro ⟨values, found, rfl⟩
    rw [List.forall₂_map_right_iff]
    exact found.imp fun part value answered => by rw [answered]; rfl

end Values

end Substitution

/-- **Values are put into a line in one pass.**  Every line has exactly one cut at the marks of its
expressions, and by this cut, in every scope: if all sources have values, the line becomes its parts
with the texts of the values in place of the sources, and if one has none, the line fails as the
first such source does. -/
theorem Scope.substitute_parts (line : List Char) :
    (∃! parts : Substitution.Parts, parts.Cut line) ∧
      ∀ parts : Substitution.Parts, parts.Cut line → ∀ scope : Scope,
        (∀ result, scope.substitute line = .ok result ↔ ∃ values : List Value,
          List.Forall₂ (fun part value => scope.evaluate (String.ofList part.source) = .ok value)
            parts.marked values ∧
          parts.filled (values.map fun value => value.text.toList) = result) ∧
        ∀ failure, scope.substitute line = .error failure ↔ ∃ front part behind,
          parts.marked = front ++ part :: behind ∧
          (∀ earlier ∈ front, ∃ value,
            scope.evaluate (String.ofList earlier.source) = .ok value) ∧
          scope.evaluate (String.ofList part.source) = .error failure := by
  refine ⟨Substitution.existsUnique_cut line, fun parts cuts scope => ⟨fun result => ?_,
    fun failure => ?_⟩⟩
  · rw [substitute, Substitution.apply_eq_ok cuts]
    constructor
    · rintro ⟨replacements, found, filled⟩
      obtain ⟨values, answered, rfl⟩ := Substitution.forall₂_map_iff.mp found
      exact ⟨values, answered, filled⟩
    · rintro ⟨values, answered, filled⟩
      exact ⟨_, Substitution.forall₂_map_iff.mpr ⟨values, answered, rfl⟩, filled⟩
  · have answers (source : List Char) :
        (∃ replacement, ((scope.evaluate (String.ofList source)).map fun value =>
          value.text.toList) = .ok replacement) ↔
        ∃ value, scope.evaluate (String.ofList source) = .ok value := by
      cases scope.evaluate (String.ofList source) with
      | error cause => exact iff_of_false nofun nofun
      | ok value => exact iff_of_true ⟨_, rfl⟩ ⟨_, rfl⟩
    have fails (source : List Char) :
        ((scope.evaluate (String.ofList source)).map fun value => value.text.toList) =
          .error failure ↔ scope.evaluate (String.ofList source) = .error failure := by
      cases scope.evaluate (String.ofList source) with
      | error cause => simp only [Except.map, Except.error.injEq]
      | ok value => exact iff_of_false nofun nofun
    simp only [substitute, Substitution.apply_eq_error cuts, answers, fails]

/-- A line whose value brings both marks, and which has an opening mark in its rest. -/
def markedLine : List Char := "x/*$\"/*$\" + \"1$\" + \"*/\"$*/y/*$z".toList

/-- The value is not read again, and the rest stays as it is. -/
theorem Scope.substitute_markedLine :
    Substitution.Parts.Cut ⟨[⟨"x".toList, "\"/*$\" + \"1$\" + \"*/\"".toList⟩], "y/*$z".toList⟩
        markedLine ∧
      Scope.substitute {} markedLine = .ok "x/*$1$*/y/*$z".toList := by
  have cuts : Substitution.Parts.Cut
      ⟨[⟨"x".toList, "\"/*$\" + \"1$\" + \"*/\"".toList⟩], "y/*$z".toList⟩ markedLine := by
    have opened : Substitution.cut Substitution.opening markedLine =
        some ("x".toList, "\"/*$\" + \"1$\" + \"*/\"$*/y/*$z".toList) := by decide
    have closed : Substitution.cut Substitution.closing "\"/*$\" + \"1$\" + \"*/\"$*/y/*$z".toList =
        some ("\"/*$\" + \"1$\" + \"*/\"".toList, "y/*$z".toList) := by decide
    refine .ofFirst opened closed (.ofLast fun before behind unclosed => ?_)
    have last : Substitution.cut Substitution.opening "y/*$z".toList =
        some ("y".toList, "z".toList) := by decide
    cases last.symm.trans unclosed
    decide
  obtain ⟨filled, -⟩ := (Scope.substitute_parts markedLine).2 _ cuts {}
  refine ⟨cuts, (filled _).mpr ⟨[.string "/*$1$*/"], ?_, ?_⟩⟩
  · refine .cons ?_ .nil
    cbv
  · decide

end CommentDirectives
