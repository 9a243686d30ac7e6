import CommentDirectives.Evaluation
import CommentDirectives.Value.Text

/-!
# Values inside lines

An expression between the marks `/*$` and `$*/` is replaced by its value.  A line
is read once from left to right: what a value brings is not read again, and an
opening mark without a closing one stays as it is, with all that follows it.
-/

namespace CommentDirectives.Substitution

set_option autoImplicit false

/-- The mark in front of an expression. -/
def opening : List Char := ['/', '*', '$']

/-- The mark behind an expression. -/
def closing : List Char := ['$', '*', '/']

/-- The text in front of the first occurrence of a mark, and the text behind it. -/
def cut (mark : List Char) : List Char → Option (List Char × List Char)
  | [] => if mark.isEmpty then some ([], []) else none
  | character :: rest =>
    if mark.isPrefixOf (character :: rest) then
      some ([], (character :: rest).drop mark.length)
    else (cut mark rest).map fun (before, behind) => (character :: before, behind)

/-- What lies behind a mark is no longer than the text. -/
theorem length_cut_le {mark text before behind : List Char}
    (found : cut mark text = some (before, behind)) : behind.length ≤ text.length := by
  induction text generalizing before with
  | nil =>
    unfold cut at found
    split at found <;> simp_all
  | cons character rest ih =>
    unfold cut at found
    split at found
    · obtain ⟨rfl, rfl⟩ : [] = before ∧ (character :: rest).drop mark.length = behind := by
        simpa using found
      rw [List.length_drop]
      exact Nat.sub_le _ _
    · obtain ⟨⟨before', behind'⟩, inner, same⟩ := Option.map_eq_some_iff.mp found
      obtain ⟨rfl, rfl⟩ : character :: before' = before ∧ behind' = behind := by simpa using same
      exact Nat.le_trans (ih inner) (Nat.le_succ _)

/-- What lies behind a mark that is not empty is shorter than the text. -/
theorem length_cut_lt {mark text before behind : List Char} (nonempty : mark ≠ [])
    (found : cut mark text = some (before, behind)) : behind.length < text.length := by
  induction text generalizing before with
  | nil =>
    unfold cut at found
    split at found <;> simp_all
  | cons character rest ih =>
    unfold cut at found
    split at found
    · obtain ⟨rfl, rfl⟩ : [] = before ∧ (character :: rest).drop mark.length = behind := by
        simpa using found
      have positive := List.length_pos_iff.mpr nonempty
      rw [List.length_drop, List.length_cons]
      omega
    · obtain ⟨⟨before', behind'⟩, inner, same⟩ := Option.map_eq_some_iff.mp found
      obtain ⟨rfl, rfl⟩ : character :: before' = before ∧ behind' = behind := by simpa using same
      exact Nat.lt_succ_of_lt (ih inner)

/-- A mark is found in the texts in which it stands. -/
theorem cut_eq_none {mark text : List Char} : cut mark text = none ↔ ¬ mark <:+: text := by
  induction text with
  | nil =>
    rw [cut, List.infix_nil, ← List.isEmpty_iff]
    split <;> simp_all
  | cons character rest ih =>
    rw [cut, List.infix_cons_iff, ← List.isPrefixOf_iff_prefix, not_or, ← ih]
    split <;> simp_all

/-- A text with every expression between marks replaced by what `value` answers for it. -/
def apply {ε : Type} (value : List Char → Except ε (List Char)) (text : List Char) :
    Except ε (List Char) :=
  match opened : cut opening text with
  | none => .ok text
  | some (before, behind) =>
    match closed : cut closing behind with
    | none => .ok text
    | some (source, rest) =>
      match value source with
      | .error failure => .error failure
      | .ok replacement =>
        have shorter : rest.length < text.length :=
          Nat.lt_of_le_of_lt (length_cut_le closed) (length_cut_lt (by decide) opened)
        match apply value rest with
        | .error failure => .error failure
        | .ok remainder => .ok (before ++ replacement ++ remainder)
termination_by text.length

section Apply

variable {ε : Type} (value : List Char → Except ε (List Char))
  {text before behind source rest : List Char}

/-- A text without an opening mark stays as it is. -/
theorem apply_of_unopened (unopened : cut opening text = none) : apply value text = .ok text := by
  rw [apply]
  split
  · rfl
  · next opened => cases unopened.symm.trans opened

/-- A text without a closing mark behind the first opening one stays as it is. -/
theorem apply_of_unclosed (opened : cut opening text = some (before, behind))
    (unclosed : cut closing behind = none) : apply value text = .ok text := by
  rw [apply]
  split
  · rfl
  · next found =>
    cases opened.symm.trans found
    split
    · rfl
    · next closed => cases unclosed.symm.trans closed

/-- The first marked expression is replaced, and then those behind it. -/
theorem apply_of_closed (opened : cut opening text = some (before, behind))
    (closed : cut closing behind = some (source, rest)) :
    apply value text = value source >>= fun replacement =>
      apply value rest >>= fun remainder => .ok (before ++ replacement ++ remainder) := by
  rw [apply]
  split
  · next unopened => cases opened.symm.trans unopened
  · next found =>
    cases opened.symm.trans found
    split
    · next unclosed => cases closed.symm.trans unclosed
    · next found' =>
      cases closed.symm.trans found'
      cases value source with
      | error failure => rfl
      | ok replacement => cases apply value rest <;> rfl

end Apply

end CommentDirectives.Substitution

namespace CommentDirectives

set_option autoImplicit false

/-- A line with the values of its marked expressions in a scope. -/
def Scope.substitute (scope : Scope) (line : List Char) :
    Except ExpressionError (List Char) :=
  Substitution.apply
    (fun source => (scope.evaluate (String.ofList source)).map fun value => value.text.toList)
    line

end CommentDirectives
