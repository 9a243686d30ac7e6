import CommentDirectives.Proofs.Value.WellFormed

/-!
# Equality of sets is an equivalence

Two sets are compared by the numbers of their members and from one side only: each member of the
first has an equal in the second.  For sets without repetitions this comes to the same as looking
from both sides (`Value.sameMembers_iff_each`), because members that are apart cannot outnumber
others among which each of them has an equal.  So the `==` of the language is an equivalence of such
sets, and so is the equality of members that sets at a greater depth are compared with
(`Value.setEquality_equivalence`).

Numbers of single precision are members by an equality of their own, in which the undefined number
is equal to itself (`Value.sameMember_float_iff`).
-/

namespace CommentDirectives

set_option autoImplicit false

namespace Value

/-- The members of a set that holds no two equal members, and no set with such members at any
depth. -/
abbrev WellFormedSet := { members : List Value // (Value.set members).WellFormed }

/-- The `==` of the language finds two values equal. -/
def Equals (left right : Value) : Prop := left.binary .equal right = .ok (.bool true)

/-! ## Sets -/

/-- Sets can always be compared. -/
theorem binary_equal_set (left right : List Value) :
    (Value.set left).binary .equal (.set right) = .ok (.bool (sameMembers left right)) := rfl

theorem equals_set_iff {left right : List Value} :
    (Value.set left).Equals (.set right) ↔ sameMembers left right = true := by
  rw [Equals, binary_equal_set, Except.ok.injEq, Value.bool.injEq]

section WellFormedMembers

variable {left right : List Value} (wellFormed : WellFormedMembers left)
  (wellFormed' : WellFormedMembers right)
include wellFormed wellFormed'

/-- On which side the members of a set without repetitions stand does not matter. -/
theorem WellFormedMembers.each_iff :
    (∀ member ∈ left, ∃ other ∈ right, other.sameMember member = true) ↔
      ∀ member ∈ left, ∃ other ∈ right, member.sameMember other = true := by
  refine forall₂_congr fun member inside => exists_congr fun other => and_congr_right fun there => ?_
  exact (wellFormed'.each other there).sameMember_comm (wellFormed.each member inside)

/-- A set without repetitions has no more members than another in which each of them has an
equal. -/
theorem WellFormedMembers.length_le
    (each : ∀ member ∈ left, ∃ other ∈ right, member.sameMember other = true) :
    left.length ≤ right.length := by
  refine length_le_of_each wellFormed.apart (fun member inside other there => ?_)
    ((wellFormed.each_iff wellFormed').mpr each)
  exact (wellFormed'.each other there).sameMember_symm (wellFormed.each member inside)

end WellFormedMembers

/-- **Sets without repetitions are equal when each member of either one has an equal in the
other.** -/
theorem sameMembers_iff_each {left right : List Value} (wellFormed : (Value.set left).WellFormed)
    (wellFormed' : (Value.set right).WellFormed) :
    sameMembers left right = true ↔
      (∀ member ∈ left, ∃ other ∈ right, member.sameMember other = true) ∧
        ∀ other ∈ right, ∃ member ∈ left, other.sameMember member = true := by
  have turned := wellFormed.sameMember_comm wellFormed'
  rw [sameMember_set_iff, sameMember_set_iff] at turned
  rw [wellFormed_set_iff] at wellFormed wellFormed'
  rw [wellFormed.each_iff wellFormed', wellFormed'.each_iff wellFormed] at turned
  rw [sameMembers_iff, wellFormed.each_iff wellFormed']
  constructor
  · intro same
    exact ⟨same.2, (turned.mp same).2⟩
  · rintro ⟨forth, back⟩
    have asMany : left.length = right.length :=
      Nat.le_antisymm (wellFormed.length_le wellFormed' forth)
        (wellFormed'.length_le wellFormed back)
    exact ⟨asMany, forth⟩

/-! ## Numbers of single precision -/

/-- Numbers are equal as members when both are undefined, or when they are equal for the arithmetic
of binary32. -/
theorem sameMember_float_iff (left right : Float32) :
    (Value.float left).sameMember (.float right) = true ↔
      left.isNaN = true ∧ right.isNaN = true ∨ (left == right) = true := by
  have compared : (Value.float left).sameMember (.float right) =
      if left.isNaN then right.isNaN else left == right := by
    rw [sameMember]
    rfl
  rw [compared]
  cases undefined : left.isNaN with
  | true =>
      -- an undefined number is equal to none for the arithmetic
      have unequal : (left == right) = false := by
        refine Bool.eq_false_iff.mpr fun equal => ?_
        have same : left.toModel.unpack.beq right.toModel.unpack = true := equal
        exact ((Binary32.beq_iff _ _).mp same).2 ((Binary32.isNaN_iff _).mp undefined)
      simp only [unequal, if_true, true_and, Bool.false_eq_true, or_false]
  | false => simp only [Bool.false_eq_true, if_false, false_and, false_or]

/-! ## Equivalence -/

/-- **Equality of sets is an equivalence.**  On sets without repetitions the `==` of the language
always answers, it is reflexive, symmetric and transitive, and it holds just if each member of
either set has an equal in the other; the equality of members is an equivalence of all values
without repetitions, sets at any depth among them.  For it an undefined number is equal to itself,
and the two zeros are equal. -/
theorem setEquality_equivalence :
    (Equivalence fun left right : WellFormedSet => (Value.set left.1).Equals (.set right.1)) ∧
    (Equivalence fun left right : { value : Value // value.WellFormed } =>
      left.1.sameMember right.1 = true) ∧
    (∀ left right : WellFormedSet,
      (Value.set left.1).binary .equal (.set right.1) = .ok (.bool (sameMembers left.1 right.1)) ∧
      (Value.set left.1).sameMember (.set right.1) = sameMembers left.1 right.1 ∧
      (sameMembers left.1 right.1 = true ↔
        (∀ member ∈ left.1, ∃ other ∈ right.1, member.sameMember other = true) ∧
          ∀ other ∈ right.1, ∃ member ∈ left.1, other.sameMember member = true)) ∧
    (∀ left right : Float32, (Value.float left).sameMember (.float right) = true ↔
      left.isNaN = true ∧ right.isNaN = true ∨ (left == right) = true) ∧
    (Value.float 0.0).sameMember (.float (-0.0)) = true := by
  refine ⟨⟨?_, ?_, ?_⟩, ⟨?_, ?_, ?_⟩, fun left right => ⟨?_, ?_, ?_⟩, sameMember_float_iff, ?_⟩
  · intro set
    rw [equals_set_iff, ← sameMember_set]
    exact sameMember_refl (.set set.1)
  · intro left right equal
    rw [equals_set_iff, ← sameMember_set] at equal ⊢
    exact left.2.sameMember_symm right.2 equal
  · intro first second third earlier later
    rw [equals_set_iff, ← sameMember_set] at earlier later ⊢
    exact sameMember_trans earlier later
  · intro value
    exact sameMember_refl value.1
  · intro left right alike
    exact left.2.sameMember_symm right.2 alike
  · intro first second third earlier later
    exact sameMember_trans earlier later
  · exact binary_equal_set left.1 right.1
  · exact sameMember_set left.1 right.1
  · exact sameMembers_iff_each left.2 right.2
  · rw [sameMember]
    rfl

end Value

end CommentDirectives
