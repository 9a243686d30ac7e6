import Mathlib
import CommentDirectives.Value

/-!
# Equality of the members of sets

Values are equal as members when they have the same kind and the same value, where the order of a
set does not count.  Every value is equal to itself (`Value.sameMember_refl`), and what is equal to
an equal of a value is equal to it (`Value.sameMember_trans`).  Both hold of all values.

The third law does not: a set of two equal members has an equal in every set of two members that
holds one of them, but not the other way round.  It holds of values in which no set, at any depth,
holds two equal members (`Value.WellFormed`, `Value.WellFormed.sameMember_symm`), for then as many
members on either side, each with an equal on the other, exhaust the other side.
-/

namespace CommentDirectives

set_option autoImplicit false

/-! ## Numbers as members -/

namespace Binary32

/-- A number of single precision taken apart, with one zero for the two. -/
def withOneZero : Float.Model.UnpackedFloat → Float.Model.UnpackedFloat
  | .zero _ => .zero .positive
  | number => number

/-- What tells a number from others as a member. -/
def memberKey (number : Float32) : Float.Model.UnpackedFloat :=
  withOneZero number.toModel.unpack

theorem isNaN_iff (number : Float.Model.UnpackedFloat) :
    number.isNaN = true ↔ withOneZero number = .notANumber := by
  cases number <;> simp [Float.Model.UnpackedFloat.isNaN, withOneZero]

/-- Numbers are equal for the arithmetic of binary32 when they are defined and the same, but for the
sign of a zero. -/
theorem beq_iff (first second : Float.Model.UnpackedFloat) :
    first.beq second = true ↔
      withOneZero first = withOneZero second ∧ withOneZero first ≠ .notANumber := by
  unfold Float.Model.UnpackedFloat.beq
  cases first with
  | notANumber => simp [Float.Model.UnpackedFloat.compare, withOneZero]
  | zero sign =>
      cases second with
      | zero | notANumber => simp [Float.Model.UnpackedFloat.compare, withOneZero]
      | infinity sign' | finite sign' =>
          cases sign' <;> simp [Float.Model.UnpackedFloat.compare, withOneZero]
  | infinity sign =>
      cases second with
      | infinity sign' =>
          cases sign <;> cases sign' <;>
            simp [Float.Model.UnpackedFloat.compare, withOneZero] <;> decide
      | zero | notANumber | finite =>
          cases sign <;> simp [Float.Model.UnpackedFloat.compare, withOneZero]
  | finite sign mantissa exponent =>
      cases second with
      | finite sign' mantissa' exponent' =>
          cases sign <;> cases sign' <;>
            simp [Float.Model.UnpackedFloat.compare, withOneZero, Ordering.then_eq_eq, and_comm]
      | infinity sign' =>
          cases sign <;> cases sign' <;> simp [Float.Model.UnpackedFloat.compare, withOneZero]
      | zero | notANumber =>
          cases sign <;> simp [Float.Model.UnpackedFloat.compare, withOneZero]

/-- Numbers are equal as members when their keys are the same. -/
theorem sameMember_iff (left right : Float32) :
    sameMember left right = true ↔ memberKey left = memberKey right := by
  have compared : sameMember left right =
      if left.toModel.unpack.isNaN then right.toModel.unpack.isNaN
      else left.toModel.unpack.beq right.toModel.unpack := rfl
  rw [compared, memberKey, memberKey]
  by_cases undefined : left.toModel.unpack.isNaN = true
  · rw [if_pos undefined, isNaN_iff, (isNaN_iff _).mp undefined, eq_comm]
  · rw [if_neg undefined, beq_iff]
    rw [isNaN_iff] at undefined
    exact and_iff_left undefined

end Binary32

namespace Value

/-! ## Laws of all values -/

/-- Induction on a value and, for a set, on its members. -/
@[elab_as_elim]
theorem inductionOnMembers {motive : Value → Prop} (int : ∀ number, motive (.int number))
    (float : ∀ number, motive (.float number)) (string : ∀ text, motive (.string text))
    (bool : ∀ truth, motive (.bool truth))
    (set : ∀ members, (∀ member ∈ members, motive member) → motive (.set members)) :
    ∀ value, motive value
  | .int number => int number
  | .float number => float number
  | .string text => string text
  | .bool truth => bool truth
  | .set members => set members fun member _ =>
      inductionOnMembers int float string bool set member

theorem occursIn_iff {value : Value} {members : List Value} :
    value.occursIn members = true ↔ ∃ member ∈ members, member.sameMember value = true :=
  List.any_eq_true

/-- Sets are equal when they have as many members and each on the left has an equal on the
right. -/
theorem sameMembers_iff {left right : List Value} :
    sameMembers left right = true ↔
      left.length = right.length ∧
        ∀ member ∈ left, ∃ other ∈ right, other.sameMember member = true := by
  simp only [sameMembers, Bool.and_eq_true, beq_iff_eq, List.all_eq_true, occursIn_iff]

theorem sameMember_set_iff {left right : List Value} :
    (Value.set left).sameMember (.set right) = true ↔
      left.length = right.length ∧
        ∀ member ∈ left, ∃ other ∈ right, other.sameMember member = true := by
  rw [sameMember_set, sameMembers_iff]

/-- Only sets are equal to sets. -/
theorem exists_set_right {members : List Value} {value : Value}
    (alike : (Value.set members).sameMember value = true) : ∃ others, value = .set others := by
  cases value with
  | set others => exact ⟨others, rfl⟩
  | int | float | string | bool => simp [sameMember] at alike

theorem exists_set_left {members : List Value} {value : Value}
    (alike : value.sameMember (.set members) = true) : ∃ others, value = .set others := by
  cases value with
  | set others => exact ⟨others, rfl⟩
  | int | float | string | bool => simp [sameMember] at alike

theorem sameMember_refl (value : Value) : value.sameMember value = true := by
  induction value using inductionOnMembers with
  | int | string | bool => simp [sameMember]
  | float number =>
      rw [sameMember]
      exact (Binary32.sameMember_iff number number).mpr rfl
  | set members ih =>
      exact sameMember_set_iff.mpr ⟨rfl, fun member inside => ⟨member, inside, ih member inside⟩⟩

/-- What is equal to an equal of a value is equal to it, on either side.  The members of equal sets
are compared the other way round, so one side needs the other side of the members. -/
theorem sameMember_chains (value : Value) :
    (∀ middle last : Value, value.sameMember middle = true → middle.sameMember last = true →
      value.sameMember last = true) ∧
    (∀ middle first : Value, first.sameMember middle = true → middle.sameMember value = true →
      first.sameMember value = true) := by
  induction value using inductionOnMembers with
  | int number | string text | bool truth =>
      constructor
      · intro middle last left right
        cases middle <;> simp only [sameMember, Bool.false_eq_true, beq_iff_eq] at left
        rwa [left]
      · intro middle first left right
        cases middle <;> simp only [sameMember, Bool.false_eq_true, beq_iff_eq] at right
        rwa [← right]
  | float number =>
      constructor
      · intro middle last left right
        cases middle <;> simp only [sameMember, Bool.false_eq_true] at left
        cases last <;> simp only [sameMember, Bool.false_eq_true] at right ⊢
        rw [Binary32.sameMember_iff] at left right ⊢
        exact left.trans right
      · intro middle first left right
        cases middle <;> simp only [sameMember, Bool.false_eq_true] at right
        cases first <;> simp only [sameMember, Bool.false_eq_true] at left ⊢
        rw [Binary32.sameMember_iff] at left right ⊢
        exact left.trans right
  | set members ih =>
      constructor
      · intro middle last left right
        obtain ⟨others, rfl⟩ := exists_set_right left
        obtain ⟨lasts, rfl⟩ := exists_set_right right
        rw [sameMember_set_iff] at left right ⊢
        refine ⟨left.1.trans right.1, fun member inside => ?_⟩
        obtain ⟨other, inOthers, alike⟩ := left.2 member inside
        obtain ⟨third, inLasts, alike'⟩ := right.2 other inOthers
        exact ⟨third, inLasts, (ih member inside).2 other third alike' alike⟩
      · intro middle first left right
        obtain ⟨others, rfl⟩ := exists_set_left right
        obtain ⟨firsts, rfl⟩ := exists_set_left left
        rw [sameMember_set_iff] at left right ⊢
        refine ⟨left.1.trans right.1, fun third inFirsts => ?_⟩
        obtain ⟨other, inOthers, alike⟩ := left.2 third inFirsts
        obtain ⟨member, inside, alike'⟩ := right.2 other inOthers
        exact ⟨member, inside, (ih member inside).1 other third alike' alike⟩

/-- What is equal to an equal of a value is equal to it. -/
theorem sameMember_trans {first second third : Value} (left : first.sameMember second = true)
    (right : second.sameMember third = true) : first.sameMember third = true :=
  (sameMember_chains first).1 second third left right

/-! ## Values without repetitions -/

/-- Two values that are not equal as members, on whichever side they stand. -/
structure Apart (first second : Value) : Prop where
  forth : first.sameMember second = false
  back : second.sameMember first = false

/-- A value in which no set, at any depth, holds two equal members. -/
inductive WellFormed : Value → Prop where
  | int (number : Int64) : WellFormed (.int number)
  | float (number : Float32) : WellFormed (.float number)
  | string (text : String) : WellFormed (.string text)
  | bool (truth : Bool) : WellFormed (.bool truth)
  | set {members : List Value} (apart : members.Pairwise Apart)
      (each : ∀ member ∈ members, WellFormed member) : WellFormed (.set members)

/-- Members that are apart cannot outnumber others among which each of them has an equal: no two of
them are equal to the same one. -/
theorem length_le_of_each {left right : List Value} (apart : left.Pairwise Apart)
    (turns : ∀ member ∈ left, ∀ other ∈ right,
      other.sameMember member = true → member.sameMember other = true)
    (each : ∀ member ∈ left, ∃ other ∈ right, other.sameMember member = true) :
    left.length ≤ right.length := by
  choose! partner there alike using each
  have different : (left.map partner).Nodup := by
    rw [List.Nodup, List.pairwise_map]
    refine apart.imp_of_mem fun {first second} inFirst inSecond apart same => ?_
    have forth := turns first inFirst _ (there first inFirst) (alike first inFirst)
    have repeated := sameMember_trans forth (same ▸ alike second inSecond)
    rw [apart.forth] at repeated
    cases repeated
  have inside : left.map partner ⊆ right := by
    intro other found
    obtain ⟨member, here, rfl⟩ := List.mem_map.mp found
    exact there member here
  simpa using (different.subperm inside).length_le

/-- Where as many members stand on either side, those on the left are apart, and each of them has an
equal on the right, they exhaust the right side. -/
theorem exists_of_exhausted {left right : List Value} (apart : left.Pairwise Apart)
    (turns : ∀ member ∈ left, ∀ other ∈ right,
      other.sameMember member = true → member.sameMember other = true)
    (same : left.length = right.length)
    (each : ∀ member ∈ left, ∃ other ∈ right, other.sameMember member = true) :
    ∀ other ∈ right, ∃ member ∈ left, other.sameMember member = true := by
  intro other found
  by_contra missing
  obtain ⟨front, back, rfl⟩ := List.append_of_mem found
  have widens : ∀ next ∈ front ++ back, next ∈ front ++ other :: back := fun next here =>
    (List.Sublist.append_left (List.sublist_cons_self other back) front).mem here
  -- Without the one that is missed, the right side has too few members.
  have fewer : left.length ≤ (front ++ back).length := by
    refine length_le_of_each apart
      (fun member there next here => turns member there next (widens next here)) ?_
    intro member there
    obtain ⟨next, here, alike⟩ := each member there
    refine ⟨next, ?_, alike⟩
    rcases List.mem_append.mp here with here | here
    · exact List.mem_append_left _ here
    · refine List.mem_append_right _ (List.mem_of_ne_of_mem ?_ here)
      rintro rfl
      exact missing ⟨member, there, alike⟩
  simp only [List.length_append, List.length_cons] at same fewer
  omega

/-- **Equality of members can be turned round** on values without repetitions. -/
theorem WellFormed.sameMember_comm {first second : Value} (wellFormed : first.WellFormed)
    (wellFormed' : second.WellFormed) :
    first.sameMember second = true ↔ second.sameMember first = true := by
  induction first using inductionOnMembers generalizing second with
  | int number | string text | bool truth =>
      cases second <;> simp only [sameMember, Bool.false_eq_true, beq_iff_eq]
      exact eq_comm
  | float number =>
      cases second <;> simp only [sameMember, Bool.false_eq_true]
      rw [Binary32.sameMember_iff, Binary32.sameMember_iff, eq_comm]
  | set members ih =>
      cases second with
      | set others =>
          rw [sameMember_set_iff, sameMember_set_iff]
          cases wellFormed with
          | set apart each =>
              cases wellFormed' with
              | set apart' each' =>
                  have turns (member : Value) (inside : member ∈ members) (other : Value)
                      (there : other ∈ others) :
                      member.sameMember other = true ↔ other.sameMember member = true :=
                    ih member inside (each member inside) (each' other there)
                  constructor
                  · rintro ⟨asMany, found⟩
                    refine ⟨asMany.symm, fun other there => ?_⟩
                    have exhausted := exists_of_exhausted apart
                      (fun member inside other there => (turns member inside other there).mpr)
                      asMany found
                    obtain ⟨member, inside, alike⟩ := exhausted other there
                    exact ⟨member, inside, (turns member inside other there).mpr alike⟩
                  · rintro ⟨asMany, found⟩
                    refine ⟨asMany.symm, fun member inside => ?_⟩
                    have exhausted := exists_of_exhausted apart'
                      (fun other there member inside => (turns member inside other there).mp)
                      asMany found
                    obtain ⟨other, there, alike⟩ := exhausted member inside
                    exact ⟨other, there, (turns member inside other there).mp alike⟩
      | int | string | bool | float => simp [sameMember]

theorem WellFormed.sameMember_symm {first second : Value} (wellFormed : first.WellFormed)
    (wellFormed' : second.WellFormed) (alike : first.sameMember second = true) :
    second.sameMember first = true :=
  (wellFormed.sameMember_comm wellFormed').mp alike

/-- Where one of two values without repetitions is no equal of the other, they are apart. -/
theorem WellFormed.apart {first second : Value} (wellFormed : first.WellFormed)
    (wellFormed' : second.WellFormed) (differs : first.sameMember second = false) :
    first.Apart second := by
  refine ⟨differs, ?_⟩
  cases turned : second.sameMember first with
  | false => rfl
  | true => exact absurd (wellFormed'.sameMember_symm wellFormed turned) (by simp [differs])

end Value

end CommentDirectives
