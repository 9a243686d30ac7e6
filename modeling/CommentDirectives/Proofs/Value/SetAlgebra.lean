import CommentDirectives.Proofs.Value.SetEquality

/-!
# The functions on sets are set algebra

A set is seen as the collection of all values that it contains up to equality (`Value.extent`).  Two
sets without repetitions are equal just if they have the same extent
(`Value.sameMembers_iff_extent`), and the functions on sets are the operations on extents
(`Value.WellFormedSet.extent_union` and its neighbours).  So they satisfy the laws of set algebra up
to equality, and they do not tell equal sets apart, however the members are ordered at any depth
(`Value.setFunctions_algebra`).

Sizes are counted on the lists.  What they need beside the extents is that sets with the same extent
have as many members, and the order in which a union is stored (`Value.union_eq`).
-/

namespace CommentDirectives

set_option autoImplicit false

namespace Value

/-! ## Values that a set contains -/

/-- The values without repetitions that a set contains, up to equality. -/
def extent (members : List Value) : Set { value : Value // value.WellFormed } :=
  { value | value.1.occursIn members = true }

theorem mem_extent {value : { value : Value // value.WellFormed }} {members : List Value} :
    value ∈ extent members ↔ value.1.occursIn members = true := Iff.rfl

/-- An equal of a value is contained wherever the value is. -/
theorem occursIn_of_sameMember {value other : Value} {members : List Value}
    (alike : other.sameMember value = true) (occurs : other.occursIn members = true) :
    value.occursIn members = true := by
  obtain ⟨member, inside, alike'⟩ := occursIn_iff.mp occurs
  exact occursIn_iff.mpr ⟨member, inside, sameMember_trans alike' alike⟩

/-- A set contains its members. -/
theorem occursIn_of_mem {member : Value} {members : List Value} (inside : member ∈ members) :
    member.occursIn members = true :=
  occursIn_iff.mpr ⟨member, inside, sameMember_refl member⟩

/-- Where each member of a set has an equal in another, that one contains all that the set does. -/
theorem extent_subset_iff {left right : List Value} (wellFormed : (Value.set left).WellFormed) :
    extent left ⊆ extent right ↔
      ∀ member ∈ left, ∃ other ∈ right, other.sameMember member = true := by
  constructor
  · intro within member inside
    have each := (wellFormed_set_iff.mp wellFormed).each
    have contained : ⟨member, each member inside⟩ ∈ extent left := occursIn_of_mem inside
    exact occursIn_iff.mp (within contained)
  · intro each value occurs
    obtain ⟨member, inside, alike⟩ := occursIn_iff.mp occurs
    exact occursIn_of_sameMember alike (occursIn_iff.mpr (each member inside))

section WellFormed

variable {left right : List Value} (wellFormed : (Value.set left).WellFormed)
  (wellFormed' : (Value.set right).WellFormed)
include wellFormed wellFormed'

/-- **Sets are equal when they contain the same.** -/
theorem sameMembers_iff_extent : sameMembers left right = true ↔ extent left = extent right := by
  rw [sameMembers_iff_each wellFormed wellFormed', Set.Subset.antisymm_iff,
    extent_subset_iff wellFormed, extent_subset_iff wellFormed']
  rw [wellFormed_set_iff] at wellFormed wellFormed'
  rw [wellFormed.each_iff wellFormed', wellFormed'.each_iff wellFormed]

/-- Sets that contain the same have as many members. -/
theorem length_eq_of_extent (same : extent left = extent right) : left.length = right.length := by
  have alike := (sameMembers_iff_extent wellFormed wellFormed').mpr same
  exact (sameMembers_iff.mp alike).1

end WellFormed

/-! ## How a union is stored -/

theorem distinctAfter_append (members first second : List Value) :
    distinctAfter members (first ++ second) =
      distinctAfter (distinctAfter members first) second := by
  induction first generalizing members with
  | nil => rfl
  | cons value first ih =>
      rw [List.cons_append, distinctAfter, distinctAfter]
      split
      · exact ih members
      · exact ih (members ++ [value])

/-- Of values that are apart, those are appended that do not occur in front of all of them. -/
theorem distinctAfter_of_apart (members : List Value) {taken values : List Value}
    (apart : (taken ++ values).Pairwise Apart) :
    distinctAfter (members ++ taken) values =
      members ++ taken ++ values.filter fun value => !value.occursIn members := by
  induction values generalizing taken with
  | nil => rw [distinctAfter, List.filter_nil, List.append_nil]
  | cons value rest ih =>
      have onward : (taken ++ [value] ++ rest).Pairwise Apart := by
        rwa [List.append_assoc, List.singleton_append]
      have new : value.occursIn taken = false := by
        refine List.any_eq_false.mpr fun member inside => Bool.eq_false_iff.mp ?_
        exact ((List.pairwise_append.mp apart).2.2 member inside value List.mem_cons_self).forth
      have occurs : value.occursIn (members ++ taken) = value.occursIn members := by
        rw [occursIn, List.any_append]
        exact (congrArg _ new).trans (Bool.or_false _)
      rw [distinctAfter, occurs]
      cases found : value.occursIn members with
      | true =>
          have others : (taken ++ rest).Pairwise Apart :=
            apart.sublist (List.Sublist.append_left (List.sublist_cons_self value rest) taken)
          rw [if_pos rfl, ih others, List.filter_cons_of_neg (by simp [found])]
      | false =>
          rw [if_neg Bool.false_ne_true, List.append_assoc members, ih onward,
            List.filter_cons_of_pos (by simp [found])]
          simp only [List.append_assoc, List.singleton_append]

/-- Members that are apart stay as they are. -/
theorem distinctAfter_nil_of_apart {members : List Value} (apart : members.Pairwise Apart) :
    distinctAfter [] members = members := by
  have start : ([] ++ members).Pairwise Apart := apart
  simpa [occursIn] using distinctAfter_of_apart [] start

/-- **A union is stored** as the members of the first set, and behind them those of the second set
that are not in the first, in the order that they had. -/
theorem union_eq {left right : List Value} (wellFormed : (Value.set left).WellFormed)
    (wellFormed' : (Value.set right).WellFormed) :
    union left right = left ++ right.filter fun member => !member.occursIn left := by
  rw [wellFormed_set_iff] at wellFormed wellFormed'
  have start : ([] ++ right).Pairwise Apart := wellFormed'.apart
  have behind := distinctAfter_of_apart left start
  rw [List.append_nil] at behind
  rw [union, distinct, distinctAfter_append, distinctAfter_nil_of_apart wellFormed.apart, behind]

/-! ## Members that are taken together -/

/-- Of values without repetitions, equal ones are contained in the same sets. -/
theorem occursIn_congr {value other : Value} (wellFormed : value.WellFormed)
    (wellFormed' : other.WellFormed) (alike : value.sameMember other = true)
    (members : List Value) : value.occursIn members = other.occursIn members := by
  refine Bool.eq_iff_iff.mpr ⟨fun occurs => ?_, fun occurs => ?_⟩
  · exact occursIn_of_sameMember alike occurs
  · exact occursIn_of_sameMember (wellFormed.sameMember_symm wellFormed' alike) occurs

/-- A choice of members that takes equal ones together contains what the set contains and the choice
takes. -/
theorem occursIn_filter {members : List Value} {value : Value} {keep : Value → Bool} {kept : Bool}
    (together : ∀ member ∈ members, member.sameMember value = true → keep member = kept) :
    value.occursIn (members.filter keep) = (value.occursIn members && kept) := by
  rw [Bool.eq_iff_iff, Bool.and_eq_true, occursIn_iff, occursIn_iff]
  constructor
  · rintro ⟨member, inside, alike⟩
    obtain ⟨found, takes⟩ := List.mem_filter.mp inside
    exact ⟨⟨member, found, alike⟩, together member found alike ▸ takes⟩
  · rintro ⟨⟨member, found, alike⟩, takes⟩
    exact ⟨member, List.mem_filter.mpr ⟨found, (together member found alike).trans takes⟩, alike⟩

/-! ## The functions on sets without repetitions -/

namespace WellFormedSet

/-- The set that the function `set` answers with. -/
def of (values : List Value) (each : ∀ value ∈ values, value.WellFormed) : WellFormedSet :=
  ⟨distinct values, wellFormed_setOf each⟩

def union (left right : WellFormedSet) : WellFormedSet :=
  ⟨Value.union left.1 right.1, left.2.union right.2⟩

def intersection (left right : WellFormedSet) : WellFormedSet :=
  ⟨Value.intersection left.1 right.1, left.2.filter _⟩

def difference (left right : WellFormedSet) : WellFormedSet :=
  ⟨Value.difference left.1 right.1, left.2.filter _⟩

/-- The size of a set as the language counts it. -/
def size (set : WellFormedSet) : Value := .int (IntegerText.ofCount set.1.length)

variable (left right : WellFormedSet)

/-- The members of a set have no repetitions either. -/
theorem each : ∀ member ∈ left.1, member.WellFormed := (wellFormed_set_iff.mp left.2).each

theorem equals_iff {left right : WellFormedSet} :
    (Value.set left.1).Equals (.set right.1) ↔ extent left.1 = extent right.1 :=
  equals_set_iff.trans (sameMembers_iff_extent left.2 right.2)

/-! ### What they contain -/

section Contains

variable {value : Value} (wellFormed : value.WellFormed)
include wellFormed

theorem contains_intersection :
    value.occursIn (left.intersection right).1 =
      (value.occursIn left.1 && value.occursIn right.1) := by
  refine occursIn_filter fun member inside alike => ?_
  exact occursIn_congr (left.each member inside) wellFormed alike right.1

theorem contains_difference :
    value.occursIn (left.difference right).1 =
      (value.occursIn left.1 && !value.occursIn right.1) := by
  refine occursIn_filter fun member inside alike => ?_
  exact congrArg (!·) (occursIn_congr (left.each member inside) wellFormed alike right.1)

theorem contains_union :
    value.occursIn (left.union right).1 = (value.occursIn left.1 || value.occursIn right.1) := by
  have stored : (left.union right).1 = left.1 ++ (right.difference left).1 :=
    union_eq left.2 right.2
  have appended : value.occursIn (left.union right).1 =
      (value.occursIn left.1 || value.occursIn (right.difference left).1) := by
    rw [stored]
    exact List.any_append
  rw [appended, right.contains_difference left wellFormed]
  cases value.occursIn left.1 <;> simp

end Contains

theorem extent_union : extent (left.union right).1 = extent left.1 ∪ extent right.1 := by
  ext value
  rw [Set.mem_union, mem_extent, mem_extent, mem_extent, left.contains_union right value.2,
    Bool.or_eq_true]

theorem extent_intersection :
    extent (left.intersection right).1 = extent left.1 ∩ extent right.1 := by
  ext value
  rw [Set.mem_inter_iff, mem_extent, mem_extent, mem_extent,
    left.contains_intersection right value.2, Bool.and_eq_true]

theorem extent_difference : extent (left.difference right).1 = extent left.1 \ extent right.1 := by
  ext value
  rw [Set.mem_sdiff, mem_extent, mem_extent, mem_extent, left.contains_difference right value.2,
    Bool.and_eq_true, Bool.not_eq_true', Bool.not_eq_true]

theorem union_comm : (Value.set (left.union right).1).Equals (.set (right.union left).1) := by
  rw [equals_iff, extent_union, extent_union, Set.union_comm]

theorem intersection_comm :
    (Value.set (left.intersection right).1).Equals (.set (right.intersection left).1) := by
  rw [equals_iff, extent_intersection, extent_intersection, Set.inter_comm]

/-! ### How many members they have -/

/-- The members of a set are those that it shares with another, and the others. -/
theorem length_difference :
    (left.difference right).1.length + (left.intersection right).1.length = left.1.length := by
  rw [Nat.add_comm]
  exact (List.length_eq_length_filter_add fun member : Value => member.occursIn right.1).symm

/-- What two sets share is as much on either side. -/
theorem length_intersection_comm :
    (left.intersection right).1.length = (right.intersection left).1.length :=
  length_eq_of_extent (left.intersection right).2 (right.intersection left).2
    (equals_iff.mp (left.intersection_comm right))

theorem length_union :
    (left.union right).1.length + (left.intersection right).1.length =
      left.1.length + right.1.length := by
  have stored : (left.union right).1 = left.1 ++ (right.difference left).1 :=
    union_eq left.2 right.2
  rw [stored, List.length_append, Nat.add_assoc, left.length_intersection_comm right,
    right.length_difference left]

/-- Sizes that the integers hold add up to the number of members. -/
theorem size_add (fits : left.1.length < IntegerText.topBit)
    (fits' : right.1.length < IntegerText.topBit) :
    left.size.binary .add right.size =
      .ok (.int (Int64.ofNat (left.1.length + right.1.length))) := by
  have sum : left.size.binary .add right.size =
      .ok (.int (IntegerText.ofCount left.1.length + IntegerText.ofCount right.1.length)) := rfl
  rw [sum, IntegerText.ofCount, IntegerText.ofCount, if_pos fits, if_pos fits', Int64.ofNat_add]

/-- The sizes of union and intersection add up to those of the two sets. -/
theorem size_union (fits : (left.union right).1.length < IntegerText.topBit) :
    (left.union right).size.binary .add (left.intersection right).size =
      left.size.binary .add right.size := by
  have sum := left.length_union right
  have apart := left.length_difference right
  have apart' := right.length_difference left
  rw [← left.length_intersection_comm right] at apart'
  rw [size_add _ _ fits (by omega), size_add _ _ (by omega) (by omega), sum]

/-- The sizes of difference and intersection add up to that of the first set. -/
theorem size_difference (fits : left.1.length < IntegerText.topBit) :
    (left.difference right).size.binary .add (left.intersection right).size = .ok left.size := by
  have sum := left.length_difference right
  rw [size_add _ _ (by omega) (by omega), sum, size, IntegerText.ofCount, if_pos fits]

/-! ### Equal sets -/

section Congruence

variable {left right} {left' right' : WellFormedSet} (same : extent left.1 = extent left'.1)
  (same' : extent right.1 = extent right'.1)
include same same'

theorem equals_union : (Value.set (left.union right).1).Equals (.set (left'.union right').1) := by
  rw [equals_iff, extent_union, extent_union, same, same']

theorem equals_intersection :
    (Value.set (left.intersection right).1).Equals (.set (left'.intersection right').1) := by
  rw [equals_iff, extent_intersection, extent_intersection, same, same']

theorem equals_difference :
    (Value.set (left.difference right).1).Equals (.set (left'.difference right').1) := by
  rw [equals_iff, extent_difference, extent_difference, same, same']

end Congruence

end WellFormedSet

/-! ## Set algebra -/

/-- What calls of the functions answer for two sets and a value. -/
structure SetAnswers (left right : WellFormedSet) (value : Value) : Prop where
  contains : Builtin.call "contains" [.set left.1, value] = .ok (.bool (value.occursIn left.1))
  size : Builtin.call "size" [.set left.1] = .ok left.size
  union : Builtin.call "union" [.set left.1, .set right.1] = .ok (.set (left.union right).1)
  intersection :
    Builtin.call "intersect" [.set left.1, .set right.1] = .ok (.set (left.intersection right).1)
  difference :
    Builtin.call "diff" [.set left.1, .set right.1] = .ok (.set (left.difference right).1)

theorem setAnswers (left right : WellFormedSet) (value : Value) : SetAnswers left right value where
  contains := rfl
  size := rfl
  union := rfl
  intersection := rfl
  difference := rfl

/-- The laws of the functions on two sets: what the answers contain, how many members they have,
that the sides can be changed, and the order in which a union is stored. -/
structure SetLaws (left right : WellFormedSet) : Prop where
  contains_union (value : Value) : value.WellFormed →
    value.occursIn (left.union right).1 = (value.occursIn left.1 || value.occursIn right.1)
  contains_intersection (value : Value) : value.WellFormed →
    value.occursIn (left.intersection right).1 = (value.occursIn left.1 && value.occursIn right.1)
  contains_difference (value : Value) : value.WellFormed →
    value.occursIn (left.difference right).1 = (value.occursIn left.1 && !value.occursIn right.1)
  length_union : (left.union right).1.length + (left.intersection right).1.length =
    left.1.length + right.1.length
  length_difference : (left.difference right).1.length + (left.intersection right).1.length =
    left.1.length
  /-- A list in memory is shorter than that. -/
  size_union : (left.union right).1.length < IntegerText.topBit →
    (left.union right).size.binary .add (left.intersection right).size =
      left.size.binary .add right.size
  size_difference : left.1.length < IntegerText.topBit →
    (left.difference right).size.binary .add (left.intersection right).size = .ok left.size
  union_comm : (Value.set (left.union right).1).Equals (.set (right.union left).1)
  intersection_comm :
    (Value.set (left.intersection right).1).Equals (.set (right.intersection left).1)
  stored : (left.union right).1 = left.1 ++ right.1.filter fun member => !member.occursIn left.1

theorem setLaws (left right : WellFormedSet) : SetLaws left right where
  contains_union _ := left.contains_union right
  contains_intersection _ := left.contains_intersection right
  contains_difference _ := left.contains_difference right
  length_union := left.length_union right
  length_difference := left.length_difference right
  size_union := left.size_union right
  size_difference := left.size_difference right
  union_comm := left.union_comm right
  intersection_comm := left.intersection_comm right
  stored := union_eq left.2 right.2

/-- The functions do not tell two sets apart, beside any value and any other set. -/
structure SetCongruence (first second other : WellFormedSet) : Prop where
  contains (value : Value) : value.WellFormed →
    Builtin.call "contains" [.set first.1, value] = Builtin.call "contains" [.set second.1, value]
  contained : Builtin.call "contains" [.set other.1, .set first.1] =
    Builtin.call "contains" [.set other.1, .set second.1]
  size : Builtin.call "size" [.set first.1] = Builtin.call "size" [.set second.1]
  union_left : (Value.set (first.union other).1).Equals (.set (second.union other).1)
  union_right : (Value.set (other.union first).1).Equals (.set (other.union second).1)
  intersection_left :
    (Value.set (first.intersection other).1).Equals (.set (second.intersection other).1)
  intersection_right :
    (Value.set (other.intersection first).1).Equals (.set (other.intersection second).1)
  difference_left :
    (Value.set (first.difference other).1).Equals (.set (second.difference other).1)
  difference_right :
    (Value.set (other.difference first).1).Equals (.set (other.difference second).1)

theorem setCongruence {first second : WellFormedSet}
    (equal : (Value.set first.1).Equals (.set second.1)) (other : WellFormedSet) :
    SetCongruence first second other := by
  have same := WellFormedSet.equals_iff.mp equal
  have alike : (Value.set first.1).sameMember (.set second.1) = true := by
    rw [sameMember_set]
    exact equals_set_iff.mp equal
  refine
    { contains := fun value wellFormed => ?_
      contained := ?_
      size := ?_
      union_left := WellFormedSet.equals_union same rfl
      union_right := WellFormedSet.equals_union rfl same
      intersection_left := WellFormedSet.equals_intersection same rfl
      intersection_right := WellFormedSet.equals_intersection rfl same
      difference_left := WellFormedSet.equals_difference same rfl
      difference_right := WellFormedSet.equals_difference rfl same }
  · have contained : ⟨value, wellFormed⟩ ∈ extent first.1 ↔ ⟨value, wellFormed⟩ ∈ extent second.1 :=
      Set.ext_iff.mp same ⟨value, wellFormed⟩
    rw [(setAnswers first first value).contains, (setAnswers second second value).contains,
      Bool.eq_iff_iff.mpr contained]
  · rw [(setAnswers other other _).contains, (setAnswers other other _).contains,
      occursIn_congr first.2 second.2 alike]
  · rw [(setAnswers first first default).size, (setAnswers second second default).size,
      WellFormedSet.size, WellFormedSet.size, length_eq_of_extent first.2 second.2 same]

/-- **The functions on sets are set algebra up to equality.**  For sets without repetitions they
answer, a value is in the union, the intersection or the difference just if set algebra says so, the
sizes add up, union and intersection do not depend on the side, the union is stored as the members
of the first set and behind them the new ones of the second, and sets that are equal can stand for
each other in every argument. -/
theorem setFunctions_algebra (left right third : WellFormedSet) :
    (∀ value, SetAnswers left right value) ∧ SetLaws left right ∧
      ((Value.set left.1).Equals (.set third.1) → SetCongruence left third right) :=
  ⟨setAnswers left right, setLaws left right, fun equal => setCongruence equal right⟩

/-- Two sets of an integer and a set, stored in either order, and a third one that shares the inner
set: the unions differ as lists. -/
theorem setFunctions_algebra_nested :
    ∃ left right third : WellFormedSet,
      left.1 = [.int 1, .set [.int 2, .int 3]] ∧ third.1 = [.set [.int 3, .int 2], .int 1] ∧
        right.1 = [.set [.int 3, .int 2], .int 4] ∧
        (left.union right).1 = [.int 1, .set [.int 2, .int 3], .int 4] ∧
        (third.union right).1 = [.set [.int 3, .int 2], .int 1, .int 4] ∧
        (Value.set (left.union right).1).Equals (.set (third.union right).1) := by
  have integers : ∀ first second : Int64, (setOf [.int first, .int second]).WellFormed := by
    refine fun first second => wellFormed_setOf ?_
    exact List.forall_mem_cons.mpr ⟨.int first, List.forall_mem_singleton.mpr (.int second)⟩
  let left : WellFormedSet := .of [.int 1, setOf [.int 2, .int 3]]
    (List.forall_mem_cons.mpr ⟨.int 1, List.forall_mem_singleton.mpr (integers 2 3)⟩)
  let right : WellFormedSet := .of [setOf [.int 3, .int 2], .int 4]
    (List.forall_mem_cons.mpr ⟨integers 3 2, List.forall_mem_singleton.mpr (.int 4)⟩)
  let third : WellFormedSet := .of [setOf [.int 3, .int 2], .int 1]
    (List.forall_mem_cons.mpr ⟨integers 3 2, List.forall_mem_singleton.mpr (.int 1)⟩)
  have equal : (Value.set left.1).Equals (.set third.1) := by cbv
  have laws := setFunctions_algebra left right third
  refine ⟨left, right, third, ?_, ?_, ?_, ?_, ?_, (laws.2.2 equal).union_left⟩
  all_goals cbv

end Value

end CommentDirectives
