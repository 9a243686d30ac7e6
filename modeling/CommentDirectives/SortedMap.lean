/-!
# Finite maps in the order of their keys

Layers of variables and trees of files are finite maps whose entries come out in
the order of their keys.  A map is the list of its entries, each key once and in
ascending order, so that two maps are equal as soon as they answer every key
alike (`SortedMap.ext`).
-/

namespace CommentDirectives

set_option autoImplicit false

/-- An order that tells keys apart: no key comes before itself, what comes before an earlier key
comes before a later one, and of two different keys one comes before the other. -/
class KeyOrder (κ : Type) [LT κ] : Prop where
  irrefl : ∀ key : κ, ¬ key < key
  trans : ∀ {first second third : κ}, first < second → second < third → first < third
  eq_of_not_lt : ∀ {left right : κ}, ¬ left < right → ¬ right < left → left = right

instance : KeyOrder String where
  irrefl := String.lt_irrefl
  trans := String.lt_trans
  eq_of_not_lt := fun notLess notGreater => String.le_antisymm notGreater notLess

instance : KeyOrder (List String) where
  irrefl := List.lt_irrefl
  trans := List.lt_trans
  eq_of_not_lt := fun notLess notGreater => List.le_antisymm notGreater notLess

/-- A finite map as the list of its entries in ascending order of their keys. -/
structure SortedMap (κ ν : Type) [LT κ] where
  entries : List (κ × ν)
  ascending : entries.Pairwise fun earlier later => earlier.1 < later.1

namespace SortedMap

variable {κ ν : Type} [LT κ]

/-! ## Operations on entries -/

/-- The value at a key among some entries. -/
def find? [DecidableEq κ] (key : κ) : List (κ × ν) → Option ν
  | [] => none
  | entry :: rest => if key = entry.1 then some entry.2 else find? key rest

/-- Some entries with the value at a key replaced or, at its place in the order, added. -/
def place [DecidableEq κ] [DecidableLT κ] (key : κ) (value : ν) : List (κ × ν) → List (κ × ν)
  | [] => [(key, value)]
  | entry :: rest =>
    if key = entry.1 then (key, value) :: rest
    else if key < entry.1 then (key, value) :: entry :: rest
    else entry :: place key value rest

/-- Every entry after a placement is the one placed or one that was there. -/
theorem mem_place [DecidableEq κ] [DecidableLT κ] {key : κ} {value : ν} {entry : κ × ν}
    {entries : List (κ × ν)} (member : entry ∈ place key value entries) :
    entry = (key, value) ∨ entry ∈ entries := by
  induction entries with
  | nil => simpa [place] using member
  | cons head rest ih =>
    unfold place at member
    split at member
    · rcases List.mem_cons.mp member with same | inside
      · exact Or.inl same
      · exact Or.inr (List.mem_cons_of_mem _ inside)
    · split at member
      · exact List.mem_cons.mp member
      · rcases List.mem_cons.mp member with same | inside
        · exact Or.inr (same ▸ List.mem_cons_self)
        · exact (ih inside).imp id (List.mem_cons_of_mem _)

/-- A placement keeps the order of the keys. -/
theorem ascending_place [DecidableEq κ] [DecidableLT κ] [KeyOrder κ] (key : κ) (value : ν)
    {entries : List (κ × ν)}
    (ascending : entries.Pairwise fun earlier later => earlier.1 < later.1) :
    (place key value entries).Pairwise fun earlier later => earlier.1 < later.1 := by
  induction entries with
  | nil => exact List.pairwise_singleton _ _
  | cons head rest ih =>
    obtain ⟨below, ascendingRest⟩ := List.pairwise_cons.mp ascending
    unfold place
    split
    · next same =>
      exact List.pairwise_cons.mpr ⟨fun entry inside => same ▸ below entry inside, ascendingRest⟩
    · next different =>
      split
      · next less =>
        refine List.pairwise_cons.mpr ⟨?_, ascending⟩
        intro entry inside
        rcases List.mem_cons.mp inside with same | inside
        · exact same ▸ less
        · exact KeyOrder.trans less (below entry inside)
      · next notLess =>
        refine List.pairwise_cons.mpr ⟨?_, ih ascendingRest⟩
        intro entry inside
        rcases mem_place inside with same | inside
        · subst same
          exact Classical.byContradiction fun notGreater =>
            different (KeyOrder.eq_of_not_lt notLess notGreater)
        · exact below entry inside

/-! ## Operations on maps -/

/-- The map without entries. -/
def empty : SortedMap κ ν := ⟨[], List.Pairwise.nil⟩

instance : Inhabited (SortedMap κ ν) := ⟨empty⟩

/-- The value at a key. -/
def get? [DecidableEq κ] (map : SortedMap κ ν) (key : κ) : Option ν := find? key map.entries

/-- Whether a key has a value. -/
def contains [DecidableEq κ] (map : SortedMap κ ν) (key : κ) : Bool := (map.get? key).isSome

/-- The map with a value put at a key. -/
def insert [DecidableEq κ] [DecidableLT κ] [KeyOrder κ]
    (map : SortedMap κ ν) (key : κ) (value : ν) : SortedMap κ ν :=
  ⟨place key value map.entries, ascending_place key value map.ascending⟩

/-- The entries whose keys have a property. -/
def filterKeys (map : SortedMap κ ν) (keep : κ → Bool) : SortedMap κ ν :=
  ⟨map.entries.filter fun entry => keep entry.1, map.ascending.filter _⟩

/-- The map without a key. -/
def erase [DecidableEq κ] (map : SortedMap κ ν) (key : κ) : SortedMap κ ν :=
  map.filterKeys fun other => !decide (other = key)

/-- The number of keys. -/
def size (map : SortedMap κ ν) : Nat := map.entries.length

/-- Whether there is no key. -/
def isEmpty (map : SortedMap κ ν) : Bool := map.entries.isEmpty

/-! ## What the operations answer -/

theorem get?_empty [DecidableEq κ] (key : κ) : (empty : SortedMap κ ν).get? key = none := rfl

theorem find?_place [DecidableEq κ] [DecidableLT κ] (key other : κ) (value : ν)
    (entries : List (κ × ν)) :
    find? other (place key value entries) =
      if other = key then some value else find? other entries := by
  induction entries with
  | nil => simp [place, find?]
  | cons head rest ih =>
    unfold place
    split
    · next same => by_cases asked : other = key <;> simp_all [find?]
    · next different =>
      split
      · by_cases asked : other = key <;> simp_all [find?]
      · by_cases asked : other = key <;> by_cases first : other = head.1 <;>
          simp_all [find?]

omit [LT κ] in
/-- A value that is found stands among the entries. -/
theorem mem_of_find? [DecidableEq κ] {key : κ} {value : ν} {entries : List (κ × ν)}
    (found : find? key entries = some value) : (key, value) ∈ entries := by
  induction entries with
  | nil => cases found
  | cons head rest ih =>
    unfold find? at found
    split at found
    · next same =>
      obtain rfl := Option.some.inj found
      rw [same]
      exact List.mem_cons_self
    · exact List.mem_cons_of_mem _ (ih found)

/-- After an insertion a key answers with the new value, and every other key as before. -/
theorem get?_insert [DecidableEq κ] [DecidableLT κ] [KeyOrder κ]
    (map : SortedMap κ ν) (key other : κ) (value : ν) :
    (map.insert key value).get? other = if other = key then some value else map.get? other :=
  find?_place key other value map.entries

omit [LT κ] in
theorem find?_filter [DecidableEq κ] (keep : κ → Bool) (key : κ) (entries : List (κ × ν)) :
    find? key (entries.filter fun entry => keep entry.1) =
      if keep key then find? key entries else none := by
  induction entries with
  | nil => simp [find?]
  | cons head rest ih =>
    by_cases kept : keep head.1 <;> by_cases same : key = head.1 <;>
      simp_all [find?]

/-- A key that is kept answers as before, and any other not at all. -/
theorem get?_filterKeys [DecidableEq κ] (map : SortedMap κ ν) (keep : κ → Bool) (key : κ) :
    (map.filterKeys keep).get? key = if keep key then map.get? key else none :=
  find?_filter keep key map.entries

/-- After a removal the key has no value, and every other key answers as before. -/
theorem get?_erase [DecidableEq κ] (map : SortedMap κ ν) (key other : κ) :
    (map.erase key).get? other = if other = key then none else map.get? other := by
  rw [erase, get?_filterKeys]
  by_cases same : other = key <;> simp [same]

/-! ## Equality of maps -/

/-- A key below all others has no value. -/
theorem find?_eq_none_of_below [DecidableEq κ] [KeyOrder κ] (key : κ) {entries : List (κ × ν)}
    (below : ∀ entry ∈ entries, key < entry.1) : find? key entries = none := by
  induction entries with
  | nil => rfl
  | cons head rest ih =>
    have differs : key ≠ head.1 := by
      intro same
      exact KeyOrder.irrefl key (by simpa [← same] using below head List.mem_cons_self)
    rw [find?, if_neg differs]
    exact ih fun entry inside => below entry (List.mem_cons_of_mem _ inside)

/-- A key in front of the first of some entries in order has no value. -/
theorem find?_eq_none_of_lt [DecidableEq κ] [KeyOrder κ] {key : κ} {head : κ × ν}
    {rest : List (κ × ν)} (less : key < head.1) (below : ∀ entry ∈ rest, head.1 < entry.1) :
    find? key (head :: rest) = none := by
  refine find?_eq_none_of_below key fun entry inside => ?_
  rcases List.mem_cons.mp inside with first | inside
  · exact first ▸ less
  · exact KeyOrder.trans less (below entry inside)

theorem entries_ext [DecidableEq κ] [KeyOrder κ] {left right : List (κ × ν)}
    (ascendingLeft : left.Pairwise fun earlier later => earlier.1 < later.1)
    (ascendingRight : right.Pairwise fun earlier later => earlier.1 < later.1)
    (same : ∀ key, find? key left = find? key right) : left = right := by
  induction left generalizing right with
  | nil =>
    cases right with
    | nil => rfl
    | cons head rest => simpa [find?] using same head.1
  | cons head rest ih =>
    cases right with
    | nil => simpa [find?] using same head.1
    | cons head' rest' =>
      obtain ⟨below, ascending⟩ := List.pairwise_cons.mp ascendingLeft
      obtain ⟨below', ascending'⟩ := List.pairwise_cons.mp ascendingRight
      have keys : head.1 = head'.1 := by
        refine KeyOrder.eq_of_not_lt (fun less => ?_) (fun less => ?_)
        · exact absurd (same head.1) (by rw [find?_eq_none_of_lt less below']; simp [find?])
        · exact absurd (same head'.1) (by rw [find?_eq_none_of_lt less below]; simp [find?])
      have heads : head = head' :=
        Prod.ext keys (by simpa [find?, keys] using same head.1)
      subst heads
      have tails : rest = rest' := by
        refine ih ascending ascending' fun key => ?_
        by_cases asked : key = head.1
        · rw [asked, find?_eq_none_of_below _ below, find?_eq_none_of_below _ below']
        · simpa [find?, asked] using same key
      rw [tails]

/-- **Maps that answer every key alike are equal.** -/
theorem ext [DecidableEq κ] [KeyOrder κ]
    {left right : SortedMap κ ν} (same : ∀ key, left.get? key = right.get? key) :
    left = right := by
  obtain ⟨entries, ascending⟩ := left
  obtain ⟨entries', ascending'⟩ := right
  obtain rfl : entries = entries' := entries_ext ascending ascending' same
  rfl

end SortedMap

end CommentDirectives
