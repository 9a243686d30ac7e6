import CommentDirectives.Scope

/-!
# The provider that owns a name

Of the providers that own a name, the first one in their order is asked for it, by assignments and
by lookups (`Provider.FirstOwner`).  An assignment among providers changes this one and no other, if
it takes changes at all (`Provider.assignAmong?_of_firstOwner`, `Provider.exists_of_assignAmong`).
So what holds of every provider, of the names that are owned, or of the answers to other names is
followed through an assignment without going through the list again.
-/

namespace CommentDirectives

set_option autoImplicit false

namespace Provider

variable {name other : String} {value : Value}

section Congruence

variable (same : Name.normalize name = Name.normalize other)
include same

theorem owns_congr (provider : Provider) : provider.owns name = provider.owns other := by
  rw [owns, owns, same]

theorem get?_congr (provider : Provider) : provider.get? name = provider.get? other := by
  rw [get?, get?, same]

end Congruence

/-- A provider with a value for a name. -/
def withValue (provider : Provider) (name : String) (value : Value) : Provider :=
  { provider with values := provider.values.insert (Name.normalize name) value }

/-- Names that are stored alike are given a value alike. -/
theorem withValue_congr (same : Name.normalize name = Name.normalize other) (provider : Provider)
    (value : Value) : provider.withValue name value = provider.withValue other value := by
  rw [withValue, same, withValue]

theorem get?_withValue_of_ne (different : Name.normalize other ≠ Name.normalize name)
    (provider : Provider) : (provider.withValue name value).get? other = provider.get? other :=
  (SortedMap.get?_insert ..).trans (if_neg different)

/-! ## The first owner -/

/-- The first of some providers that owns a name, with those in front of it and behind it. -/
structure FirstOwner (name : String) (providers front : List Provider) (owner : Provider)
    (behind : List Provider) : Prop where
  split : providers = front ++ owner :: behind
  others : ∀ provider ∈ front, provider.owns name = false
  owns : owner.owns name = true

namespace FirstOwner

variable {providers front behind : List Provider} {owner : Provider}

theorem mem (first : FirstOwner name providers front owner behind) : owner ∈ providers := by
  rw [first.split]
  exact List.mem_append_right _ List.mem_cons_self

theorem any_owns (first : FirstOwner name providers front owner behind) :
    providers.any (·.owns name) = true := by
  rw [first.split, List.any_append, List.any_cons, first.owns, Bool.true_or, Bool.or_true]

theorem find? (first : FirstOwner name providers front owner behind) :
    providers.find? (·.owns name) = some owner :=
  List.find?_eq_some_iff_append.mpr
    ⟨first.owns, front, behind, first.split, by simpa using first.others⟩

/-- A value for the name does not change who owns it. -/
theorem withValue (first : FirstOwner name providers front owner behind) (value : Value) :
    FirstOwner name (front ++ owner.withValue name value :: behind) front
      (owner.withValue name value) behind :=
  ⟨rfl, first.others, first.owns⟩

/-- Names that are stored alike have the same owner. -/
theorem congr (first : FirstOwner name providers front owner behind)
    (same : Name.normalize other = Name.normalize name) :
    FirstOwner other providers front owner behind where
  split := first.split
  others provider inside := (owns_congr same provider).trans (first.others provider inside)
  owns := (owns_congr same owner).trans first.owns

end FirstOwner

/-- A name that is owned has a first owner. -/
theorem exists_firstOwner {providers : List Provider}
    (owned : providers.any (·.owns name) = true) :
    ∃ front owner behind, FirstOwner name providers front owner behind := by
  have present : (providers.find? (·.owns name)).isSome = true :=
    List.find?_isSome.mpr (List.any_eq_true.mp owned)
  obtain ⟨owner, found⟩ := Option.isSome_iff_exists.mp present
  obtain ⟨owns, front, behind, split, others⟩ := List.find?_eq_some_iff_append.mp found
  exact ⟨front, owner, behind, split, by simpa using others, owns⟩

/-! ## Assignments -/

/-- Nothing is assigned among providers of which none owns the name, and only among those. -/
theorem assignAmong?_eq_none {providers : List Provider} :
    assignAmong? name value providers = none ↔ providers.any (·.owns name) = false := by
  induction providers with
  | nil => exact iff_of_true rfl rfl
  | cons provider rest ih =>
      rw [assignAmong?, List.any_cons]
      split
      · next owns => exact iff_of_false nofun (by simp [owns])
      · next other => rw [Option.map_eq_none_iff, ih, Bool.eq_false_iff.mpr other, Bool.false_or]

/-- **An assignment among providers goes to the first owner of the name**, and to no other. -/
theorem assignAmong?_of_firstOwner {providers front behind : List Provider} {owner : Provider}
    (first : FirstOwner name providers front owner behind) (value : Value) :
    assignAmong? name value providers =
      some (if owner.writable then .ok (front ++ owner.withValue name value :: behind)
        else .error ("'" ++ name ++ "' is provided by a read-only source")) := by
  obtain ⟨rfl, others, owns⟩ := first
  induction front with
  | nil =>
      rw [List.nil_append, assignAmong?, if_pos owns, Provider.set]
      split <;> rfl
  | cons provider rest ih =>
      obtain ⟨other, others⟩ := List.forall_mem_cons.mp others
      rw [List.cons_append, assignAmong?, if_neg (Bool.eq_false_iff.mp other), ih others]
      split <;> rfl

/-- **What an assignment that is taken makes of the providers.** -/
theorem exists_of_assignAmong {providers changed : List Provider}
    (taken : assignAmong? name value providers = some (.ok changed)) :
    ∃ front owner behind, FirstOwner name providers front owner behind ∧
      owner.writable = true ∧ changed = front ++ owner.withValue name value :: behind := by
  cases owned : providers.any (·.owns name) with
  | false => cases (assignAmong?_eq_none.mpr owned).symm.trans taken
  | true =>
      obtain ⟨front, owner, behind, first⟩ := exists_firstOwner owned
      rw [assignAmong?_of_firstOwner first] at taken
      split at taken
      · next writable =>
        cases taken
        exact ⟨front, owner, behind, first, writable, rfl⟩
      · cases taken

/-- The first provider that owns a name answers with what was assigned to it. -/
theorem exists_owner_of_assignAmong {providers changed : List Provider}
    (assigned : assignAmong? name value providers = some (.ok changed)) :
    ∃ owner, changed.find? (·.owns name) = some owner ∧ owner.get? name = some value := by
  obtain ⟨front, owner, behind, first, -, rfl⟩ := exists_of_assignAmong assigned
  exact ⟨_, (first.withValue value).find?, (SortedMap.get?_insert ..).trans (if_pos rfl)⟩

/-! ## Answers -/

/-- The answer of the provider that owns a name, if there is one. -/
def answer? (providers : List Provider) (name : String) : Option (Option Value) :=
  (providers.find? (·.owns name)).map (·.get? name)

/-- A value for a name changes no answer for a name that is stored elsewhere. -/
theorem answer?_withValue (different : Name.normalize other ≠ Name.normalize name)
    (front behind : List Provider) (owner : Provider) :
    answer? (front ++ owner.withValue name value :: behind) other =
      answer? (front ++ owner :: behind) other := by
  have owns : (owner.withValue name value).owns other = owner.owns other := rfl
  rw [answer?, answer?, List.find?_append, List.find?_append, List.find?_cons, List.find?_cons,
    owns]
  cases front.find? (·.owns other) with
  | some provider => rfl
  | none =>
      cases owner.owns other with
      | false => rfl
      | true => exact congrArg some (get?_withValue_of_ne different owner)

/-- Which names are owned is told by the beginnings of the providers. -/
theorem any_owns_congr {left right : List Provider}
    (realms : right.map (·.realm) = left.map (·.realm)) (name : String) :
    right.any (·.owns name) = left.any (·.owns name) := by
  have told (providers : List Provider) : providers.any (·.owns name) =
      (providers.map (·.realm)).any fun realm =>
        realm.toList.isPrefixOf (Name.normalize name).toList := by
    rw [List.any_map]
    rfl
  rw [told, told, realms]

end Provider

/-- For a name that no provider owns, none answers. -/
theorem Scope.providerFor?_eq_none {scope : Scope} {name : String}
    (unowned : scope.providers.any (·.owns name) = false) : scope.providerFor? name = none :=
  List.find?_eq_none.mpr (by simpa using unowned)

/-- A lookup depends on the answer of the owner, the place, and the layers at the name. -/
theorem Scope.lookup_congr {left right : Scope} {name : String}
    (answers : Provider.answer? right.providers name = Provider.answer? left.providers name)
    (position : right.position = left.position)
    (locals : right.locals.get? name = left.locals.get? name)
    (globals : right.globals.get? name = left.globals.get? name) :
    right.lookup name = left.lookup name := by
  unfold Provider.answer? at answers
  unfold lookup providerFor?
  rw [position, locals, globals]
  cases found : right.providers.find? (·.owns name) with
  | none =>
      rw [found, Option.map_none] at answers
      rw [Option.map_eq_none_iff.mp answers.symm]
  | some provider =>
      rw [found, Option.map_some] at answers
      obtain ⟨owner, present, same⟩ := Option.map_eq_some_iff.mp answers.symm
      rw [present]
      exact same.symm

end CommentDirectives
