import CommentDirectives.Proofs.Processing.WrittenNames

/-!
# Assignments and removals touch one name

An assignment of a name that a provider owns goes to the first such provider in their order and to
nothing else, and such a name is never removed.  Every other name is written to the layer that is
asked for, and removed from the file's own layer or else from the shared one.

Three functions decide where a name belongs: an assignment asks the providers for the name in lower
case, a removal for the name as it is, and a lookup for the name as it is stored.  For names that
directives accept these are one (`Name.normalize_lowercase`), so that no lookup of a name that is
stored under another key changes (`Session.othersAlike_of_assign`,
`Session.othersAlike_of_undefine`).

For the same reason no line gives a layer a name that a provider owns, or takes one away
(`Session.keepsOwned_processLine`).
-/

namespace CommentDirectives

set_option autoImplicit false

/-! ## Layers -/

section Layers

variable {name other : String} (different : Name.normalize other ≠ Name.normalize name)
include different

theorem Layer.get?_set_of_ne (layer : Layer) (value : Value) :
    (layer.set name value).get? other = layer.get? other :=
  (SortedMap.get?_insert ..).trans (if_neg different)

theorem Layer.get?_remove_of_ne (layer : Layer) :
    (layer.remove name).get? other = layer.get? other :=
  (SortedMap.get?_erase ..).trans (if_neg different)

end Layers

open Provider (FirstOwner)

/-! ## One assignment, one removal -/

namespace Session

variable {session after : Session} {name other : String} {value : Value}

/-- On every line, names that are stored under other keys than a name are looked up alike. -/
def OthersAlike (name : String) (left right : Session) : Prop :=
  ∀ context other, Name.normalize other ≠ Name.normalize name →
    (right.scope context).lookup other = (left.scope context).lookup other

/-- **An assignment of a name that a provider owns changes the first owner**, or nothing if that
one refuses changes. -/
theorem assign_of_firstOwner {front behind : List Provider} {owner : Provider}
    (valid : Name.isValid name = true)
    (first : FirstOwner name session.providers front owner behind) (kind : LayerKind)
    (value : Value) :
    session.assign kind name value =
      if owner.writable then
        .ok { session with providers := front ++ owner.withValue name value :: behind }
      else
        .error (withoutValue (.readOnlyVariable name
          ("'" ++ Text.lowercase name ++ "' is provided by a read-only source"))) := by
  have stored := Name.normalize_lowercase valid
  unfold assign
  rw [Provider.assignAmong?_of_firstOwner (first.congr stored), Provider.withValue_congr stored]
  cases owner.writable <;> rfl

/-- A name that a provider owns is not removed. -/
theorem undefine_of_owned (owned : session.providers.any (·.owns name) = true) :
    session.undefine name =
      .error (withoutValue (.readOnlyVariable name "provider variables cannot be removed")) :=
  if_pos owned

/-- A name that no provider owns is given its value in the layer that is asked for. -/
theorem assign_of_free (valid : Name.isValid name = true)
    (free : session.providers.any (·.owns name) = false) (kind : LayerKind) (value : Value) :
    session.assign kind name value =
      match kind with
      | .locals => .ok { session with locals := session.locals.set name value }
      | .globals => .ok { session with globals := session.globals.set name value } := by
  have stored := Name.normalize_lowercase valid
  have unowned : session.providers.any (·.owns (Text.lowercase name)) = false := by
    simpa only [Provider.owns_congr stored] using free
  have nowhere : Provider.assignAmong? (Text.lowercase name) value session.providers = none :=
    Provider.assignAmong?_eq_none.mpr unowned
  cases kind with
  | locals | globals => simp only [assign, nowhere]

/-- A name that no provider owns is removed from one layer at most, the file's own first. -/
theorem undefine_of_free (free : session.providers.any (·.owns name) = false) :
    session.undefine name =
      if session.locals.contains name then
        .ok { session with locals := session.locals.remove name }
      else if session.globals.contains name then
        .ok { session with globals := session.globals.remove name }
      else .error (withoutValue (.unresolvedVariable name)) :=
  if_neg (Bool.eq_false_iff.mp free)

/-- **An assignment changes the lookup of no other name.** -/
theorem othersAlike_of_assign {kind : LayerKind} (valid : Name.isValid name = true)
    (assigned : session.assign kind name value = .ok after) : OthersAlike name session after := by
  intro context other different
  cases owned : session.providers.any (·.owns name) with
  | true =>
      obtain ⟨front, owner, behind, first⟩ := Provider.exists_firstOwner owned
      rw [assign_of_firstOwner valid first] at assigned
      split at assigned <;> cases assigned
      have answers : Provider.answer? (front ++ owner.withValue name value :: behind) other =
          Provider.answer? session.providers other := by
        rw [first.split, Provider.answer?_withValue different]
      exact Scope.lookup_congr answers rfl rfl rfl
  | false =>
      rw [assign_of_free valid owned] at assigned
      cases kind with
      | locals =>
          cases assigned
          exact Scope.lookup_congr rfl rfl (Layer.get?_set_of_ne different _ value) rfl
      | globals =>
          cases assigned
          exact Scope.lookup_congr rfl rfl rfl (Layer.get?_set_of_ne different _ value)

/-- **A removal changes the lookup of no other name.** -/
theorem othersAlike_of_undefine (removed : session.undefine name = .ok after) :
    OthersAlike name session after := by
  intro context other different
  unfold undefine at removed
  split at removed
  · cases removed
  split at removed
  · cases removed
    exact Scope.lookup_congr rfl rfl (Layer.get?_remove_of_ne different _) rfl
  split at removed
  · cases removed
    exact Scope.lookup_congr rfl rfl rfl (Layer.get?_remove_of_ne different _)
  · cases removed

end Session

/-! ## Names that providers own -/

/-- A layer has the same values as another for all names that some providers own. -/
def Layer.KeepsOwned (providers : List Provider) (before after : Layer) : Prop :=
  ∀ name, providers.any (·.owns name) = true → after.get? name = before.get? name

namespace Session

variable {session after : Session} {context : LineContext} {directive : Directive}
  {tail : List Char}

/-- The same names are owned, and those are neither given to a layer nor taken away. -/
structure KeepsOwned (before after : Session) : Prop where
  realms : after.providers.map (·.realm) = before.providers.map (·.realm)
  locals : before.locals.KeepsOwned before.providers after.locals
  globals : before.globals.KeepsOwned before.providers after.globals

namespace KeepsOwned

theorem refl (session : Session) : session.KeepsOwned session :=
  ⟨rfl, fun _ _ => rfl, fun _ _ => rfl⟩

theorem trans {first second third : Session} (front : first.KeepsOwned second)
    (back : second.KeepsOwned third) : first.KeepsOwned third := by
  have owned {name : String} (owned : first.providers.any (·.owns name) = true) :
      second.providers.any (·.owns name) = true :=
    (Provider.any_owns_congr front.realms name).trans owned
  exact ⟨back.realms.trans front.realms,
    fun name inside => (back.locals name (owned inside)).trans (front.locals name inside),
    fun name inside => (back.globals name (owned inside)).trans (front.globals name inside)⟩

end KeepsOwned

theorem SameVariables.keepsOwned {left right : Session} (same : SameVariables right left) :
    left.KeepsOwned right :=
  ⟨by rw [same.providers], fun _ _ => by rw [same.locals], fun _ _ => by rw [same.globals]⟩

/-- A name that a provider owns is stored under another key than one that none owns. -/
theorem normalize_ne_of_owned {providers : List Provider} {name other : String}
    (free : providers.any (·.owns name) = false) (owned : providers.any (·.owns other) = true) :
    Name.normalize other ≠ Name.normalize name := by
  intro same
  simp only [Provider.owns_congr same, free] at owned
  cases owned

/-- A name that a directive gives a value, and that no provider owns in lower case, is stored under
another key than one that a provider owns. -/
theorem normalize_ne_of_assignment {providers : List Provider} {name other : String}
    {expr : Option Expr} (argument : Directive.readAssignment tail = .ok (name, expr))
    (free : providers.any (·.owns (Text.lowercase name)) = false)
    (owned : providers.any (·.owns other) = true) : Name.normalize other ≠ Name.normalize name := by
  rw [← Name.normalize_lowercase (Directive.isValid_of_readAssignment argument)]
  exact normalize_ne_of_owned free owned

/-- **No directive gives a layer a name that a provider owns, or takes one away.** -/
theorem Effect.keepsOwned (effect : session.Effect context directive tail after) :
    session.KeepsOwned after := by
  cases effect with
  | unchanged => exact .refl session
  | nests | reports | acts => exact ⟨rfl, fun _ _ => rfl, fun _ _ => rfl⟩
  | assignsLocal assigns argument gives free =>
      exact ⟨rfl, fun other owned =>
        Layer.get?_set_of_ne (normalize_ne_of_assignment argument free owned) _ _, fun _ _ => rfl⟩
  | removesLocal argument free present =>
      exact ⟨rfl, fun other owned => Layer.get?_remove_of_ne (normalize_ne_of_owned free owned) _,
        fun _ _ => rfl⟩
  | assignsGlobal argument gives free =>
      exact ⟨rfl, fun _ _ => rfl, fun other owned =>
        Layer.get?_set_of_ne (normalize_ne_of_assignment argument free owned) _ _⟩
  | removesGlobal argument free missing shared =>
      exact ⟨rfl, fun _ _ => rfl, fun other owned =>
        Layer.get?_remove_of_ne (normalize_ne_of_owned free owned) _⟩
  | writesProviders assigns argument gives taken =>
      obtain ⟨front, owner, behind, first, -, rfl⟩ := Provider.exists_of_assignAmong taken
      refine ⟨?_, fun _ _ => rfl, fun _ _ => rfl⟩
      change (front ++ owner.withValue _ _ :: behind).map (·.realm) =
        session.providers.map (·.realm)
      rw [first.split, List.map_append, List.map_append]
      rfl

/-- **No line gives a layer a name that a provider owns, or takes one away**, whether or not it
fails. -/
theorem keepsOwned_processLine (session : Session) (context : LineContext) (line : List Char) :
    session.KeepsOwned (session.processLine context line).1 := by
  rcases session.follows_or_sameVariables context line with
    ⟨directive, tail, traced, _, same, does⟩ | same
  · rw [does]
    exact same.keepsOwned.trans (effect_of_perform traced context directive tail).keepsOwned
  · exact same.keepsOwned

/-- An assignment or removal that is refused changes nothing at all. -/
theorem eq_of_refused {cause : LineError}
    (writes : directive.assigns = true ∨ directive = .undefine)
    (refused : session.perform context directive tail = (after, .error cause)) :
    after = session := by
  have changes : ∃ changed, session.perform context directive tail = session.change changed := by
    rcases writes with assigns | rfl
    · cases directive <;> first | exact ⟨_, rfl⟩ | cases assigns
    · exact ⟨_, rfl⟩
  obtain ⟨changed, does⟩ := changes
  rw [does] at refused
  cases changed with
  | error reason => exact (congrArg Prod.fst refused).symm
  | ok written => cases congrArg Prod.snd refused

end Session

end CommentDirectives
