import CommentDirectives.Evaluation
import CommentDirectives.Proofs.Value.Equality

/-!
# Evaluation gives sets without repetitions

A value in which no set, at any depth, holds two equal members stays one under everything that
expressions do with values.  Only five functions answer with sets: `set` and `union` keep of equal
values the first, and `intersect`, `diff` and `contains` take members away or only look at them.
All other functions, and all operators, answer with values that are no sets.

So an expression has a value without repetitions in every scope that gives names such values
(`Expr.wellFormed_of_eval`), and so has each of its parts, which is an expression as well.
-/

namespace CommentDirectives

set_option autoImplicit false

namespace Value

/-! ## Sets -/

/-- Members that are apart, and have no repetitions themselves, make a set without repetitions. -/
structure WellFormedMembers (members : List Value) : Prop where
  apart : members.Pairwise Apart
  each : ∀ member ∈ members, member.WellFormed

theorem wellFormed_set_iff {members : List Value} :
    (Value.set members).WellFormed ↔ WellFormedMembers members := by
  constructor
  · rintro ⟨⟩
    next apart each => exact ⟨apart, each⟩
  · rintro ⟨apart, each⟩
    exact .set apart each

theorem WellFormedMembers.nil : WellFormedMembers [] := ⟨.nil, nofun⟩

/-- A value that has no equal among some members comes behind them. -/
theorem WellFormedMembers.concat {members : List Value} (wellFormed : WellFormedMembers members)
    {value : Value} (valueWellFormed : value.WellFormed)
    (new : value.occursIn members = false) : WellFormedMembers (members ++ [value]) where
  apart := by
    rw [List.pairwise_append]
    refine ⟨wellFormed.apart, List.pairwise_singleton _ _, ?_⟩
    intro member inside other last
    obtain rfl := List.mem_singleton.mp last
    have differs : member.sameMember other = false := by
      simpa using List.any_eq_false.mp new member inside
    exact (wellFormed.each member inside).apart valueWellFormed differs
  each := by
    intro member inside
    rcases List.mem_append.mp inside with inside | last
    · exact wellFormed.each member inside
    · exact List.mem_singleton.mp last ▸ valueWellFormed

theorem WellFormedMembers.distinctAfter {members values : List Value}
    (wellFormed : WellFormedMembers members) (each : ∀ value ∈ values, value.WellFormed) :
    WellFormedMembers (distinctAfter members values) := by
  induction values generalizing members with
  | nil => exact wellFormed
  | cons value rest ih =>
      obtain ⟨first, others⟩ := List.forall_mem_cons.mp each
      unfold Value.distinctAfter
      by_cases occurs : value.occursIn members = true
      · rw [if_pos occurs]
        exact ih wellFormed others
      · rw [if_neg occurs]
        exact ih (wellFormed.concat first (Bool.eq_false_iff.mpr occurs)) others

/-- **The set of some values holds no two equal ones.** -/
theorem wellFormed_setOf {values : List Value} (each : ∀ value ∈ values, value.WellFormed) :
    (setOf values).WellFormed :=
  wellFormed_set_iff.mpr (WellFormedMembers.nil.distinctAfter each)

theorem WellFormed.union {left right : List Value} (wellFormed : (Value.set left).WellFormed)
    (wellFormed' : (Value.set right).WellFormed) :
    (Value.set (Value.union left right)).WellFormed := by
  rw [wellFormed_set_iff] at wellFormed wellFormed'
  refine wellFormed_setOf fun value inside => ?_
  rcases List.mem_append.mp inside with inside | inside
  · exact wellFormed.each value inside
  · exact wellFormed'.each value inside

/-- A set of some members of a set without repetitions. -/
theorem WellFormed.filter {members : List Value} (wellFormed : (Value.set members).WellFormed)
    (keep : Value → Bool) : (Value.set (members.filter keep)).WellFormed := by
  rw [wellFormed_set_iff] at wellFormed ⊢
  exact ⟨wellFormed.apart.filter keep,
    fun member inside => wellFormed.each member (List.mem_filter.mp inside).1⟩

/-! ## Operators -/

/-- A value that is no set. -/
def IsScalar (value : Value) : Prop := value.kind ≠ .set

theorem IsScalar.wellFormed {value : Value} (scalar : value.IsScalar) : value.WellFormed := by
  cases value with
  | int number => exact .int number
  | float number => exact .float number
  | string text => exact .string text
  | bool truth => exact .bool truth
  | set members => exact absurd rfl scalar

/-- Arithmetic and concatenation answer with numbers and texts. -/
theorem isScalar_of_arithmetic {operator : BinaryOperator} {left right value : Value}
    (answered : arithmetic operator left right = .ok value) : value.IsScalar := by
  unfold arithmetic at answered
  split at answered
  · split at answered <;> cases answered
    exact nofun
  · split at answered
    · split at answered <;> cases answered
      exact nofun
    · split at answered <;> cases answered
      exact nofun

theorem isScalar_of_equality {operator : BinaryOperator} {left right value : Value}
    (answered : equality operator left right = .ok value) : value.IsScalar := by
  unfold equality at answered
  split at answered <;> cases answered
  exact nofun

theorem isScalar_of_ordering {operator : BinaryOperator} {left right value : Value}
    (answered : ordering operator left right = .ok value) : value.IsScalar := by
  unfold ordering at answered
  split at answered <;> cases answered
  exact nofun

theorem isScalar_of_logic {operator : BinaryOperator} {left right value : Value}
    (answered : logic operator left right = .ok value) : value.IsScalar := by
  unfold logic at answered
  cases left with
  | bool first =>
      cases right with
      | bool second =>
          cases result : truthLogic? operator first second <;>
            simp only [result, Option.map] at answered <;> cases answered
          exact nofun
      | int | float | string | set => cases answered
  | int first =>
      cases right with
      | int second =>
          cases result : bitLogic? operator first second <;>
            simp only [result, Option.map] at answered <;> cases answered
          exact nofun
      | bool | float | string | set => cases answered
  | float | string | set => cases answered

/-- **No operator answers with a set.** -/
theorem isScalar_of_binary {operator : BinaryOperator} {left right value : Value}
    (answered : left.binary operator right = .ok value) : value.IsScalar := by
  unfold binary at answered
  split at answered
  · exact isScalar_of_equality answered
  · exact isScalar_of_ordering answered
  · exact isScalar_of_logic answered
  · exact isScalar_of_arithmetic answered

theorem isScalar_of_unary {operator : UnaryOperator} {operand value : Value}
    (answered : operand.unary operator = .ok value) : value.IsScalar := by
  unfold unary at answered
  split at answered <;> cases answered <;> exact nofun

/-! ## Raw text -/

theorem isScalar_of_ofToken {negative : Bool} {token : Token} {value : Value}
    (answered : ofToken? negative token = some value) : value.IsScalar := by
  unfold ofToken? at answered
  split at answered <;> cases answered <;> exact nofun

/-- **No raw text spells a set.** -/
theorem isScalar_recognize (raw : String) : (recognize raw).IsScalar := by
  unfold recognize
  split
  · exact nofun
  · split
    · next value spelled =>
      unfold literal? at spelled
      dsimp only at spelled
      split at spelled
      · exact isScalar_of_ofToken spelled
      · cases spelled
    · exact nofun

end Value

/-! ## Functions -/

namespace Builtin

/-- A conversion answers with what it was converted to. -/
theorem isScalar_of_converted {α : Type} {builtin : Builtin} {text expected : String}
    {answer : Option α} {make : α → Value} (scalar : ∀ result, (make result).IsScalar)
    {value : Value} (answered : converted builtin text expected (answer.map make) = .ok value) :
    value.IsScalar := by
  cases answer with
  | none => cases answered
  | some result =>
      cases answered
      exact scalar result

/-- **A function on values without repetitions answers with one.** -/
theorem wellFormed_of_apply {builtin : Builtin} {arguments : List Value} {value : Value}
    (each : ∀ argument ∈ arguments, argument.WellFormed)
    (answered : builtin.apply arguments = .ok value) : value.WellFormed := by
  unfold apply at answered
  split at answered
  -- The functions that answer with a number, a text or a truth value outright.
  all_goals
    try
      simp only [Except.ok.injEq] at answered
      subst answered
      first
      | exact .int _
      | exact .float _
      | exact .string _
      | exact .bool _
  · next number =>
    cases whole : wholeNumber round.name (Binary32.round number) with
    | error cause => simp [whole, Except.map] at answered
    | ok result =>
        rw [whole] at answered
        cases answered
        exact .int result
  · refine (isScalar_of_converted ?_ answered).wellFormed
    exact fun _ => nofun
  · refine (isScalar_of_converted ?_ answered).wellFormed
    exact fun _ => nofun
  · refine (isScalar_of_converted ?_ answered).wellFormed
    exact fun _ => nofun
  · cases answered
    exact Value.wellFormed_setOf each
  · next left right =>
    cases answered
    obtain ⟨first, others⟩ := List.forall_mem_cons.mp each
    exact first.union (others (.set right) List.mem_cons_self)
  · next left right =>
    cases answered
    exact (each (.set left) List.mem_cons_self).filter _
  · next left right =>
    cases answered
    exact (each (.set left) List.mem_cons_self).filter _
  · cases answered

theorem wellFormed_of_call {name : String} {arguments : List Value} {value : Value}
    (each : ∀ argument ∈ arguments, argument.WellFormed)
    (answered : call name arguments = .ok value) : value.WellFormed := by
  unfold call at answered
  split at answered
  · cases answered
  · split at answered
    · exact wellFormed_of_apply each answered
    · cases answered

end Builtin

/-! ## Expressions -/

/-- A scope that gives names values without repetitions only. -/
def Scope.WellFormed (scope : Scope) : Prop :=
  ∀ name value, scope.lookup name = some value → value.WellFormed

theorem Scope.WellFormed.resolve {scope : Scope} (wellFormed : scope.WellFormed) {name : String}
    {value : Value} (answered : scope.resolve name = .ok value) : value.WellFormed := by
  unfold Scope.resolve at answered
  split at answered
  · next found known =>
    cases answered
    exact wellFormed name _ known
  · split at answered <;> cases answered
    exact .bool false

namespace Expr

variable {scope : Scope}

mutual
/-- **The value of an expression has no repetitions**, if those of names have none. -/
theorem wellFormed_of_eval (wellFormed : scope.WellFormed) :
    ∀ (expr : Expr) {value : Value}, expr.eval scope = .ok value → value.WellFormed
  | .literal constant _, value, answered => by
      unfold eval at answered
      cases answered
      cases constant with
      | int number => exact .int number
      | float number => exact .float number
      | string text => exact .string text
      | bool truth => exact .bool truth
  | .variable name _, value, answered => by
      unfold eval at answered
      exact wellFormed.resolve answered
  | .unary operator operand _, value, answered => by
      unfold eval at answered
      split at answered
      · cases answered
      · exact (Value.isScalar_of_unary answered).wellFormed
  | .binary operator left right _, value, answered => by
      unfold eval at answered
      split at answered
      · cases answered
      · split at answered
        · cases answered
        · exact (Value.isScalar_of_binary answered).wellFormed
  | .call function arguments _, value, answered => by
      unfold eval at answered
      split at answered
      · cases answered
      · next values evaluated =>
        exact Builtin.wellFormed_of_call (wellFormed_of_evalAll wellFormed arguments evaluated)
          answered

/-- The values of some expressions have no repetitions. -/
theorem wellFormed_of_evalAll (wellFormed : scope.WellFormed) :
    ∀ (exprs : List Expr) {values : List Value}, Expr.evalAll scope exprs = .ok values →
      ∀ value ∈ values, value.WellFormed
  | [], values, answered => by
      unfold evalAll at answered
      cases answered
      exact nofun
  | expr :: rest, values, answered => by
      unfold evalAll at answered
      split at answered
      · cases answered
      · next first evaluated =>
        split at answered
        · cases answered
        · next others evaluatedRest =>
          cases answered
          rw [List.forall_mem_cons]
          exact ⟨wellFormed_of_eval wellFormed expr evaluated,
            wellFormed_of_evalAll wellFormed rest evaluatedRest⟩
end

end Expr

end CommentDirectives
