import CommentDirectives.Proofs.Evaluation.Operations
import CommentDirectives.Proofs.Expr.Recognition
import CommentDirectives.Proofs.Session.Alike

/-!
# Expressions whose calls fit the table of functions

Whoever reads an expression checks each call once, against the table of functions; whoever
evaluates it looks the function up again.  The two agree: in a tree that was read, every call names
a function of the table in the table's own spelling, with as many arguments as it takes
(`Expr.Callable`, `callable_of_parse`), and the value of such a tree never fails for an unknown
function or a wrong number of arguments, whatever the scope (`Callable.not_miscall`).
-/

namespace CommentDirectives

set_option autoImplicit false

/-- A failure of a call that does not fit the table of functions. -/
inductive EvaluationError.IsMiscall : EvaluationError → Prop where
  | unknownFunction (name : String) : IsMiscall (.unknownFunction name)
  | argumentCount (function : String) (expected : Arity) (found : Nat) :
      IsMiscall (.argumentCount function expected found)

namespace Expr

open Grammar

/-- An expression in which every call names a function of the table, as the table spells it, and
has as many arguments as the function takes. -/
inductive Callable : Expr → Prop where
  | literal (value : Literal) (offset : Nat) : Callable (.literal value offset)
  | variable (name : String) (offset : Nat) : Callable (.variable name offset)
  | unary (operator : UnaryOperator) (offset : Nat) {operand : Expr} : Callable operand →
      Callable (.unary operator operand offset)
  | binary (operator : BinaryOperator) (offset : Nat) {left right : Expr} : Callable left →
      Callable right → Callable (.binary operator left right offset)
  | call (builtin : Builtin) (offset : Nat) {arguments : List Expr} :
      builtin.arity.accepts arguments.length = true →
      (∀ argument ∈ arguments, Callable argument) →
      Callable (.call builtin.name arguments offset)

/-! ## Trees that are read -/

/-- The calls of a tree of the grammar fit the table. -/
theorem callable_of_derives {layer : Nat} {lexemes : List Lexeme} {expr : Expr}
    (derives : Derives layer lexemes expr) : Callable expr := by
  induction derives with
  | looser _ ih => exact ih
  | binary offset _ _ _ _ left right => exact .binary _ offset left right
  | unary operator offset _ ih => exact .unary operator offset ih
  | literal value offset => exact .literal value offset
  | «variable» name offset => exact .variable name offset
  | call builtin offset opened closed same accepted separated each ih =>
      refine .call builtin offset (by rw [List.length_map]; exact accepted) ?_
      intro argument member
      obtain ⟨part, inside, rfl⟩ := List.mem_map.mp member
      exact ih part inside
  | group opened closed _ ih => exact ih

theorem callable_of_parse {source : String} {expr : Expr} (succeeds : parse source = .ok expr) :
    Callable expr := by
  rw [parse] at succeeds
  split at succeeds
  · cases succeeds
  · cases succeeds
  next lexemes stop _ cut =>
  split at succeeds
  · cases succeeds
  next value rest shorter expressionRead =>
  obtain ⟨taken, written, derives⟩ := derives_of_readExpression lexemes _ expressionRead
  split at succeeds
  · cases succeeds
    exact callable_of_derives derives
  · split at succeeds <;> cases succeeds

theorem callable_of_parseList {source : String} {items : List Expr}
    (succeeds : parseList source = .ok items) : ∀ item ∈ items, Callable item := by
  obtain ⟨sequence, _, parts, _, each, rfl⟩ := (parseList_eq_ok source items).mp succeeds
  intro item member
  obtain ⟨part, inside, rfl⟩ := List.mem_map.mp member
  exact callable_of_derives (each part inside)

/-! ## Values of such trees -/

/-- As many values are found as there are expressions. -/
theorem length_of_evalAll {scope : Scope} {exprs : List Expr} {values : List Value}
    (answered : evalAll scope exprs = .ok values) : values.length = exprs.length := by
  induction exprs generalizing values with
  | nil =>
      rw [evalAll] at answered
      cases answered
      rfl
  | cons expr rest ih =>
      rw [evalAll_cons] at answered
      obtain ⟨value, _, onward⟩ := exists_of_bind_eq_ok answered
      obtain ⟨others, found, last⟩ := exists_of_bind_eq_ok onward
      cases last
      exact congrArg (· + 1) (ih found)

/-- A call that fits the table fails only for what its function says. -/
theorem not_miscall_of_call {builtin : Builtin} {values : List Value} {cause : EvaluationError}
    (accepted : builtin.arity.accepts values.length = true)
    (failed : Builtin.call builtin.name values = .error cause) : ¬ cause.IsMiscall := by
  have found : Builtin.named? builtin.name = some builtin :=
    Builtin.named?_eq_some.mpr (beq_self_eq_true _)
  simp only [Builtin.call, found, if_pos accepted] at failed
  rcases Builtin.cause_of_apply failed with rfl | ⟨details, rfl⟩ <;> exact nofun

variable (scope : Scope)

mutual
/-- **An expression whose calls fit the table never fails for one of them.** -/
theorem Callable.not_miscall : ∀ (expr : Expr) {cause : EvaluationError}, Callable expr →
    expr.eval scope = .error cause → ¬ cause.IsMiscall
  | .literal value _, cause, _, failed => by
      rw [eval] at failed
      cases failed
  | .variable name _, cause, _, failed => by
      rw [eval] at failed
      rw [Scope.cause_of_resolve failed]
      exact nofun
  | .unary operator operand _, cause, .unary _ _ callable, failed => by
      rw [eval_unary] at failed
      rcases exists_of_bind_eq_error failed with failed | ⟨value, _, failed⟩
      · exact Callable.not_miscall operand callable failed
      · rw [Value.cause_of_unary failed]
        exact nofun
  | .binary operator left right _, cause, .binary _ _ callable callable', failed => by
      rw [eval_binary] at failed
      rcases exists_of_bind_eq_error failed with failed | ⟨leftValue, _, failed⟩
      · exact Callable.not_miscall left callable failed
      rcases exists_of_bind_eq_error failed with failed | ⟨rightValue, _, failed⟩
      · exact Callable.not_miscall right callable' failed
      · rcases Value.cause_of_binary failed with rfl | rfl <;> exact nofun
  | .call _ arguments _, cause, .call builtin _ accepted each, failed => by
      rw [eval_call] at failed
      rcases exists_of_bind_eq_error failed with failed | ⟨values, answered, failed⟩
      · exact Callable.not_miscall_of_evalAll arguments each failed
      · exact not_miscall_of_call (by rw [length_of_evalAll answered]; exact accepted) failed

/-- Expressions whose calls fit the table never fail for one of them. -/
theorem Callable.not_miscall_of_evalAll : ∀ (exprs : List Expr) {cause : EvaluationError},
    (∀ expr ∈ exprs, Callable expr) → evalAll scope exprs = .error cause → ¬ cause.IsMiscall
  | [], cause, _, failed => by
      rw [evalAll] at failed
      cases failed
  | expr :: rest, cause, each, failed => by
      obtain ⟨first, others⟩ := List.forall_mem_cons.mp each
      rw [evalAll_cons] at failed
      rcases exists_of_bind_eq_error failed with failed | ⟨value, _, failed⟩
      · exact Callable.not_miscall expr first failed
      rcases exists_of_bind_eq_error failed with failed | ⟨values, _, failed⟩
      · exact Callable.not_miscall_of_evalAll rest others failed
      · cases failed
end

end Expr

end CommentDirectives
