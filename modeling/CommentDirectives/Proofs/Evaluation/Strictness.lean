import Mathlib.Data.List.Forall2
import CommentDirectives.Proofs.Evaluation.Operations

/-!
# Where an evaluation fails

The subexpressions of an expression stand in an order of their own: those of its operands, from left
to right, and then the expression itself (`Expr.postorder`).  An evaluation has a value just if all
of them have one, and it fails for what the first of them without a value fails for, namely its own
operation on the values of its operands (`Expr.eval_strict`).  No operation is decided by some of
its operands alone: a logical operator whose left side settles the matter still fails with its right
side.

The order is told once for lists of expressions (`Told`), and an expression adds nothing but its
operation to the list of its operands.
-/

namespace CommentDirectives.Expr

set_option autoImplicit false

/-! ## Subexpressions in order -/

mutual
/-- The subexpressions of an expression: those of its operands from left to right, then itself. -/
def postorder : Expr → List Expr
  | .literal value offset => [.literal value offset]
  | .variable name offset => [.variable name offset]
  | .unary operator operand offset => postorder operand ++ [.unary operator operand offset]
  | .binary operator left right offset =>
    postorder left ++ (postorder right ++ [.binary operator left right offset])
  | .call function arguments offset =>
    postorderAll arguments ++ [.call function arguments offset]

/-- The subexpressions of some expressions, one after the other. -/
def postorderAll : List Expr → List Expr
  | [] => []
  | expr :: rest => postorder expr ++ postorderAll rest
end

/-- The operands of the operation at the root of an expression, from left to right. -/
def operands : Expr → List Expr
  | .literal _ _ | .variable _ _ => []
  | .unary _ operand _ => [operand]
  | .binary _ left right _ => [left, right]
  | .call _ arguments _ => arguments

theorem postorder_eq (expr : Expr) : expr.postorder = postorderAll expr.operands ++ [expr] := by
  cases expr with
  | literal | «variable» => rfl
  | unary operator operand offset => rw [postorder, operands, postorderAll, postorderAll,
      List.append_nil]
  | binary operator left right offset => rw [postorder, operands, postorderAll, postorderAll,
      postorderAll, List.append_nil, List.append_assoc]
  | call function arguments offset => rw [postorder, operands]

/-- An expression is a subexpression of itself. -/
theorem mem_postorder (expr : Expr) : expr ∈ expr.postorder := by
  rw [postorder_eq]
  exact List.mem_append_right _ List.mem_cons_self

/-! ## The operation at the root -/

/-- What the operation at the root of an expression comes to, by the values of its operands. -/
inductive Operates (scope : Scope) : Expr → List Value → Except EvaluationError Value → Prop where
  | literal (value : Literal) (offset : Nat) :
      Operates scope (.literal value offset) [] (.ok value.value)
  | variable (name : String) (offset : Nat) :
      Operates scope (.variable name offset) [] (scope.resolve name)
  | unary (operator : UnaryOperator) (operand : Expr) (offset : Nat) (value : Value) :
      Operates scope (.unary operator operand offset) [value] (value.unary operator)
  | binary (operator : BinaryOperator) (left right : Expr) (offset : Nat)
      (leftValue rightValue : Value) :
      Operates scope (.binary operator left right offset) [leftValue, rightValue]
        (leftValue.binary operator rightValue)
  | call (function : String) (arguments : List Expr) (offset : Nat) (values : List Value) :
      Operates scope (.call function arguments offset) values (Builtin.call function values)

variable (scope : Scope)

/-- An expression has a value. -/
def HasValue (expr : Expr) : Prop := ∃ value, expr.eval scope = .ok value

/-- All operands of an expression have values, and the operation on these fails for a cause. -/
def FailsItself (expr : Expr) (cause : EvaluationError) : Prop :=
  ∃ values, List.Forall₂ (fun operand value => operand.eval scope = .ok value) expr.operands values ∧
    Operates scope expr values (.error cause)

/-- The subexpression at a place in the order fails itself, and all before it have values. -/
def FailsAt (expr : Expr) (cause : EvaluationError) (place : Nat) : Prop :=
  ∃ inner, expr.postorder[place]? = some inner ∧
    (∀ earlier ∈ expr.postorder.take place, HasValue scope earlier) ∧
    FailsItself scope inner cause

variable {scope} {expr : Expr} {exprs before behind : List Expr} {cause : EvaluationError}
  {values : List Value}

/-- The values of some expressions are found just if each has its own. -/
theorem evalAll_eq_ok : evalAll scope exprs = .ok values ↔
    List.Forall₂ (fun expr value => expr.eval scope = .ok value) exprs values := by
  induction exprs generalizing values with
  | nil => simp [evalAll, eq_comm]
  | cons expr rest ih =>
      rw [evalAll]
      constructor
      · intro found
        split at found
        · cases found
        next value first =>
        split at found <;> cases found
        next others onward => exact .cons first (ih.mp onward)
      · rintro (_ | ⟨first, onward⟩)
        simp only [first, ih.mpr onward]

/-- **An expression comes to what its operation does on the values of its operands.** -/
theorem operates_eval (found : evalAll scope expr.operands = .ok values) :
    Operates scope expr values (expr.eval scope) := by
  have each := evalAll_eq_ok.mp found
  cases expr with
  | literal value offset =>
      cases each
      rw [eval]
      exact .literal value offset
  | «variable» name offset =>
      cases each
      rw [eval]
      exact .variable name offset
  | unary operator operand offset =>
      obtain _ | ⟨first, _ | _⟩ := each
      rw [eval, first]
      exact .unary operator operand offset _
  | binary operator left right offset =>
      obtain _ | ⟨first, _ | ⟨second, _ | _⟩⟩ := each
      rw [eval, first]
      simp only [second]
      exact .binary operator left right offset _ _
  | call function arguments offset =>
      rw [operands] at found
      rw [eval, found]
      exact .call function arguments offset values

/-- Without the values of its operands an expression has none. -/
theorem eval_of_operands_error (failed : evalAll scope expr.operands = .error cause) :
    expr.eval scope = .error cause := by
  cases expr with
  | literal | «variable» => cases failed
  | unary operator operand offset =>
      rw [operands, evalAll_cons] at failed
      rw [eval_unary]
      cases first : operand.eval scope with
      | error => rw [first] at failed; cases failed; rfl
      | ok value => rw [first] at failed; cases failed
  | binary operator left right offset =>
      rw [operands, evalAll_cons, evalAll_cons] at failed
      rw [eval_binary]
      cases first : left.eval scope with
      | error => rw [first] at failed; cases failed; rfl
      | ok leftValue =>
          rw [first] at failed
          cases second : right.eval scope with
          | error => rw [second] at failed; cases failed; rfl
          | ok rightValue => rw [second] at failed; cases failed
  | call function arguments offset =>
      rw [operands] at failed
      rw [eval_call, failed]
      rfl

/-- The operation at the root has one outcome. -/
theorem Operates.unique {outcome outcome' : Except EvaluationError Value}
    (operates : Operates scope expr values outcome) (operates' : Operates scope expr values outcome') :
    outcome = outcome' := by
  cases operates <;> cases operates' <;> rfl

/-- An expression that fails itself fails. -/
theorem FailsItself.eval_eq (fails : FailsItself scope expr cause) :
    expr.eval scope = .error cause := by
  obtain ⟨values, each, operates⟩ := fails
  exact (operates_eval (evalAll_eq_ok.mpr each)).unique operates

/-- What fails itself has no value. -/
theorem FailsItself.not_hasValue (fails : FailsItself scope expr cause) : ¬ HasValue scope expr := by
  rintro ⟨value, answered⟩
  cases fails.eval_eq.symm.trans answered

/-! ## The first failure in a list -/

/-- What an attempt tells of the expressions that it goes through in order: all of them have values
if it succeeds, and otherwise it fails for what the first of them without a value fails for. -/
inductive Told (scope : Scope) {α : Type} : Except EvaluationError α → List Expr → Prop where
  | ok (result : α) {exprs : List Expr} : (∀ expr ∈ exprs, HasValue scope expr) →
      Told scope (.ok result) exprs
  | error {before : List Expr} {expr : Expr} (behind : List Expr) {cause : EvaluationError} :
      (∀ earlier ∈ before, HasValue scope earlier) → FailsItself scope expr cause →
      Told scope (.error cause) (before ++ expr :: behind)

namespace Told

variable {α β : Type} {attempt : Except EvaluationError α} {result : β}

/-- Whatever stands behind a failure plays no role. -/
theorem append (told : Told scope (.error cause : Except EvaluationError α) exprs)
    (others : List Expr) : Told scope (.error cause : Except EvaluationError β) (exprs ++ others) := by
  cases told with
  | error behind earlier fails =>
      rw [List.append_assoc, List.cons_append]
      exact .error _ earlier fails

/-- Expressions that have values stand in front of what goes on. -/
theorem behind_ok (first : Told scope (.ok result : Except EvaluationError β) exprs)
    (onward : Told scope attempt behind) : Told scope attempt (exprs ++ behind) := by
  cases first with
  | ok _ haveValues =>
      have appended {others : List Expr} (each : ∀ expr ∈ others, HasValue scope expr) :
          ∀ expr ∈ exprs ++ others, HasValue scope expr :=
        fun expr member => (List.mem_append.mp member).elim (haveValues expr) (each expr)
      cases onward with
      | ok result each => exact .ok result (appended each)
      | error behind earlier fails =>
          rw [← List.append_assoc]
          exact .error behind (appended earlier) fails

/-- An expression in front of others. -/
theorem cons (first : Told scope (expr.eval scope) expr.postorder)
    (onward : Told scope (evalAll scope exprs) (postorderAll exprs)) :
    Told scope (evalAll scope (expr :: exprs)) (postorderAll (expr :: exprs)) := by
  rw [evalAll_cons, postorderAll]
  cases found : expr.eval scope with
  | error cause =>
      rw [found] at first
      exact first.append _
  | ok value =>
      rw [found] at first
      cases others : evalAll scope exprs with
      | error cause =>
          rw [others] at onward
          rw [← List.append_nil (postorderAll exprs), ← List.append_assoc]
          exact (first.behind_ok onward).append []
      | ok values =>
          rw [others] at onward
          cases first.behind_ok onward with
          | ok _ each => exact .ok _ each

/-- **An expression adds its operation to the list of its operands.** -/
theorem root (told : Told scope (evalAll scope expr.operands) (postorderAll expr.operands)) :
    Told scope (expr.eval scope) expr.postorder := by
  rw [postorder_eq]
  cases found : evalAll scope expr.operands with
  | error cause =>
      rw [found] at told
      rw [eval_of_operands_error found]
      exact told.append _
  | ok values =>
      rw [found] at told
      refine told.behind_ok ?_
      cases outcome : expr.eval scope with
      | ok value =>
          refine .ok value fun other member => ?_
          rw [List.mem_singleton.mp member]
          exact ⟨value, outcome⟩
      | error cause =>
          have fails : FailsItself scope expr cause :=
            ⟨values, evalAll_eq_ok.mp found, outcome ▸ operates_eval found⟩
          have noneBefore : ∀ earlier ∈ ([] : List Expr), HasValue scope earlier := nofun
          exact .error [] noneBefore fails

end Told

mutual
/-- The evaluation of an expression goes through its subexpressions in order. -/
theorem told_eval : ∀ expr : Expr, Told scope (expr.eval scope) expr.postorder
  | .literal _ _ => .root (.ok [] nofun)
  | .variable _ _ => .root (.ok [] nofun)
  | .unary _ operand _ => .root ((told_eval operand).cons (.ok [] nofun))
  | .binary _ left right _ =>
    .root ((told_eval left).cons ((told_eval right).cons (.ok [] nofun)))
  | .call _ arguments _ => .root (told_evalAll arguments)

/-- The evaluation of some expressions goes through the subexpressions of each in turn. -/
theorem told_evalAll : ∀ exprs : List Expr, Told scope (evalAll scope exprs) (postorderAll exprs)
  | [] => .ok [] nofun
  | expr :: rest => (told_eval expr).cons (told_evalAll rest)
end

/-! ## The place of the failure -/

/-- There is one place at most where an expression fails, and one cause. -/
theorem FailsAt.unique {cause' : EvaluationError} {place place' : Nat}
    (fails : FailsAt scope expr cause place) (fails' : FailsAt scope expr cause' place') :
    place = place' ∧ cause = cause' := by
  obtain ⟨inner, here, earlier, itself⟩ := fails
  obtain ⟨inner', here', earlier', itself'⟩ := fails'
  -- of two places, what fails at the first one has a value in front of the second one
  have notBefore : ¬ place < place' := by
    intro before
    rw [← List.getElem?_take_of_lt before] at here
    exact itself.not_hasValue (earlier' inner (List.mem_of_getElem? here))
  have notBehind : ¬ place' < place := by
    intro behind
    rw [← List.getElem?_take_of_lt behind] at here'
    exact itself'.not_hasValue (earlier inner' (List.mem_of_getElem? here'))
  obtain rfl : place = place' := by omega
  obtain rfl : inner = inner' := Option.some.inj (here.symm.trans here')
  cases itself.eval_eq.symm.trans itself'.eval_eq
  exact ⟨rfl, rfl⟩

/-- An expression without a value fails at a place. -/
theorem exists_failsAt (failed : expr.eval scope = .error cause) :
    ∃ place, FailsAt scope expr cause place := by
  have told : Told scope (expr.eval scope) expr.postorder := told_eval expr
  rw [failed] at told
  generalize order : expr.postorder = exprs at told
  cases told with
  | @error before inner behind _ earlier fails =>
      refine ⟨before.length, inner, ?_, ?_, fails⟩
      · rw [order, List.getElem?_append_right (Nat.le_refl _), Nat.sub_self]
        rfl
      · rwa [order, List.take_left]

/-- **Evaluation is strict, and the first failure is the one that counts.**  An expression has a
value just if all its subexpressions have one.  It fails for a cause just if there is exactly one
subexpression that fails itself for this cause while all before it, operands before operations and
from left to right, have values.  In particular the right side of an operator is evaluated whatever
the value of the left side. -/
theorem eval_strict (scope : Scope) (expr : Expr) :
    (HasValue scope expr ↔ ∀ inner ∈ expr.postorder, HasValue scope inner) ∧
    (∀ cause, expr.eval scope = .error cause ↔ ∃! place, FailsAt scope expr cause place) ∧
    ∀ operator left right offset leftValue cause, expr = .binary operator left right offset →
      left.eval scope = .ok leftValue → right.eval scope = .error cause →
      expr.eval scope = .error cause := by
  have told : Told scope (expr.eval scope) expr.postorder := told_eval expr
  refine ⟨⟨?_, fun each => each expr expr.mem_postorder⟩, fun cause => ⟨fun failed => ?_, ?_⟩, ?_⟩
  · rintro ⟨value, answered⟩
    rw [answered] at told
    cases told with
    | ok _ each => exact each
  · obtain ⟨place, fails⟩ := exists_failsAt failed
    exact ⟨place, fails, fun other fails' => (fails'.unique fails).1⟩
  · rintro ⟨place, fails, -⟩
    cases outcome : expr.eval scope with
    | ok value =>
        rw [outcome] at told
        obtain ⟨inner, here, _, itself⟩ := fails
        cases told with
        | ok _ each => exact absurd (each inner (List.mem_of_getElem? here)) itself.not_hasValue
    | error cause' =>
        obtain ⟨place', fails'⟩ := exists_failsAt outcome
        rw [(fails'.unique fails).2]
  · rintro operator left right offset leftValue cause rfl leftFound rightFailed
    rw [eval_binary, leftFound, rightFailed]
    rfl

/-- A division by zero in front of an unknown name: the right side of `true || 1 / 0 == later`. -/
def failingSide : Expr :=
  .binary .equal (.binary .divide (.literal (.int 1) 8) (.literal (.int 0) 12) 10)
    (.variable "later" 17) 14

/-- The text `true || 1 / 0 == later` fails in its division, behind three literals, though its left
side settles the matter. -/
theorem eval_strict_settledSide :
    (Expr.literal (.bool true) 0).eval {} = .ok (.bool true) ∧
      failingSide.eval {} = .error .divisionByZero ∧
      (Expr.binary .or (.literal (.bool true) 0) failingSide 5).eval {} = .error .divisionByZero ∧
      ∃! place, FailsAt {} (.binary .or (.literal (.bool true) 0) failingSide 5) .divisionByZero
        place := by
  have left : (Expr.literal (.bool true) 0).eval {} = .ok (.bool true) := rfl
  have right : failingSide.eval {} = .error .divisionByZero := rfl
  have failed := (eval_strict {} _).2.2 .or _ _ 5 _ _ rfl left right
  exact ⟨left, right, failed, ((eval_strict {} _).2.1 .divisionByZero).mp failed⟩

end CommentDirectives.Expr
