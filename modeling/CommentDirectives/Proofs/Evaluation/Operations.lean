import CommentDirectives.Evaluation

/-!
# What operations come to

An operation is carried out on the values of its operands, which are found one after the other; the
first that has no value ends the evaluation (`Expr.eval_unary`, `Expr.eval_binary`,
`Expr.eval_call`).

An operation that fails blames the kinds of its operands or, in few cases, their values.  An
operator on values names its operands' kinds or is a division by zero (`Value.cause_of_unary`,
`Value.cause_of_binary`); a function names its arguments' kinds or says what is wrong with one of
them (`Builtin.cause_of_apply`).  A name fails for want of a value (`Scope.cause_of_resolve`).
-/

namespace CommentDirectives

set_option autoImplicit false

namespace Expr

variable (scope : Scope)

/-! ## Operands in a row -/

theorem eval_unary (operator : UnaryOperator) (operand : Expr) (offset : Nat) :
    (Expr.unary operator operand offset).eval scope =
      operand.eval scope >>= fun value => value.unary operator := by
  rw [eval]
  cases operand.eval scope <;> rfl

theorem eval_binary (operator : BinaryOperator) (left right : Expr) (offset : Nat) :
    (Expr.binary operator left right offset).eval scope =
      left.eval scope >>= fun leftValue =>
        right.eval scope >>= fun rightValue => leftValue.binary operator rightValue := by
  rw [eval]
  cases left.eval scope with
  | error cause => rfl
  | ok leftValue => cases right.eval scope <;> rfl

theorem eval_call (function : String) (arguments : List Expr) (offset : Nat) :
    (Expr.call function arguments offset).eval scope =
      evalAll scope arguments >>= fun values => Builtin.call function values := by
  rw [eval]
  cases evalAll scope arguments <;> rfl

theorem evalAll_cons (expr : Expr) (rest : List Expr) :
    evalAll scope (expr :: rest) =
      expr.eval scope >>= fun value => evalAll scope rest >>= fun values => .ok (value :: values) := by
  rw [evalAll]
  cases expr.eval scope with
  | error cause => rfl
  | ok value => cases evalAll scope rest <;> rfl

end Expr

/-! ## Causes of failures -/

theorem Scope.cause_of_resolve {scope : Scope} {name : String} {cause : EvaluationError}
    (failed : scope.resolve name = .error cause) : cause = .unresolvedVariable name := by
  unfold resolve at failed
  split at failed
  · cases failed
  · split at failed <;> cases failed
    rfl

namespace Value

variable {left right operand : Value} {cause : EvaluationError}

theorem cause_of_unary {operator : UnaryOperator} (failed : operand.unary operator = .error cause) :
    cause = .operandKind operator operand.kind := by
  unfold unary at failed
  split at failed <;> cases failed
  rfl

theorem cause_of_integerArithmetic {operator : BinaryOperator} {first second : Int64}
    (failed : integerArithmetic? operator first second = some (.error cause)) :
    cause = .divisionByZero := by
  cases operator with
  | divide | remainder =>
      simp only [integerArithmetic?, Option.some.injEq] at failed
      split at failed <;> cases failed
      rfl
  | add | subtract | multiply | equal | notEqual | less | lessEqual | greater | greaterEqual | and
  | or | xor => cases failed

theorem cause_of_arithmetic {operator : BinaryOperator}
    (failed : arithmetic operator left right = .error cause) :
    cause = .operandKinds operator left.kind right.kind ∨ cause = .divisionByZero := by
  unfold arithmetic at failed
  split at failed
  · split at failed
    · cases failed
    · next found =>
      cases failed
      exact .inr (cause_of_integerArithmetic found)
    · cases failed
      exact .inl rfl
  · split at failed
    · split at failed <;> cases failed
      exact .inl rfl
    · split at failed <;> cases failed
      exact .inl rfl

theorem cause_of_equality {operator : BinaryOperator}
    (failed : equality operator left right = .error cause) :
    cause = .operandKinds operator left.kind right.kind := by
  unfold equality at failed
  split at failed <;> cases failed
  rfl

theorem cause_of_ordering {operator : BinaryOperator}
    (failed : ordering operator left right = .error cause) :
    cause = .operandKinds operator left.kind right.kind := by
  unfold ordering at failed
  split at failed <;> cases failed
  rfl

theorem cause_of_logic {operator : BinaryOperator}
    (failed : logic operator left right = .error cause) :
    cause = .operandKinds operator left.kind right.kind := by
  unfold logic at failed
  dsimp only at failed
  split at failed <;> cases failed
  rfl

/-- **An operator that fails names the kinds of its operands, or divides by zero.** -/
theorem cause_of_binary {operator : BinaryOperator}
    (failed : left.binary operator right = .error cause) :
    cause = .operandKinds operator left.kind right.kind ∨ cause = .divisionByZero := by
  unfold binary at failed
  split at failed
  · exact .inl (cause_of_equality failed)
  · exact .inl (cause_of_ordering failed)
  · exact .inl (cause_of_logic failed)
  · exact cause_of_arithmetic failed

end Value

namespace Builtin

variable {builtin : Builtin} {cause : EvaluationError}

theorem cause_of_converted {text expected : String} {answer : Option Value}
    (failed : converted builtin text expected answer = .error cause) :
    cause = notConvertible builtin text expected := by
  unfold converted at failed
  split at failed <;> cases failed
  rfl

theorem cause_of_wholeNumber {function : String} {number : Float32}
    (failed : wholeNumber function number = .error cause) :
    ∃ details, cause = .invalidArgument function details := by
  unfold wholeNumber at failed
  split at failed <;> cases failed
  exact ⟨_, rfl⟩

/-- **A function that fails names the kinds of its arguments, or says what is wrong with one of
them.** -/
theorem cause_of_apply {arguments : List Value}
    (failed : builtin.apply arguments = .error cause) :
    cause = .argumentKinds builtin.name (arguments.map Value.kind) ∨
      ∃ details, cause = .invalidArgument builtin.name details := by
  unfold apply at failed
  split at failed
  case h_4 number =>
    cases whole : wholeNumber round.name (Binary32.round number) with
    | error found =>
        rw [whole] at failed
        cases failed
        exact .inr (cause_of_wholeNumber whole)
    | ok result =>
        rw [whole] at failed
        cases failed
  case h_6 | h_9 | h_11 => exact .inr ⟨_, cause_of_converted failed⟩
  all_goals cases failed
  exact .inl rfl

end Builtin

end CommentDirectives
