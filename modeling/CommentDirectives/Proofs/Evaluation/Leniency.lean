import CommentDirectives.Line.Substitution
import CommentDirectives.Proofs.Evaluation.Operations

/-!
# Names without a value

A lenient scope takes a name without a value for false, a strict one fails at it, and in nothing
else do the two differ.  So they give an expression the same value, or make it fail for the same
cause, unless the strict one fails for a name without a value (`Expr.sameUnless_eval`); and the same
holds of conditions and of lines with marked expressions.
-/

namespace CommentDirectives

set_option autoImplicit false

/-! ## Attempts that come to the same -/

/-- Two attempts that come to the same, unless the first fails for a cause that is exempted. -/
inductive SameUnless {ε α : Type} (exempted : ε → Prop) : Except ε α → Except ε α → Prop where
  | same (attempt : Except ε α) : SameUnless exempted attempt attempt
  | exempt {cause : ε} (attempt : Except ε α) :
      exempted cause → SameUnless exempted (.error cause) attempt

namespace SameUnless

variable {ε ε' α β : Type} {exempted : ε → Prop} {exempted' : ε' → Prop}
  {left right : Except ε α}

/-- Attempts in a row. -/
theorem bind {next next' : α → Except ε β} (first : SameUnless exempted left right)
    (onward : ∀ value, left = .ok value → SameUnless exempted (next value) (next' value)) :
    SameUnless exempted (left >>= next) (right >>= next') := by
  cases first with
  | exempt _ unresolved => exact .exempt _ unresolved
  | same =>
      cases left with
      | error cause => exact .same (.error cause)
      | ok value => exact onward value rfl

theorem map (first : SameUnless exempted left right) (change : α → β) :
    SameUnless exempted (left.map change) (right.map change) := by
  cases first with
  | exempt _ unresolved => exact .exempt _ unresolved
  | same => exact .same _

theorem mapError (first : SameUnless exempted left right) {change : ε → ε'}
    (kept : ∀ cause, exempted cause → exempted' (change cause)) :
    SameUnless exempted' (left.mapError change) (right.mapError change) := by
  cases first with
  | exempt _ unresolved => exact .exempt _ (kept _ unresolved)
  | same => exact .same _

end SameUnless

/-! ## Expressions -/

/-- A failure for want of a value of a name. -/
def EvaluationError.IsUnresolved (cause : EvaluationError) : Prop :=
  ∃ name, cause = .unresolvedVariable name

/-- A failure of a text for want of a value of a name. -/
def ExpressionError.IsUnresolved (cause : ExpressionError) : Prop :=
  ∃ name, cause = .withoutValue (.unresolvedVariable name)

theorem ExpressionError.isUnresolved_withoutValue (cause : EvaluationError)
    (unresolved : cause.IsUnresolved) : (ExpressionError.withoutValue cause).IsUnresolved := by
  obtain ⟨name, rfl⟩ := unresolved
  exact ⟨name, rfl⟩

/-- A scope that fails at names without a value. -/
def Scope.strict (scope : Scope) : Scope := { scope with unknownAsFalse := false }

/-- A scope that takes names without a value for false. -/
def Scope.lenient (scope : Scope) : Scope := { scope with unknownAsFalse := true }

variable (scope : Scope)

/-- Whether a name has a value does not depend on what becomes of names without one. -/
theorem Scope.lookup_strict (name : String) :
    scope.strict.lookup name = scope.lenient.lookup name := rfl

theorem Scope.sameUnless_resolve (name : String) :
    SameUnless EvaluationError.IsUnresolved (scope.strict.resolve name)
      (scope.lenient.resolve name) := by
  unfold resolve
  rw [scope.lookup_strict]
  cases scope.lenient.lookup name with
  | some value => exact .same (.ok value)
  | none => exact .exempt _ ⟨name, rfl⟩

namespace Expr

mutual
/-- **A strict and a lenient scope give an expression the same value**, unless the strict one
fails for want of a value of a name. -/
theorem sameUnless_eval : ∀ expr : Expr,
    SameUnless EvaluationError.IsUnresolved (expr.eval scope.strict) (expr.eval scope.lenient)
  | .literal value _ => by
      rw [eval, eval]
      exact .same _
  | .variable name _ => by
      rw [eval, eval]
      exact scope.sameUnless_resolve name
  | .unary operator operand _ => by
      rw [eval_unary, eval_unary]
      exact (sameUnless_eval operand).bind fun value _ => .same _
  | .binary operator left right _ => by
      rw [eval_binary, eval_binary]
      exact (sameUnless_eval left).bind fun leftValue _ =>
        (sameUnless_eval right).bind fun rightValue _ => .same _
  | .call function arguments _ => by
      rw [eval_call, eval_call]
      exact (sameUnless_evalAll arguments).bind fun values _ => .same _

/-- A strict and a lenient scope give some expressions the same values, unless the strict one fails
for want of a value of a name. -/
theorem sameUnless_evalAll : ∀ exprs : List Expr,
    SameUnless EvaluationError.IsUnresolved (evalAll scope.strict exprs)
      (evalAll scope.lenient exprs)
  | [] => by
      rw [evalAll, evalAll]
      exact .same _
  | expr :: rest => by
      rw [evalAll_cons, evalAll_cons]
      exact (sameUnless_eval expr).bind fun value _ =>
        (sameUnless_evalAll rest).bind fun values _ => .same _
end

end Expr

/-! ## Texts -/

namespace Scope

theorem sameUnless_evaluate (source : String) :
    SameUnless ExpressionError.IsUnresolved (scope.strict.evaluate source)
      (scope.lenient.evaluate source) := by
  unfold evaluate
  cases Expr.parse source with
  | error failure => exact .same _
  | ok expr =>
      exact (Expr.sameUnless_eval scope expr).mapError
        ExpressionError.isUnresolved_withoutValue

end Scope

namespace Substitution

/-- Marked expressions are replaced alike where each of them is. -/
theorem sameUnless_apply {ε : Type} {exempted : ε → Prop}
    {value value' : List Char → Except ε (List Char)}
    (each : ∀ source, SameUnless exempted (value source) (value' source)) (text : List Char) :
    SameUnless exempted (apply value text) (apply value' text) := by
  induction length : text.length using Nat.strongRecOn generalizing text with
  | _ length ih =>
    subst length
    cases opened : cut opening text with
    | none =>
        rw [apply_of_unopened value opened, apply_of_unopened value' opened]
        exact .same _
    | some parts =>
        obtain ⟨before, behind⟩ := parts
        cases closed : cut closing behind with
        | none =>
            rw [apply_of_unclosed value opened closed, apply_of_unclosed value' opened closed]
            exact .same _
        | some parts =>
            obtain ⟨source, rest⟩ := parts
            have shorter : rest.length < text.length :=
              Nat.lt_of_le_of_lt (length_cut_le closed) (length_cut_lt (by decide) opened)
            rw [apply_of_closed value opened closed, apply_of_closed value' opened closed]
            exact (each source).bind fun replacement _ =>
              (ih rest.length shorter rest rfl).bind fun remainder _ => .same _

end Substitution

theorem Scope.sameUnless_substitute (line : List Char) :
    SameUnless ExpressionError.IsUnresolved (scope.strict.substitute line)
      (scope.lenient.substitute line) :=
  Substitution.sameUnless_apply (fun _ => (scope.sameUnless_evaluate _).map _) line

end CommentDirectives
