import CommentDirectives.Proofs.Session.Outcome

/-!
# Failures that have nothing to do with blocks

The reading of an argument, the evaluation of an expression and the writing of a variable never fail
for the open blocks (`NeverUnbalanced`).  So a line that does not belong to conditional blocks never
fails for them, and it leaves them as they are.
-/

namespace CommentDirectives

set_option autoImplicit false

/-- An attempt that does not fail for the open blocks. -/
def NeverUnbalanced {α : Type} (attempt : Except LineError α) : Prop :=
  ∀ imbalance, attempt ≠ .error (.unbalanced imbalance)

namespace NeverUnbalanced

variable {ε α β : Type}

theorem ok (value : α) : NeverUnbalanced (.ok value) := fun _ failed => by cases failed

theorem bind {attempt : Except LineError α} {next : α → Except LineError β}
    (first : NeverUnbalanced attempt) (onward : ∀ value, NeverUnbalanced (next value)) :
    NeverUnbalanced (attempt >>= next) := by
  intro imbalance failed
  rcases exists_of_bind_eq_error failed with here | ⟨value, _, there⟩
  · exact first imbalance here
  · exact onward value imbalance there

theorem map {attempt : Except LineError α} (change : α → β) (first : NeverUnbalanced attempt) :
    NeverUnbalanced (attempt.map change) := by
  intro imbalance failed
  cases attempt with
  | error cause => exact first imbalance (congrArg _ (Except.error.inj failed))
  | ok value => cases failed

theorem mapError {attempt : Except ε α} {change : ε → LineError}
    (other : ∀ cause imbalance, change cause ≠ .unbalanced imbalance) :
    NeverUnbalanced (attempt.mapError change) := by
  intro imbalance failed
  obtain ⟨cause, _, named⟩ := exists_of_mapError_eq_error failed
  exact other cause imbalance named

end NeverUnbalanced

namespace Session

variable {session : Session} {context : LineContext}

/-! ## What lines read and write -/

theorem neverUnbalanced_ofArgument {α : Type} (argument : Except ArgumentError α) :
    NeverUnbalanced (ofArgument argument) :=
  .mapError fun cause imbalance => by cases cause <;> exact nofun

variable (session context)

theorem neverUnbalanced_evaluate (expr : Expr) :
    NeverUnbalanced (session.evaluate context expr) :=
  .mapError fun _ _ => nofun

theorem neverUnbalanced_readCondition (tail : List Char) :
    NeverUnbalanced (session.readCondition context tail) := by
  refine (neverUnbalanced_ofArgument _).bind fun expr => ?_
  unfold condition
  cases answer : session.evaluate context expr with
  | error cause =>
      intro imbalance failed
      cases failed
      exact neverUnbalanced_evaluate session context expr imbalance answer
  | ok value => exact .mapError fun _ _ => nofun

theorem neverUnbalanced_readDefinedness (tail : List Char) :
    NeverUnbalanced (session.readDefinedness context tail) :=
  (neverUnbalanced_ofArgument _).bind fun _ => .ok _

theorem neverUnbalanced_readPath (tail : List Char) :
    NeverUnbalanced (session.readPath context tail) := by
  refine (neverUnbalanced_ofArgument _).bind fun expr => ?_
  refine (neverUnbalanced_evaluate session context expr).bind fun value => ?_
  cases value with
  | string path => exact .ok path
  | bool | int | float | set => exact fun _ failed => by cases failed

theorem neverUnbalanced_readValues (tail : List Char) :
    NeverUnbalanced (session.readValues context tail) :=
  (neverUnbalanced_ofArgument _).bind fun _ => .mapError fun _ _ => nofun

theorem neverUnbalanced_substitute (text : List Char) :
    NeverUnbalanced (session.substitute context text) :=
  .mapError fun _ _ => nofun

theorem neverUnbalanced_assign (kind : LayerKind) (name : String) (value : Value) :
    NeverUnbalanced (session.assign kind name value) := by
  intro imbalance failed
  unfold assign at failed
  split at failed
  · cases failed
  · cases failed
  · cases kind <;> cases failed

theorem neverUnbalanced_define (tail : List Char) :
    NeverUnbalanced (session.define context tail) := by
  refine (neverUnbalanced_ofArgument _).bind fun ⟨name, expr⟩ => ?_
  cases expr with
  | none => exact neverUnbalanced_assign session .locals name (.bool true)
  | some expr =>
      exact (neverUnbalanced_evaluate session context expr).bind fun value =>
        neverUnbalanced_assign session .locals name value

theorem neverUnbalanced_setVariable (directive : Directive) (kind : LayerKind)
    (tail : List Char) : NeverUnbalanced (session.setVariable context directive kind tail) := by
  refine (neverUnbalanced_ofArgument _).bind fun ⟨name, expr⟩ => ?_
  cases expr with
  | none => exact fun _ failed => by cases failed
  | some expr =>
      exact (neverUnbalanced_evaluate session context expr).bind fun value =>
        neverUnbalanced_assign session kind name value

theorem neverUnbalanced_removeVariable (tail : List Char) :
    NeverUnbalanced (session.removeVariable tail) := by
  refine (neverUnbalanced_ofArgument _).bind fun name => ?_
  intro imbalance failed
  unfold undefine at failed
  split at failed
  · cases failed
  split at failed
  · cases failed
  split at failed
  · cases failed
  · cases failed

theorem neverUnbalanced_reportMessage (severity : Severity) (tail : List Char) :
    NeverUnbalanced (session.reportMessage context severity tail) :=
  ((neverUnbalanced_substitute session context _).map _).bind fun _ => .ok _

theorem neverUnbalanced_failWith (tail : List Char) :
    NeverUnbalanced (session.failWith context tail) :=
  ((neverUnbalanced_substitute session context _).map _).bind fun _ _ failed => by cases failed

/-! ## Lines outside conditional blocks -/

variable {session context}

theorem neverUnbalanced_change {changed : Except LineError Session}
    (other : NeverUnbalanced changed) : NeverUnbalanced (session.change changed).2 := by
  intro imbalance failed
  cases changed with
  | error cause => exact other imbalance (congrArg _ (Except.error.inj failed))
  | ok changed => cases failed

theorem neverUnbalanced_act (tail : List Char) :
    NeverUnbalanced (session.act context tail).2 := by
  intro imbalance failed
  unfold act at failed
  split at failed
  · cases failed
  cases values : session.readValues context tail with
  | error cause =>
      rw [values] at failed
      exact neverUnbalanced_readValues session context tail imbalance
        (values.trans (congrArg _ (Except.error.inj failed)))
  | ok values' =>
      simp only [values] at failed
      split at failed <;> cases failed

/-- A directive that does not belong to conditional blocks never fails for the open blocks. -/
theorem neverUnbalanced_perform {directive : Directive}
    (unconditional : directive.isConditional = false) (tail : List Char) :
    NeverUnbalanced (session.perform context directive tail).2 := by
  cases directive with
  | openIf | openIfDefined | openIfUndefined | elseIf | otherwise | close => cases unconditional
  | define => exact neverUnbalanced_change (neverUnbalanced_define session context tail)
  | setLocal | setGlobal =>
      exact neverUnbalanced_change (neverUnbalanced_setVariable session context _ _ tail)
  | undefine => exact neverUnbalanced_change (neverUnbalanced_removeVariable session tail)
  | action => exact neverUnbalanced_act tail
  | «include» => exact (neverUnbalanced_readPath session context tail).map _
  | echo | warning =>
      exact neverUnbalanced_change (neverUnbalanced_reportMessage session context _ tail)
  | error => exact neverUnbalanced_change (neverUnbalanced_failWith session context tail)
  | exit => exact (neverUnbalanced_ofArgument _).map _
  | exitIf | excludeIf => exact (neverUnbalanced_readCondition session context tail).map _

variable (session) in
/-- A line that does not belong to conditional blocks never fails for the open blocks. -/
theorem neverUnbalanced_processLine {line : List Char}
    (unconditional : (LineForm.ofLine context.config.allowBlanks line).isConditional = false) :
    NeverUnbalanced (session.processLine context line).2 := by
  unfold processLine
  split
  · next keyword tail form =>
    rw [form] at unconditional
    unfold followDirective
    split
    · split
      · exact fun _ failed => by cases failed
      · exact .ok _
    · next directive found =>
      split
      · exact neverUnbalanced_perform
          (by simpa [LineForm.isConditional, found] using unconditional) tail
      · exact .ok _
  · next indent text verbatim _ =>
    split
    · refine neverUnbalanced_change (.map _ ?_)
      cases verbatim with
      | true => exact .ok text
      | false => exact neverUnbalanced_substitute session context text
    · exact .ok _
  · split
    · exact neverUnbalanced_change ((neverUnbalanced_substitute session context line).map _)
    · exact .ok _

variable (session) in
/-- A line that does not belong to conditional blocks leaves the open blocks as they are. -/
theorem nesting_processLine {line : List Char}
    (unconditional : (LineForm.ofLine context.config.allowBlanks line).isConditional = false) :
    (session.processLine context line).1.nesting = session.nesting := by
  have alike : AlikeWith (fun left _ => left = session.nesting) session session :=
    { toAlike := Alike.refl session, nesting := rfl }
  exact (alike.processLine_of_not_conditional context.config context.location context.baseDepth
    context.baseDepth rfl unconditional).session.nesting

end Session

end CommentDirectives
