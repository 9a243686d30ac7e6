import CommentDirectives.Proofs.Evaluation.Leniency
import CommentDirectives.Session.Lines

/-!
# Lines that meet names without a value

A line does the same under a strict and under a lenient configuration, unless it fails under the
strict one for want of a value of a name (`Session.sameTurn_processLine`).  Whether a name has a
value is never asked differently: the directives that test or remove a name look at the layers and
the providers only, and a line that removes a name does the same in every case
(`Session.processLine_of_removal`).
-/

namespace CommentDirectives

set_option autoImplicit false

/-- The configuration under which names without a value are failures. -/
def Config.strict (config : Config) : Config := { config with unknownAsFalse := false }

/-- The configuration under which names without a value are false. -/
def Config.lenient (config : Config) : Config := { config with unknownAsFalse := true }

/-- A line under the strict configuration. -/
def LineContext.strict (context : LineContext) : LineContext :=
  { context with config := context.config.strict }

/-- A line under the lenient configuration. -/
def LineContext.lenient (context : LineContext) : LineContext :=
  { context with config := context.config.lenient }

/-- A failure of a line for want of a value of a name. -/
def LineError.IsUnresolved (cause : LineError) : Prop :=
  ∃ name, cause = .expression (.withoutValue (.unresolvedVariable name))

/-- Two attempts on a line that come to the same, unless the first fails for want of a value of a
name. -/
abbrev SameOrUnresolved {α : Type} : Except LineError α → Except LineError α → Prop :=
  SameUnless LineError.IsUnresolved

theorem LineError.isUnresolved_expression (cause : ExpressionError)
    (unresolved : cause.IsUnresolved) : (LineError.expression cause).IsUnresolved := by
  obtain ⟨name, rfl⟩ := unresolved
  exact ⟨name, rfl⟩

theorem LineError.isUnresolved_withoutValue (cause : EvaluationError)
    (unresolved : cause.IsUnresolved) :
    (LineError.expression (.withoutValue cause)).IsUnresolved := by
  obtain ⟨name, rfl⟩ := unresolved
  exact ⟨name, rfl⟩

namespace Session

variable (session : Session) (context : LineContext) (tail : List Char)

/-! ## What lines read -/

theorem scope_strict : session.scope context.strict = (session.scope context).strict := rfl

theorem scope_lenient : session.scope context.lenient = (session.scope context).lenient := rfl

theorem same_evaluate (expr : Expr) :
    SameOrUnresolved (session.evaluate context.strict expr)
      (session.evaluate context.lenient expr) :=
  (Expr.sameUnless_eval (session.scope context) expr).mapError
    LineError.isUnresolved_withoutValue

theorem same_condition (expr : Expr) :
    SameOrUnresolved (session.condition context.strict expr)
      (session.condition context.lenient expr) := by
  have values := session.same_evaluate context expr
  unfold condition
  generalize session.evaluate context.strict expr = strict at values ⊢
  generalize session.evaluate context.lenient expr = lenient at values ⊢
  cases values with
  | exempt _ unresolved => exact .exempt _ unresolved
  | same => exact .same _

theorem same_substitute (text : List Char) :
    SameOrUnresolved (session.substitute context.strict text)
      (session.substitute context.lenient text) :=
  ((session.scope context).sameUnless_substitute text).mapError LineError.isUnresolved_expression

theorem same_readCondition :
    SameOrUnresolved (session.readCondition context.strict tail)
      (session.readCondition context.lenient tail) :=
  (SameUnless.same _).bind fun expr _ => session.same_condition context expr

/-- Whether a name has a value is not asked of the switch. -/
theorem readDefinedness_strict :
    session.readDefinedness context.strict tail =
      session.readDefinedness context.lenient tail := by
  have known (name : String) : (session.scope context).strict.isDefined name =
      (session.scope context).lenient.isDefined name :=
    congrArg Option.isSome ((session.scope context).lookup_strict name)
  unfold readDefinedness
  simp only [scope_strict, scope_lenient, known]

theorem same_readMessage :
    SameOrUnresolved (session.readMessage context.strict tail)
      (session.readMessage context.lenient tail) :=
  (session.same_substitute context _).map _

theorem same_readPath :
    SameOrUnresolved (session.readPath context.strict tail)
      (session.readPath context.lenient tail) :=
  (SameUnless.same _).bind fun expr _ =>
    (session.same_evaluate context expr).bind fun _ _ => .same _

theorem same_readValues :
    SameOrUnresolved (session.readValues context.strict tail)
      (session.readValues context.lenient tail) :=
  (SameUnless.same _).bind fun exprs _ =>
    (Expr.sameUnless_evalAll (session.scope context) exprs).mapError
      LineError.isUnresolved_withoutValue

/-! ## What directives change -/

theorem same_openBlock {test test' : Except LineError Bool} (tests : SameOrUnresolved test test') :
    SameOrUnresolved (session.openBlock context.strict test)
      (session.openBlock context.lenient test') := by
  unfold openBlock
  split
  · exact tests.map _
  · exact .same _

theorem otherwise_strict :
    session.otherwise context.strict tail = session.otherwise context.lenient tail := rfl

theorem close_strict :
    session.close context.strict tail = session.close context.lenient tail := rfl

theorem same_elseIf :
    SameOrUnresolved (session.elseIf context.strict tail)
      (session.elseIf context.lenient tail) := by
  refine (SameUnless.same _).bind fun _ _ => (SameUnless.same _).bind fun wanted _ => ?_
  cases wanted with
  | true =>
      exact ((session.same_readCondition context tail).map some).bind fun holds _ => .same _
  | false => exact .same _

theorem same_define :
    SameOrUnresolved (session.define context.strict tail)
      (session.define context.lenient tail) := by
  refine (SameUnless.same _).bind fun ⟨name, expr⟩ _ => ?_
  cases expr with
  | none => exact .same _
  | some expr => exact (session.same_evaluate context expr).bind fun value _ => .same _

theorem same_setVariable (directive : Directive) (kind : LayerKind) :
    SameOrUnresolved (session.setVariable context.strict directive kind tail)
      (session.setVariable context.lenient directive kind tail) := by
  refine (SameUnless.same _).bind fun ⟨name, expr⟩ _ => ?_
  cases expr with
  | none => exact .same _
  | some expr => exact (session.same_evaluate context expr).bind fun value _ => .same _

theorem same_reportMessage (severity : Severity) :
    SameOrUnresolved (session.reportMessage context.strict severity tail)
      (session.reportMessage context.lenient severity tail) :=
  (session.same_readMessage context tail).bind fun _ _ => .same _

theorem same_failWith :
    SameOrUnresolved (session.failWith context.strict tail)
      (session.failWith context.lenient tail) :=
  (session.same_readMessage context tail).bind fun _ _ => .same _

/-! ## Whole lines -/

/-- Two outcomes that are the same, unless the first is a failure for want of a value of a name. -/
inductive SameTurn : Outcome → Outcome → Prop where
  | same (outcome : Outcome) : SameTurn outcome outcome
  | unresolved (after : Session) {cause : LineError} (outcome : Outcome) : cause.IsUnresolved →
      SameTurn (after, .error cause) outcome

variable {session context tail}

theorem SameTurn.change {changed changed' : Except LineError Session}
    (same : SameOrUnresolved changed changed') :
    SameTurn (session.change changed) (session.change changed') := by
  cases same with
  | exempt _ unresolved => exact .unresolved session _ unresolved
  | same => exact .same _

theorem SameTurn.turn {flow flow' : Except LineError Flow} (same : SameOrUnresolved flow flow') :
    SameTurn (session.turn flow) (session.turn flow') := by
  cases same with
  | exempt _ unresolved => exact .unresolved session _ unresolved
  | same => exact .same _

variable (session context tail)

theorem sameTurn_act :
    SameTurn (session.act context.strict tail) (session.act context.lenient tail) := by
  have extension : context.strict.config.extension = context.lenient.config.extension := rfl
  have location : context.strict.location = context.lenient.location := rfl
  have values := session.same_readValues context tail
  unfold act
  rw [extension, location]
  generalize session.readValues context.strict tail = strict at values ⊢
  generalize session.readValues context.lenient tail = lenient at values ⊢
  cases context.lenient.config.extension with
  | none => exact .same _
  | some accepts =>
      cases values with
      | exempt _ unresolved => exact .unresolved session _ unresolved
      | same => exact .same _

/-- A directive does the same, unless it fails for want of a value of a name. -/
theorem sameTurn_perform (directive : Directive) :
    SameTurn (session.perform context.strict directive tail)
      (session.perform context.lenient directive tail) := by
  have condition := session.same_readCondition context tail
  cases directive with
  | openIf => exact .change (session.same_openBlock context condition)
  | openIfDefined | openIfUndefined =>
      rw [perform, perform, readDefinedness_strict]
      exact .change (session.same_openBlock context (.same _))
  | elseIf => exact .change (session.same_elseIf context tail)
  | otherwise =>
      rw [perform, perform, otherwise_strict]
      exact .same _
  | close =>
      rw [perform, perform, close_strict]
      exact .same _
  | undefine => exact .same _
  | define => exact .change (session.same_define context tail)
  | setLocal | setGlobal => exact .change (session.same_setVariable context tail _ _)
  | action => exact session.sameTurn_act context tail
  | «include» => exact .turn ((session.same_readPath context tail).map _)
  | echo | warning => exact .change (session.same_reportMessage context tail _)
  | error => exact .change (session.same_failWith context tail)
  | exit => exact .same _
  | exitIf | excludeIf => exact .turn (condition.map _)

theorem sameTurn_followDirective (keyword : String) :
    SameTurn (session.followDirective context.strict keyword tail)
      (session.followDirective context.lenient keyword tail) := by
  unfold followDirective
  cases Directive.withKeyword? keyword with
  | none => exact .same _
  | some directive =>
      dsimp only
      split
      · exact sameTurn_perform _ context tail directive
      · exact .same _

/-- **A line does the same under a strict and a lenient configuration**, unless it fails under the
strict one for want of a value of a name. -/
theorem sameTurn_processLine (line : List Char) :
    SameTurn (session.processLine context.strict line)
      (session.processLine context.lenient line) := by
  have form : LineForm.ofLine context.strict.config.allowBlanks line =
      LineForm.ofLine context.lenient.config.allowBlanks line := rfl
  unfold processLine
  rw [form]
  cases LineForm.ofLine context.lenient.config.allowBlanks line with
  | directive keyword tail => exact sameTurn_followDirective _ context tail keyword
  | uncomment indent text verbatim =>
      dsimp only
      split
      · refine .change ?_
        unfold uncomment
        cases verbatim with
        | true => exact .same _
        | false => exact (session.same_substitute context text).map _
      · exact .same _
  | plain =>
      dsimp only
      split
      · exact .change ((session.same_substitute context line).map _)
      · exact .same _

/-- A line that removes a name does the same in every case. -/
theorem processLine_of_removal {line tail : List Char}
    (form : LineForm.ofLine context.config.allowBlanks line =
      .directive Directive.undefine.keyword tail) :
    session.processLine context.strict line = session.processLine context.lenient line := by
  have formStrict : LineForm.ofLine context.strict.config.allowBlanks line =
      .directive Directive.undefine.keyword tail := form
  have formLenient : LineForm.ofLine context.lenient.config.allowBlanks line =
      .directive Directive.undefine.keyword tail := form
  rw [processLine, processLine, formStrict, formLenient]
  rfl

end Session

end CommentDirectives
