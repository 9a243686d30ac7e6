import CommentDirectives.Proofs.Session.Alike

/-!
# Changes that directives do not notice

A directive reads and writes the variables, the providers and the open blocks of a session, and it
adds to the two records.  A change of anything else goes unnoticed (`Session.Unnoticed`): a directive
does the same behind it as in front of it, and the change can just as well be made afterwards
(`Session.Unnoticed.perform`, `Session.Unnoticed.followDirective`).
-/

namespace CommentDirectives

set_option autoImplicit false

/-- A change of a result that can be made behind an attempt can be made behind what goes on from
it. -/
theorem bind_eq_map {ε α β : Type} {first : Except ε α} {next next' : α → Except ε β}
    {change : β → β} (onward : ∀ value, next' value = (next value).map change) :
    first >>= next' = (first >>= next).map change := by
  cases first with
  | error cause => rfl
  | ok value => exact onward value

/-- The same, where the first attempt is the same one in another guise. -/
theorem bind_eq_map_of_eq {ε α β : Type} {first first' : Except ε α} {next next' : α → Except ε β}
    {change : β → β} (same : first' = first)
    (onward : ∀ value, next' value = (next value).map change) :
    first' >>= next' = (first >>= next).map change :=
  same ▸ bind_eq_map onward

namespace Session

/-- A change of a session that leaves alone what directives read, and that can be made in front of
or behind what they write. -/
structure Unnoticed (change : Session → Session) : Prop where
  globals : ∀ session, (change session).globals = session.globals
  locals : ∀ session, (change session).locals = session.locals
  providers : ∀ session, (change session).providers = session.providers
  nesting : ∀ session, (change session).nesting = session.nesting
  withGlobals : ∀ session globals,
    { change session with globals := globals } = change { session with globals := globals }
  withLocals : ∀ session locals,
    { change session with locals := locals } = change { session with locals := locals }
  withProviders : ∀ session providers,
    { change session with providers := providers } = change { session with providers := providers }
  withNesting : ∀ session nesting,
    { change session with nesting := nesting } = change { session with nesting := nesting }
  report : ∀ session severity message details,
    (change session).report severity message details =
      change (session.report severity message details)
  record : ∀ session action,
    { change session with actions := (change session).actions.push action } =
      change { session with actions := session.actions.push action }

namespace Unnoticed

variable {change : Session → Session} (unnoticed : Unnoticed change) (session : Session)
  (context : LineContext) (tail : List Char)
include unnoticed

theorem scope : (change session).scope context = session.scope context := by
  simp only [Session.scope, unnoticed.globals, unnoticed.locals, unnoticed.providers]

theorem isActive : (change session).isActive = session.isActive := by
  rw [Session.isActive, Session.isActive, unnoticed.nesting]

/-! ## What directives change -/

theorem assign (kind : LayerKind) (name : String) (value : Value) :
    (change session).assign kind name value = (session.assign kind name value).map change := by
  have taken : Provider.assignAmong? (Text.lowercase name) value (change session).providers =
      Provider.assignAmong? (Text.lowercase name) value session.providers := by
    rw [unnoticed.providers]
  unfold Session.assign
  rw [taken]
  split
  · exact congrArg Except.ok (unnoticed.withProviders session _)
  · rfl
  · cases kind with
    | locals =>
        rw [unnoticed.locals]
        exact congrArg Except.ok (unnoticed.withLocals session _)
    | globals =>
        rw [unnoticed.globals]
        exact congrArg Except.ok (unnoticed.withGlobals session _)

theorem undefine (name : String) :
    (change session).undefine name = (session.undefine name).map change := by
  have owned : (change session).providers.any (·.owns name) =
      session.providers.any (·.owns name) := by rw [unnoticed.providers]
  have ofFile : (change session).locals.contains name = session.locals.contains name := by
    rw [unnoticed.locals]
  have shared : (change session).globals.contains name = session.globals.contains name := by
    rw [unnoticed.globals]
  unfold Session.undefine
  rw [owned, ofFile, shared]
  split
  · rfl
  split
  · rw [unnoticed.locals]
    exact congrArg Except.ok (unnoticed.withLocals session _)
  split
  · rw [unnoticed.globals]
    exact congrArg Except.ok (unnoticed.withGlobals session _)
  · rfl

theorem openBlock (test : Except LineError Bool) :
    (change session).openBlock context test = (session.openBlock context test).map change := by
  unfold Session.openBlock
  simp only [unnoticed.isActive, unnoticed.nesting, unnoticed.withNesting]
  split
  · cases test with
    | error cause | ok holds => rfl
  · rfl

theorem needOpenBlock : (change session).needOpenBlock context = session.needOpenBlock context := by
  rw [Session.needOpenBlock, Session.needOpenBlock, unnoticed.nesting]

/-- New blocks that are found in the same way are put in place in front of the change or behind
it. -/
theorem nest {blocks : Except LineError Nesting} :
    (blocks >>= fun nesting => .ok { change session with nesting := nesting }) =
      (blocks >>= fun nesting => Except.ok { session with nesting := nesting }).map change :=
  bind_eq_map fun nesting => congrArg Except.ok (unnoticed.withNesting session nesting)

theorem elseIf :
    (change session).elseIf context tail = (session.elseIf context tail).map change := by
  unfold Session.elseIf
  rw [unnoticed.needOpenBlock, unnoticed.nesting,
    readCondition_congr (unnoticed.scope session context)]
  refine bind_eq_map fun _ => bind_eq_map fun wanted => ?_
  cases wanted with
  | true | false => exact bind_eq_map fun _ => unnoticed.nest session

theorem otherwise :
    (change session).otherwise context tail = (session.otherwise context tail).map change := by
  unfold Session.otherwise
  rw [unnoticed.needOpenBlock, unnoticed.nesting]
  exact bind_eq_map fun _ => bind_eq_map fun _ => unnoticed.nest session

theorem close : (change session).close context tail = (session.close context tail).map change := by
  unfold Session.close
  rw [unnoticed.needOpenBlock, unnoticed.nesting]
  exact bind_eq_map fun _ => bind_eq_map fun _ => bind_eq_map fun ⟨_, nesting⟩ =>
    congrArg Except.ok (unnoticed.withNesting session nesting)

theorem define : (change session).define context tail = (session.define context tail).map change :=
  bind_eq_map fun ⟨name, expr⟩ => by
    cases expr with
    | none => exact unnoticed.assign session .locals name (.bool true)
    | some expr =>
        exact bind_eq_map_of_eq (evaluate_congr (unnoticed.scope session context) expr)
          fun value => unnoticed.assign session .locals name value

theorem setVariable (directive : Directive) (kind : LayerKind) :
    (change session).setVariable context directive kind tail =
      (session.setVariable context directive kind tail).map change :=
  bind_eq_map fun ⟨name, expr⟩ => by
    cases expr with
    | none => rfl
    | some expr =>
        exact bind_eq_map_of_eq (evaluate_congr (unnoticed.scope session context) expr)
          fun value => unnoticed.assign session kind name value

theorem removeVariable :
    (change session).removeVariable tail = (session.removeVariable tail).map change :=
  bind_eq_map fun name => unnoticed.undefine session name

theorem reportMessage (severity : Severity) :
    (change session).reportMessage context severity tail =
      (session.reportMessage context severity tail).map change :=
  bind_eq_map_of_eq (readMessage_congr (unnoticed.scope session context) tail) fun message =>
    congrArg Except.ok (unnoticed.report session severity message _)

theorem failWith :
    (change session).failWith context tail = (session.failWith context tail).map change :=
  bind_eq_map_of_eq (readMessage_congr (unnoticed.scope session context) tail) fun _ => rfl

/-! ## Whole directives -/

omit unnoticed in
/-- A change of a session can be made behind the outcome of another one. -/
theorem change_map (changed : Except LineError Session) :
    (change session).change (changed.map change) = (session.change changed).map change id := by
  cases changed with
  | error cause | ok after => rfl

theorem act : (change session).act context tail = (session.act context tail).map change id := by
  unfold Session.act
  rw [readValues_congr (unnoticed.scope session context)]
  cases context.config.extension with
  | none =>
      simp only [unnoticed.report]
      rfl
  | some accepts =>
      cases session.readValues context tail with
      | error cause => rfl
      | ok values =>
          simp only [unnoticed.record]
          rfl

/-- **A directive does the same behind a change that it does not notice.** -/
theorem perform (directive : Directive) :
    (change session).perform context directive tail =
      (session.perform context directive tail).map change id := by
  have condition := readCondition_congr (unnoticed.scope session context) tail
  have definedness := readDefinedness_congr (unnoticed.scope session context) tail
  unfold Session.perform
  cases directive with
  | openIf => simp only [condition, unnoticed.openBlock, change_map]
  | openIfDefined | openIfUndefined => simp only [definedness, unnoticed.openBlock, change_map]
  | elseIf => simp only [unnoticed.elseIf, change_map]
  | otherwise => simp only [unnoticed.otherwise, change_map]
  | close => simp only [unnoticed.close, change_map]
  | define => simp only [unnoticed.define, change_map]
  | setLocal | setGlobal => simp only [unnoticed.setVariable, change_map]
  | undefine => simp only [unnoticed.removeVariable, change_map]
  | action => exact unnoticed.act session context tail
  | «include» =>
      simp only [readPath_congr (unnoticed.scope session context)]
      rfl
  | echo | warning => simp only [unnoticed.reportMessage, change_map]
  | error => simp only [unnoticed.failWith, change_map]
  | exit => rfl
  | exitIf | excludeIf =>
      simp only [condition]
      rfl

theorem followDirective (keyword : String) :
    (change session).followDirective context keyword tail =
      (session.followDirective context keyword tail).map change id := by
  unfold Session.followDirective
  rw [unnoticed.isActive]
  cases Directive.withKeyword? keyword with
  | none => rfl
  | some directive =>
      simp only [unnoticed.report, unnoticed.perform]
      split
      · rfl
      · rfl

end Unnoticed

end Session

end CommentDirectives
