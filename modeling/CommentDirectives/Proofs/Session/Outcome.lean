import CommentDirectives.Proofs.Session.Alike

/-!
# Lines on sessions that are alike

A line has the same outcome on two sessions when what is to be read next is the
same, or the cause for which it fails, and the sessions that it leaves are alike
with related blocks (`SameOutcome`).

A line that does not belong to conditional blocks never looks at the open blocks
except to see whether lines count (`processLine_of_not_conditional`).  A line that
does belong to them uses the open blocks only through the operations on them, so
that its outcome is the same under any relation of blocks that these operations
keep (`Nesting.Bisimulation`, `processLine_of_bisimulation`).
-/

namespace CommentDirectives

set_option autoImplicit false

/-! ## Relations of blocks that lines cannot tell apart -/

/-- A relation of blocks that the operations on blocks keep, for files that start above so many
open blocks on either side.  A block is changed or closed only if its file opened it. -/
structure Nesting.Bisimulation (blocks : Nesting → Nesting → Prop) (base base' : Nat) : Prop where
  isActive : ∀ {left right : Nesting}, blocks left right → left.isActive = right.isActive
  depth_le : ∀ {left right : Nesting}, blocks left right →
    (left.depth ≤ base ↔ right.depth ≤ base')
  push : ∀ {left right : Nesting}, blocks left right → ∀ (holds : Bool) (opened : Location),
    left.isActive → blocks (left.push holds opened) (right.push holds opened)
  pushSuppressed : ∀ {left right : Nesting}, blocks left right → ∀ opened : Location,
    blocks (left.pushSuppressed opened) (right.pushSuppressed opened)
  wantsCondition : ∀ {left right : Nesting}, blocks left right → base < left.depth →
    left.wantsCondition = right.wantsCondition
  elif : ∀ {left right : Nesting}, blocks left right → base < left.depth →
    ∀ holds : Option Bool, Agree blocks (left.elif holds) (right.elif holds)
  elseBranch : ∀ {left right : Nesting}, blocks left right → base < left.depth →
    Agree blocks left.elseBranch right.elseBranch
  pop : ∀ {left right : Nesting}, blocks left right → base < left.depth →
    Agree (fun closed closed' => blocks closed.2 closed'.2) left.pop right.pop

/-- A directive is found by its own keyword. -/
theorem Directive.withKeyword?_keyword (directive : Directive) :
    Directive.withKeyword? directive.keyword = some directive := by
  cases directive <;> rfl

/-- Whether a line belongs to conditional blocks. -/
def LineForm.isConditional : LineForm → Bool
  | .directive keyword _ =>
    match Directive.withKeyword? keyword with
    | some known => known.isConditional
    | none => false
  | _ => false

namespace Session

/-- Two outcomes with the same continuation, or the same cause of failure, and with sessions that
are alike. -/
structure SameOutcome (blocks : Nesting → Nesting → Prop) (left right : Outcome) : Prop where
  session : AlikeWith blocks left.1 right.1
  flow : left.2 = right.2

/-- Two outcomes that are the same, taken apart. -/
theorem SameOutcome.parts {blocks : Nesting → Nesting → Prop} {left right : Outcome}
    (same : SameOutcome blocks left right) :
    ∃ after after' outcome, left = (after, outcome) ∧ right = (after', outcome) ∧
      AlikeWith blocks after after' :=
  ⟨left.1, right.1, left.2, rfl, Prod.ext rfl same.flow.symm, same.session⟩

@[simp]
theorem nesting_skip (session : Session) (config : Config) :
    (session.skip config).nesting = session.nesting := by
  unfold skip
  split <;> rfl

theorem isActive_skip (session : Session) (config : Config) :
    (session.skip config).isActive = session.isActive := by
  rw [isActive, isActive, nesting_skip]

/-- A session that accounts for some lines that give no output. -/
def skipLines (session : Session) (config : Config) (count : Nat) : Session :=
  count.repeat (fun session => session.skip config) session

@[simp]
theorem nesting_skipLines (session : Session) (config : Config) (count : Nat) :
    (session.skipLines config count).nesting = session.nesting := by
  induction count with
  | zero => rfl
  | succ count ih => exact (nesting_skip _ config).trans ih

theorem skipLines_succ (session : Session) (config : Config) (count : Nat) :
    session.skipLines config (count + 1) = (session.skip config).skipLines config count := by
  induction count with
  | zero => rfl
  | succ count ih => exact congrArg (fun session => session.skip config) ih

theorem skipLines_add (session : Session) (config : Config) (count count' : Nat) :
    session.skipLines config (count + count') =
      (session.skipLines config count).skipLines config count' := by
  induction count generalizing session with
  | zero => rw [Nat.zero_add]; rfl
  | succ count ih => rw [Nat.succ_add, skipLines_succ, ih, skipLines_succ]

/-- Where lines count, a block is opened by its test. -/
theorem openBlock_of_active {session : Session} {context : LineContext}
    {test : Except LineError Bool} (active : session.isActive = true) :
    session.openBlock context test = test.map fun holds =>
      { session with nesting := session.nesting.push holds context.location } :=
  if_pos active

/-- Elsewhere a block is opened without a look at its test. -/
theorem openBlock_of_inactive {session : Session} {context : LineContext}
    {test : Except LineError Bool} (inactive : session.isActive = false) :
    session.openBlock context test =
      .ok { session with nesting := session.nesting.pushSuppressed context.location } :=
  if_neg (by simp [inactive])

variable {blocks : Nesting → Nesting → Prop} {left right : Session}

namespace AlikeWith

theorem skipLines (alike : AlikeWith blocks left right) (config : Config) (count : Nat) :
    AlikeWith blocks (left.skipLines config count) (right.skipLines config count) := by
  induction count with
  | zero => exact alike
  | succ count ih => exact ih.skip config

theorem change (alike : AlikeWith blocks left right) {changed changed' : Except LineError Session}
    (agree : Agree (AlikeWith blocks) changed changed') :
    SameOutcome blocks (left.change changed) (right.change changed') := by
  cases agree with
  | error cause => exact ⟨alike, rfl⟩
  | ok results => exact ⟨results, rfl⟩

theorem turn (alike : AlikeWith blocks left right) {flow flow' : Except LineError Flow}
    (same : flow = flow') : SameOutcome blocks (left.turn flow) (right.turn flow') :=
  ⟨alike, same⟩

variable (alike : AlikeWith blocks left right) (config : Config) (location : Location)
  (base base' : Nat)
include alike

/-! ## Directives outside conditional blocks -/

theorem define (tail : List Char) :
    Agree (AlikeWith blocks) (left.define ⟨config, location, base⟩ tail)
      (right.define ⟨config, location, base'⟩ tail) := by
  simp only [Session.define, alike.evaluate config location base base']
  refine Agree.bind_same _ fun ⟨name, expr⟩ _ => ?_
  cases expr with
  | none => exact alike.assign .locals name (.bool true)
  | some expr => exact Agree.bind_same _ fun value _ => alike.assign .locals name value

theorem setVariable (directive : Directive) (kind : LayerKind) (tail : List Char) :
    Agree (AlikeWith blocks) (left.setVariable ⟨config, location, base⟩ directive kind tail)
      (right.setVariable ⟨config, location, base'⟩ directive kind tail) := by
  simp only [Session.setVariable, alike.evaluate config location base base']
  refine Agree.bind_same _ fun ⟨name, expr⟩ _ => ?_
  cases expr with
  | none => exact .error _
  | some expr => exact Agree.bind_same _ fun value _ => alike.assign kind name value

omit config location base base' in
theorem removeVariable (tail : List Char) :
    Agree (AlikeWith blocks) (left.removeVariable tail) (right.removeVariable tail) := by
  simp only [Session.removeVariable]
  exact Agree.bind_same _ fun name _ => alike.undefine name

theorem reportMessage (severity : Severity) (tail : List Char) :
    Agree (AlikeWith blocks) (left.reportMessage ⟨config, location, base⟩ severity tail)
      (right.reportMessage ⟨config, location, base'⟩ severity tail) := by
  simp only [Session.reportMessage, alike.readMessage config location base base']
  exact Agree.bind_same _ fun message _ => .ok (alike.report severity message _)

theorem failWith (tail : List Char) :
    Agree (AlikeWith blocks) (left.failWith ⟨config, location, base⟩ tail)
      (right.failWith ⟨config, location, base'⟩ tail) := by
  simp only [Session.failWith, alike.readMessage config location base base']
  exact Agree.bind_same _ fun message _ => .error _

theorem act (tail : List Char) :
    SameOutcome blocks (left.act ⟨config, location, base⟩ tail)
      (right.act ⟨config, location, base'⟩ tail) := by
  simp only [Session.act, alike.readValues config location base base']
  split
  · exact ⟨alike.report .warning _ _, rfl⟩
  split
  · exact ⟨alike, rfl⟩
  · next values _ =>
    refine ⟨{ alike with actions := ?_, messages := alike.messages }, rfl⟩
    simp only [alike.actions]

/-- A directive that does not belong to conditional blocks never looks at the open blocks. -/
theorem perform_of_not_conditional {directive : Directive}
    (unconditional : directive.isConditional = false) (tail : List Char) :
    SameOutcome blocks (left.perform ⟨config, location, base⟩ directive tail)
      (right.perform ⟨config, location, base'⟩ directive tail) := by
  have decided := alike.readCondition config location base base' tail
  cases directive with
  | openIf | openIfDefined | openIfUndefined | elseIf | otherwise | close =>
      cases unconditional
  | define => exact alike.change (alike.define config location base base' tail)
  | setLocal => exact alike.change (alike.setVariable config location base base' _ .locals tail)
  | setGlobal => exact alike.change (alike.setVariable config location base base' _ .globals tail)
  | undefine => exact alike.change (alike.removeVariable tail)
  | action => exact alike.act config location base base' tail
  | «include» => exact alike.turn (by rw [alike.readPath config location base base'])
  | echo => exact alike.change (alike.reportMessage config location base base' .info tail)
  | warning => exact alike.change (alike.reportMessage config location base base' .warning tail)
  | error => exact alike.change (alike.failWith config location base base' tail)
  | exit => exact alike.turn rfl
  | exitIf | excludeIf => exact alike.turn (by rw [decided])

/-! ## Directives of conditional blocks -/

section Conditional

variable (bisimulation : Nesting.Bisimulation blocks base base')
include bisimulation

theorem openBlock {test test' : Except LineError Bool} (same : test = test') :
    Agree (AlikeWith blocks) (left.openBlock ⟨config, location, base⟩ test)
      (right.openBlock ⟨config, location, base'⟩ test') := by
  subst same
  have active : left.isActive = right.isActive := bisimulation.isActive alike.nesting
  cases counts : left.isActive with
  | true =>
      rw [openBlock_of_active counts, openBlock_of_active (active.symm.trans counts)]
      refine (Agree.refl test).map fun holds _ same => ?_
      subst same
      exact alike.nest (bisimulation.push alike.nesting holds location counts)
  | false =>
      rw [openBlock_of_inactive counts, openBlock_of_inactive (active.symm.trans counts)]
      exact .ok (alike.nest (bisimulation.pushSuppressed alike.nesting location))

/-- Two attempts behind the test whether a block of the file itself is open. -/
theorem needOpenBlock_bind {next next' : Unit → Except LineError Session}
    (onward : base < left.nesting.depth → Agree (AlikeWith blocks) (next ()) (next' ())) :
    Agree (AlikeWith blocks) (left.needOpenBlock ⟨config, location, base⟩ >>= next)
      (right.needOpenBlock ⟨config, location, base'⟩ >>= next') := by
  simp only [Session.needOpenBlock, ← bisimulation.depth_le alike.nesting]
  by_cases closed : left.nesting.depth ≤ base
  · rw [if_pos closed]
    exact .error _
  · rw [if_neg closed]
    exact onward (Nat.lt_of_not_le closed)

theorem elseIf (tail : List Char) :
    Agree (AlikeWith blocks) (left.elseIf ⟨config, location, base⟩ tail)
      (right.elseIf ⟨config, location, base'⟩ tail) := by
  refine alike.needOpenBlock_bind config location base base' bisimulation fun opened => ?_
  rw [bisimulation.wantsCondition alike.nesting opened,
    alike.readCondition config location base base' tail]
  have turned (holds : Option Bool) :
      Agree (AlikeWith blocks)
        (ofNesting (left.nesting.elif holds) >>= fun nesting =>
          .ok { left with nesting := nesting })
        (ofNesting (right.nesting.elif holds) >>= fun nesting =>
          .ok { right with nesting := nesting }) :=
    ((bisimulation.elif alike.nesting opened holds).mapError _).bind
      fun nesting nesting' _ related => .ok (alike.nest related)
  refine Agree.bind_same _ fun wanted _ => ?_
  cases wanted with
  | true => exact Agree.bind_same _ fun holds _ => turned holds
  | false => exact turned none

theorem otherwise (tail : List Char) :
    Agree (AlikeWith blocks) (left.otherwise ⟨config, location, base⟩ tail)
      (right.otherwise ⟨config, location, base'⟩ tail) := by
  refine alike.needOpenBlock_bind config location base base' bisimulation fun opened => ?_
  refine Agree.bind_same _ fun _ _ => ?_
  refine ((bisimulation.elseBranch alike.nesting opened).mapError _).bind ?_
  exact fun nesting nesting' _ related => .ok (alike.nest related)

theorem close (tail : List Char) :
    Agree (AlikeWith blocks) (left.close ⟨config, location, base⟩ tail)
      (right.close ⟨config, location, base'⟩ tail) := by
  refine alike.needOpenBlock_bind config location base base' bisimulation fun opened => ?_
  refine Agree.bind_same _ fun _ _ => ?_
  refine ((bisimulation.pop alike.nesting opened).mapError _).bind ?_
  exact fun closed closed' _ related => .ok (alike.nest related)

/-- A directive has the same outcome under any relation of blocks that the operations keep. -/
theorem perform_of_bisimulation (directive : Directive) (tail : List Char) :
    SameOutcome blocks (left.perform ⟨config, location, base⟩ directive tail)
      (right.perform ⟨config, location, base'⟩ directive tail) := by
  have condition := alike.readCondition config location base base' tail
  have definedness := alike.readDefinedness config location base base' tail
  cases conditional : directive.isConditional with
  | false => exact alike.perform_of_not_conditional config location base base' conditional tail
  | true =>
      cases directive with
      | openIf => exact alike.change (alike.openBlock config location _ _ bisimulation condition)
      | openIfDefined =>
          exact alike.change (alike.openBlock config location _ _ bisimulation definedness)
      | openIfUndefined =>
          exact alike.change
            (alike.openBlock config location _ _ bisimulation (by rw [definedness]))
      | elseIf => exact alike.change (alike.elseIf config location _ _ bisimulation tail)
      | otherwise => exact alike.change (alike.otherwise config location _ _ bisimulation tail)
      | close => exact alike.change (alike.close config location _ _ bisimulation tail)
      | define | setLocal | setGlobal | undefine | action | «include» | echo | warning | error
      | exit | exitIf | excludeIf => cases conditional

end Conditional

/-! ## Lines -/

/-- A directive of a line, by what it does where it is followed. -/
theorem followDirective (active : left.isActive = right.isActive) (keyword : String)
    (tail : List Char)
    (performs : ∀ directive, Directive.withKeyword? keyword = some directive →
      ∀ {left right : Session}, AlikeWith blocks left right →
        SameOutcome blocks (left.perform ⟨config, location, base⟩ directive tail)
          (right.perform ⟨config, location, base'⟩ directive tail)) :
    SameOutcome blocks (left.followDirective ⟨config, location, base⟩ keyword tail)
      (right.followDirective ⟨config, location, base'⟩ keyword tail) := by
  simp only [Session.followDirective, active]
  split
  · exact ⟨alike, rfl⟩
  · next directive found =>
    split
    · exact performs directive found (alike.trace _ _ _ _)
    · exact ⟨alike, rfl⟩

theorem writeText (text : List Char) :
    AlikeWith blocks (left.writeText ⟨config, location, base⟩ text)
      (right.writeText ⟨config, location, base'⟩ text) := by
  simp only [Session.writeText, alike.inBlock, alike.commentOpened]
  split
  · exact alike.write text
  have stripped (inBlock : Bool) (opened : Option Location) :
      AlikeWith blocks { left with inBlock := inBlock, commentOpened := opened }
        { right with inBlock := inBlock, commentOpened := opened } :=
    { alike with inBlock := rfl, commentOpened := rfl, messages := alike.messages }
  split
  · exact (stripped _ _).skip config
  · exact (stripped _ _).write _

theorem uncomment (indent text : List Char) (verbatim : Bool) :
    Agree (AlikeWith blocks) (left.uncomment ⟨config, location, base⟩ indent text verbatim)
      (right.uncomment ⟨config, location, base'⟩ indent text verbatim) := by
  simp only [Session.uncomment, alike.substitute config location base base']
  refine (Agree.refl _).map fun body body' same => ?_
  subst same
  exact alike.write _

/-- A line, by what its directive does if it is one. -/
theorem processLine (active : left.isActive = right.isActive) (line : List Char)
    (performs : ∀ keyword tail directive,
      LineForm.ofLine config.allowBlanks line = .directive keyword tail →
      Directive.withKeyword? keyword = some directive →
      ∀ {left right : Session}, AlikeWith blocks left right →
        SameOutcome blocks (left.perform ⟨config, location, base⟩ directive tail)
          (right.perform ⟨config, location, base'⟩ directive tail)) :
    SameOutcome blocks (left.processLine ⟨config, location, base⟩ line)
      (right.processLine ⟨config, location, base'⟩ line) := by
  simp only [Session.processLine, active]
  split
  · next keyword tail form =>
    refine (alike.skip config).followDirective config location base base' ?_ keyword tail
      fun directive found => performs keyword tail directive form found
    rw [isActive_skip, isActive_skip, active]
  · next indent text verbatim _ =>
    split
    · exact alike.change (alike.uncomment config location base base' indent text verbatim)
    · exact ⟨alike.skip config, rfl⟩
  · split
    · rw [alike.substitute config location base base']
      refine alike.change ((Agree.refl _).map fun text text' same => ?_)
      subst same
      exact alike.writeText config location base base' text
    · exact ⟨alike.skip config, rfl⟩

/-- **A line outside conditional blocks never looks at the open blocks**, except to see whether
lines count. -/
theorem processLine_of_not_conditional (active : left.isActive = right.isActive)
    {line : List Char}
    (unconditional : (LineForm.ofLine config.allowBlanks line).isConditional = false) :
    SameOutcome blocks (left.processLine ⟨config, location, base⟩ line)
      (right.processLine ⟨config, location, base'⟩ line) := by
  refine alike.processLine config location base base' active line ?_
  intro keyword tail directive form found left right related
  rw [form] at unconditional
  exact related.perform_of_not_conditional config location base base'
    (by simpa [LineForm.isConditional, found] using unconditional) tail

/-- **A line has the same outcome under any relation of blocks that the operations keep.** -/
theorem processLine_of_bisimulation (bisimulation : Nesting.Bisimulation blocks base base')
    (line : List Char) :
    SameOutcome blocks (left.processLine ⟨config, location, base⟩ line)
      (right.processLine ⟨config, location, base'⟩ line) := by
  refine alike.processLine config location base base' (bisimulation.isActive alike.nesting) line ?_
  intro keyword tail directive _ _ left right related
  exact related.perform_of_bisimulation config location base base' bisimulation directive tail

end AlikeWith

/-! ## Lines where nothing counts, and lines of conditional blocks -/

/-- Where lines do not count, a line outside conditional blocks is skipped. -/
theorem processLine_of_inactive {session : Session} {context : LineContext} {line : List Char}
    (inactive : session.isActive = false)
    (unconditional : (LineForm.ofLine context.config.allowBlanks line).isConditional = false) :
    session.processLine context line = (session.skip context.config, .ok .next) := by
  unfold Session.processLine
  split
  · next keyword tail form =>
    rw [form] at unconditional
    simp only [Session.followDirective, isActive_skip, inactive]
    split
    · rfl
    · next directive found =>
      have other : directive.isConditional = false := by
        simpa [LineForm.isConditional, found] using unconditional
      simp [other]
  · simp [inactive]
  · simp [inactive]

/-- A directive that is followed acts on the session that has skipped its line; only a trace of
it is added. -/
theorem processLine_of_directive (session : Session) {context : LineContext} {line tail : List Char}
    {directive : Directive}
    (form : LineForm.ofLine context.config.allowBlanks line = .directive directive.keyword tail)
    (followed : (session.isActive || directive.isConditional) = true) :
    ∃ traced : Session, traced.Alike (session.skip context.config) ∧
      traced.nesting = session.nesting ∧
      session.processLine context line = traced.perform context directive tail := by
  refine ⟨(session.skip context.config).report .debug "directive"
    [("directive", directive.keyword), ("file", context.location.file),
      ("line", toString context.location.line)], ?_, ?_, ?_⟩
  · exact ((Alike.refl _).regardless.untrace _ _).toAlike
  · exact nesting_skip session context.config
  · simp only [Session.processLine, form, Session.followDirective,
      Directive.withKeyword?_keyword, isActive_skip]
    exact if_pos followed

end Session

end CommentDirectives
