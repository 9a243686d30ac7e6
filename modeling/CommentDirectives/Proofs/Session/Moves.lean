import CommentDirectives.Proofs.Blocks.Balance
import CommentDirectives.Proofs.Session.Flow
import CommentDirectives.Proofs.Session.Unbalanced

/-!
# What lines do to the open blocks

A line that does not fail changes the open blocks by the part that it plays in conditional blocks,
and in no other way (`Session.moves_of_processLine`).  The relation `Nesting.Moves` lists the
changes, each with what it needs.  Only a line that plays a part can be refused for the open blocks,
and only because its part fits none of them (`Session.refused_of_processLine`).
-/

namespace CommentDirectives

set_option autoImplicit false

/-- How the part that a line plays changes the open blocks, above so many blocks of other files. -/
inductive Nesting.Moves (location : Location) (base : Nat) :
    Option BlockPart → Nesting → Nesting → Prop where
  /-- A line that plays no part. -/
  | ordinary (nesting : Nesting) : Moves location base none nesting nesting
  /-- A block is opened where lines count. -/
  | opening {nesting : Nesting} (active : nesting.isActive = true) (holds : Bool) :
      Moves location base (some .opening) nesting (nesting.push holds location)
  /-- A block is opened where lines do not count. -/
  | suppressed {nesting : Nesting} (inactive : nesting.isActive = false) :
      Moves location base (some .opening) nesting (nesting.pushSuppressed location)
  | elseIf {nesting after : Nesting} {holds : Option Bool} (own : base < nesting.depth)
      (turned : nesting.elif holds = .ok after) : Moves location base (some .elseIf) nesting after
  | otherwise {nesting after : Nesting} (own : base < nesting.depth)
      (turned : nesting.elseBranch = .ok after) :
      Moves location base (some .otherwise) nesting after
  | close {nesting after : Nesting} {frame : Frame} (own : base < nesting.depth)
      (closed : nesting.pop = .ok (frame, after)) : Moves location base (some .close) nesting after

/-- Whether the last branch of each open block has started, the innermost first. -/
def Nesting.lastSeen (nesting : Nesting) : List Bool := nesting.frames.map (·.elseSeen)

namespace Nesting

/-- A part that does not fit the blocks that a file has open above so many blocks of others. -/
inductive Refuses (base : Nat) (nesting : Nesting) (part : BlockPart) : Prop where
  /-- The part needs an open block, and the file has none. -/
  | outside (needs : part ≠ .opening) (closed : nesting.depth ≤ base)
  /-- The innermost block does not admit the part. -/
  | innermost (refused : BlockPart.admit? nesting.lastSeen part = none)

variable {nesting after : Nesting} {cause : NestingError}

theorem admit?_of_wantsCondition (refused : nesting.wantsCondition = .error cause) :
    BlockPart.admit? nesting.lastSeen .elseIf = none := by
  obtain ⟨_ | ⟨⟨state, seen, opened⟩, outer⟩⟩ := nesting
  · rfl
  · cases seen with
    | true => rfl
    | false => cases refused

theorem admit?_of_elif {holds : Option Bool} (refused : nesting.elif holds = .error cause) :
    BlockPart.admit? nesting.lastSeen .elseIf = none := by
  obtain ⟨_ | ⟨⟨state, seen, opened⟩, outer⟩⟩ := nesting
  · rfl
  · cases seen with
    | true => rfl
    | false => cases refused

theorem admit?_of_elseBranch (refused : nesting.elseBranch = .error cause) :
    BlockPart.admit? nesting.lastSeen .otherwise = none := by
  obtain ⟨_ | ⟨⟨state, seen, opened⟩, outer⟩⟩ := nesting
  · rfl
  · cases seen with
    | true => rfl
    | false => cases refused

theorem admit?_of_pop (refused : nesting.pop = .error cause) :
    BlockPart.admit? nesting.lastSeen .close = none := by
  obtain ⟨_ | ⟨frame, outer⟩⟩ := nesting
  · rfl
  · cases refused

end Nesting

/-! ## Lines by their part -/

theorem Directive.isConditional_of_blockPart?_eq_some {directive : Directive} {part : BlockPart}
    (plays : directive.blockPart? = some part) : directive.isConditional = true := by
  cases directive <;> first | rfl | cases plays

/-- A line that plays a part has the form of a directive with that part. -/
theorem LineForm.exists_of_blockPart?_eq_some {form : LineForm} {part : BlockPart}
    (plays : form.blockPart? = some part) :
    ∃ directive tail, form = .directive (Directive.keyword directive) tail ∧
      directive.blockPart? = some part := by
  cases form with
  | uncomment | plain => cases plays
  | directive keyword tail =>
      obtain ⟨directive, found, known⟩ := Option.bind_eq_some_iff.mp plays
      have named := List.find?_some (p := fun known : Directive => known.keyword == keyword) found
      exact ⟨directive, tail, by rw [eq_of_beq named], known⟩

/-- A line that plays no part does not belong to conditional blocks. -/
theorem LineForm.isConditional_of_blockPart?_eq_none {form : LineForm}
    (plays : form.blockPart? = none) : form.isConditional = false := by
  cases form with
  | uncomment | plain => rfl
  | directive keyword tail =>
      simp only [LineForm.blockPart?, LineForm.isConditional] at plays ⊢
      cases found : Directive.withKeyword? keyword with
      | none => rfl
      | some directive =>
          rw [found] at plays
          cases directive <;> first | rfl | cases plays

/-- Whether a line has a directive behind which something else than the next line may be read. -/
def LineForm.turnsAway : LineForm → Bool
  | .directive keyword _ =>
    match Directive.withKeyword? keyword with
    | some known => known.turnsAway
    | none => false
  | _ => false

/-- A line that plays no part and does not turn away is ordinary. -/
theorem LineForm.isOrdinary_of_stays {form : LineForm} (plays : form.blockPart? = none)
    (stays : form.turnsAway = false) : form.isOrdinary = true := by
  have unconditional := isConditional_of_blockPart?_eq_none plays
  cases form with
  | uncomment | plain => rfl
  | directive keyword tail =>
      simp only [LineForm.isConditional, LineForm.turnsAway, LineForm.isOrdinary]
        at unconditional stays ⊢
      cases found : Directive.withKeyword? keyword with
      | none => rfl
      | some known =>
          simp only [found] at unconditional stays ⊢
          rw [unconditional, stays]
          rfl

namespace Session

variable {session : Session} {context : LineContext}

/-! ## Lines of conditional blocks -/

section Conditional

variable {after : Session} {tail : List Char}

/-- A block of the file itself is open where one is asked for. -/
theorem own_of_needOpenBlock {answer : Unit} (met : session.needOpenBlock context = .ok answer) :
    context.baseDepth < session.nesting.depth := by
  unfold needOpenBlock at met
  split at met
  · cases met
  · next own => exact Nat.lt_of_not_le own

theorem moves_of_openBlock {test : Except LineError Bool}
    (succeeded : session.openBlock context test = .ok after) :
    Nesting.Moves context.location context.baseDepth (some .opening) session.nesting
      after.nesting := by
  cases active : session.isActive with
  | true =>
      rw [openBlock_of_active active] at succeeded
      cases test with
      | error cause => cases succeeded
      | ok holds =>
          cases succeeded
          exact .opening active holds
  | false =>
      rw [openBlock_of_inactive active] at succeeded
      cases succeeded
      exact .suppressed active

/-- The steps of an alternative in a row. -/
theorem elseIf_eq_bind (session : Session) (context : LineContext) (tail : List Char) :
    session.elseIf context tail =
      (session.needOpenBlock context >>= fun _ =>
        ofNesting session.nesting.wantsCondition >>= fun wanted =>
          (if wanted then (session.readCondition context tail).map some else .ok none) >>=
            fun holds => ofNesting (session.nesting.elif holds) >>= fun nesting =>
              .ok { session with nesting := nesting }) := by
  unfold elseIf
  cases session.needOpenBlock context with
  | error cause => rfl
  | ok answer =>
      cases ofNesting session.nesting.wantsCondition with
      | error cause => rfl
      | ok wanted => cases wanted <;> rfl

theorem moves_of_elseIf (succeeded : session.elseIf context tail = .ok after) :
    Nesting.Moves context.location context.baseDepth (some .elseIf) session.nesting
      after.nesting := by
  rw [elseIf_eq_bind] at succeeded
  obtain ⟨_, own, succeeded⟩ := exists_of_bind_eq_ok succeeded
  obtain ⟨wanted, _, succeeded⟩ := exists_of_bind_eq_ok succeeded
  obtain ⟨holds, _, succeeded⟩ := exists_of_bind_eq_ok succeeded
  obtain ⟨nesting, turned, succeeded⟩ := exists_of_bind_eq_ok succeeded
  cases succeeded
  exact .elseIf (own_of_needOpenBlock own) (eq_ok_of_mapError turned)

theorem moves_of_otherwise (succeeded : session.otherwise context tail = .ok after) :
    Nesting.Moves context.location context.baseDepth (some .otherwise) session.nesting
      after.nesting := by
  obtain ⟨_, own, succeeded⟩ := exists_of_bind_eq_ok succeeded
  obtain ⟨_, _, succeeded⟩ := exists_of_bind_eq_ok succeeded
  obtain ⟨nesting, turned, succeeded⟩ := exists_of_bind_eq_ok succeeded
  cases succeeded
  exact .otherwise (own_of_needOpenBlock own) (eq_ok_of_mapError turned)

theorem moves_of_close (succeeded : session.close context tail = .ok after) :
    Nesting.Moves context.location context.baseDepth (some .close) session.nesting
      after.nesting := by
  obtain ⟨_, own, succeeded⟩ := exists_of_bind_eq_ok succeeded
  obtain ⟨_, _, succeeded⟩ := exists_of_bind_eq_ok succeeded
  obtain ⟨⟨frame, nesting⟩, closed, succeeded⟩ := exists_of_bind_eq_ok succeeded
  cases succeeded
  exact .close (own_of_needOpenBlock own) (eq_ok_of_mapError closed)

/-- A change that succeeded. -/
theorem changed_of_ok {changed : Except LineError Session} {flow : Flow}
    (succeeded : session.change changed = (after, .ok flow)) : changed = .ok after := by
  cases changed with
  | error cause => cases succeeded
  | ok changed => cases succeeded; rfl

/-- A change that failed. -/
theorem changed_of_error {changed : Except LineError Session} {cause : LineError}
    (failed : session.change changed = (after, .error cause)) : changed = .error cause := by
  cases changed with
  | error found => cases failed; rfl
  | ok changed => cases failed

/-- A directive of conditional blocks changes the open blocks by its part. -/
theorem moves_of_perform {directive : Directive} {part : BlockPart}
    (plays : directive.blockPart? = some part) {flow : Flow}
    (succeeded : session.perform context directive tail = (after, .ok flow)) :
    Nesting.Moves context.location context.baseDepth (some part) session.nesting
      after.nesting := by
  cases directive with
  | openIf | openIfDefined | openIfUndefined =>
      cases plays
      exact moves_of_openBlock (changed_of_ok succeeded)
  | elseIf =>
      cases plays
      exact moves_of_elseIf (changed_of_ok succeeded)
  | otherwise =>
      cases plays
      exact moves_of_otherwise (changed_of_ok succeeded)
  | close =>
      cases plays
      exact moves_of_close (changed_of_ok succeeded)
  | define | setLocal | setGlobal | undefine | action | «include» | echo | warning | error | exit
  | exitIf | excludeIf => cases plays

/-! ### Refusals -/

section Refusals

variable {imbalance : Imbalance}

/-- What needs an open block of the file itself is refused where there is none. -/
theorem outside_of_needOpenBlock
    (failed : session.needOpenBlock context = .error (.unbalanced imbalance)) :
    session.nesting.depth ≤ context.baseDepth ∧ imbalance = .refused .noOpenFrame := by
  unfold needOpenBlock at failed
  split at failed
  · next outside =>
    cases failed
    exact ⟨outside, rfl⟩
  · cases failed

/-- A refusal by the blocks themselves. -/
theorem exists_of_ofNesting_eq_error {α : Type} {change : Except NestingError α}
    (failed : ofNesting change = .error (.unbalanced imbalance)) :
    ∃ cause, change = .error cause ∧ imbalance = .refused cause := by
  obtain ⟨cause, refused, named⟩ := exists_of_mapError_eq_error failed
  cases named
  exact ⟨cause, refused, rfl⟩

/-- An opening line is never refused. -/
theorem neverUnbalanced_openBlock {test : Except LineError Bool} (other : NeverUnbalanced test) :
    NeverUnbalanced (session.openBlock context test) := by
  cases active : session.isActive with
  | true =>
      rw [openBlock_of_active active]
      exact other.map _
  | false =>
      rw [openBlock_of_inactive active]
      exact .ok _

theorem refused_of_elseIf
    (failed : session.elseIf context tail = .error (.unbalanced imbalance)) :
    session.nesting.Refuses context.baseDepth .elseIf ∧ ∃ cause, imbalance = .refused cause := by
  rw [elseIf_eq_bind] at failed
  rcases exists_of_bind_eq_error failed with need | ⟨_, _, failed⟩
  · obtain ⟨outside, named⟩ := outside_of_needOpenBlock need
    exact ⟨.outside nofun outside, _, named⟩
  rcases exists_of_bind_eq_error failed with asked | ⟨wanted, _, failed⟩
  · obtain ⟨cause, refused, named⟩ := exists_of_ofNesting_eq_error asked
    exact ⟨.innermost (Nesting.admit?_of_wantsCondition refused), cause, named⟩
  rcases exists_of_bind_eq_error failed with read | ⟨holds, _, failed⟩
  · have condition := (neverUnbalanced_readCondition session context tail).map some
    cases wanted with
    | true => exact absurd read (condition imbalance)
    | false => cases read
  rcases exists_of_bind_eq_error failed with turned | ⟨nesting, _, failed⟩
  · obtain ⟨cause, refused, named⟩ := exists_of_ofNesting_eq_error turned
    exact ⟨.innermost (Nesting.admit?_of_elif refused), cause, named⟩
  · cases failed

theorem refused_of_otherwise
    (failed : session.otherwise context tail = .error (.unbalanced imbalance)) :
    session.nesting.Refuses context.baseDepth .otherwise ∧
      ∃ cause, imbalance = .refused cause := by
  rcases exists_of_bind_eq_error failed with need | ⟨_, _, failed⟩
  · obtain ⟨outside, named⟩ := outside_of_needOpenBlock need
    exact ⟨.outside nofun outside, _, named⟩
  rcases exists_of_bind_eq_error failed with read | ⟨_, _, failed⟩
  · exact absurd read (neverUnbalanced_ofArgument _ imbalance)
  rcases exists_of_bind_eq_error failed with turned | ⟨nesting, _, failed⟩
  · obtain ⟨cause, refused, named⟩ := exists_of_ofNesting_eq_error turned
    exact ⟨.innermost (Nesting.admit?_of_elseBranch refused), cause, named⟩
  · cases failed

theorem refused_of_close
    (failed : session.close context tail = .error (.unbalanced imbalance)) :
    session.nesting.Refuses context.baseDepth .close ∧ ∃ cause, imbalance = .refused cause := by
  rcases exists_of_bind_eq_error failed with need | ⟨_, _, failed⟩
  · obtain ⟨outside, named⟩ := outside_of_needOpenBlock need
    exact ⟨.outside nofun outside, _, named⟩
  rcases exists_of_bind_eq_error failed with read | ⟨_, _, failed⟩
  · exact absurd read (neverUnbalanced_ofArgument _ imbalance)
  rcases exists_of_bind_eq_error failed with closed | ⟨⟨frame, nesting⟩, _, failed⟩
  · obtain ⟨cause, refused, named⟩ := exists_of_ofNesting_eq_error closed
    exact ⟨.innermost (Nesting.admit?_of_pop refused), cause, named⟩
  · cases failed

/-- A directive of conditional blocks that fails for the open blocks does not fit them. -/
theorem refused_of_perform {directive : Directive} {part : BlockPart}
    (plays : directive.blockPart? = some part)
    (failed : session.perform context directive tail = (after, .error (.unbalanced imbalance))) :
    session.nesting.Refuses context.baseDepth part ∧ ∃ cause, imbalance = .refused cause := by
  cases directive with
  | openIf =>
      exact absurd (changed_of_error failed)
        (neverUnbalanced_openBlock (neverUnbalanced_readCondition session context tail) imbalance)
  | openIfDefined =>
      exact absurd (changed_of_error failed)
        (neverUnbalanced_openBlock (neverUnbalanced_readDefinedness session context tail) imbalance)
  | openIfUndefined =>
      exact absurd (changed_of_error failed) (neverUnbalanced_openBlock
        ((neverUnbalanced_readDefinedness session context tail).map _) imbalance)
  | elseIf =>
      cases plays
      exact refused_of_elseIf (changed_of_error failed)
  | otherwise =>
      cases plays
      exact refused_of_otherwise (changed_of_error failed)
  | close =>
      cases plays
      exact refused_of_close (changed_of_error failed)
  | define | setLocal | setGlobal | undefine | action | «include» | echo | warning | error | exit
  | exitIf | excludeIf => cases plays

end Refusals

end Conditional

/-! ## All lines -/

variable {line : List Char} {after : Session}

variable (session) in
/-- A line that plays a part is followed with the blocks that are open in front of it. -/
theorem exists_perform_of_blockPart? {part : BlockPart}
    (plays : (LineForm.ofLine context.config.allowBlanks line).blockPart? = some part) :
    ∃ (directive : Directive) (tail : List Char) (traced : Session),
      LineForm.ofLine context.config.allowBlanks line = .directive directive.keyword tail ∧
        directive.blockPart? = some part ∧ traced.nesting = session.nesting ∧
        session.processLine context line = traced.perform context directive tail := by
  obtain ⟨directive, tail, form, known⟩ := LineForm.exists_of_blockPart?_eq_some plays
  have followed : (session.isActive || directive.isConditional) = true := by
    rw [Directive.isConditional_of_blockPart?_eq_some known, Bool.or_true]
  obtain ⟨traced, _, nesting, outcome⟩ := processLine_of_directive session form followed
  exact ⟨directive, tail, traced, form, known, nesting, outcome⟩

/-- **A line that does not fail changes the open blocks by the part that it plays.** -/
theorem moves_of_processLine {flow : Flow}
    (succeeded : session.processLine context line = (after, .ok flow)) :
    Nesting.Moves context.location context.baseDepth
      (LineForm.ofLine context.config.allowBlanks line).blockPart? session.nesting
      after.nesting := by
  cases plays : (LineForm.ofLine context.config.allowBlanks line).blockPart? with
  | none =>
      have kept := nesting_processLine session (LineForm.isConditional_of_blockPart?_eq_none plays)
      rw [succeeded] at kept
      rw [kept]
      exact .ordinary session.nesting
  | some part =>
      obtain ⟨directive, tail, traced, _, known, nesting, outcome⟩ :=
        exists_perform_of_blockPart? session plays
      rw [← nesting]
      exact moves_of_perform known (outcome.symm.trans succeeded)

/-- **A line that fails for the open blocks plays a part that does not fit them.** -/
theorem refused_of_processLine {imbalance : Imbalance}
    (failed : session.processLine context line = (after, .error (.unbalanced imbalance))) :
    ∃ part, (LineForm.ofLine context.config.allowBlanks line).blockPart? = some part ∧
      session.nesting.Refuses context.baseDepth part ∧ ∃ cause, imbalance = .refused cause := by
  cases plays : (LineForm.ofLine context.config.allowBlanks line).blockPart? with
  | none =>
      have other := neverUnbalanced_processLine session
        (LineForm.isConditional_of_blockPart?_eq_none plays) imbalance
      rw [failed] at other
      exact absurd rfl other
  | some part =>
      obtain ⟨directive, tail, traced, _, known, nesting, outcome⟩ :=
        exists_perform_of_blockPart? session plays
      rw [← nesting]
      exact ⟨part, rfl, refused_of_perform known (outcome.symm.trans failed)⟩

/-- Behind a line that does not turn away and does not fail, the next line is read. -/
theorem flow_of_stays
    (stays : (LineForm.ofLine context.config.allowBlanks line).turnsAway = false) {flow : Flow}
    (succeeded : session.processLine context line = (after, .ok flow)) : flow = .next := by
  have answered : (session.processLine context line).2 = .ok flow := by rw [succeeded]
  cases plays : (LineForm.ofLine context.config.allowBlanks line).blockPart? with
  | none => exact flow_of_ordinary (LineForm.isOrdinary_of_stays plays stays) answered
  | some part =>
      obtain ⟨directive, tail, traced, form, _, _, outcome⟩ :=
        exists_perform_of_blockPart? session plays
      rw [form] at stays
      simp only [LineForm.turnsAway, Directive.withKeyword?_keyword] at stays
      rw [outcome] at answered
      exact flow_perform stays answered

end Session

end CommentDirectives
