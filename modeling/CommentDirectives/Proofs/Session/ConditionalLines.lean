import Mathlib
import CommentDirectives.Proofs.Session.Outcome

/-!
# What the lines of conditional blocks do

A line of a conditional block changes nothing but the open blocks, its own line
apart, which is skipped (`Session.OnlyNests`).  The statements say for each of the
directives which blocks are open behind it, and when its test is read: behind an
opening line where lines count, and behind an alternative to a block in which no
branch was taken so far.
-/

namespace CommentDirectives

set_option autoImplicit false

/-! ## Parts of the lines -/

/-- A tail that is blank or a comment. -/
def Directive.BareTail (tail : List Char) : Prop :=
  Text.trim tail = [] ∨ ['/', '/'] <+: Text.trim tail

/-- Tails that are blank or comments are read as nothing. -/
theorem Directive.BareTail.readNothing {tail : List Char} (bare : Directive.BareTail tail) :
    Directive.readNothing tail = .ok () := by
  unfold Directive.readNothing
  rcases bare with blank | ⟨comment, starts⟩
  · rw [blank]
  · rw [← starts]
    rfl

/-- The tests that open a block. -/
inductive BlockTest where
  /-- A condition holds. -/
  | condition
  /-- A name has a value. -/
  | defined
  /-- A name has no value. -/
  | undefined
  deriving DecidableEq, Repr

/-- The directive that opens a block with a test. -/
def BlockTest.directive : BlockTest → Directive
  | .condition => .openIf
  | .defined => .openIfDefined
  | .undefined => .openIfUndefined

namespace Session

/-- Whether a test holds. -/
def readTest (session : Session) (context : LineContext) (tail : List Char) :
    BlockTest → Except LineError Bool
  | .condition => session.readCondition context tail
  | .defined => session.readDefinedness context tail
  | .undefined => (session.readDefinedness context tail).map fun known => !known

/-- The tests of sessions that are alike are alike. -/
theorem Alike.readTest {left right : Session} (alike : left.Alike right) (config : Config)
    (location : Location) (base base' : Nat) (tail : List Char) (test : BlockTest) :
    left.readTest ⟨config, location, base⟩ tail test =
      right.readTest ⟨config, location, base'⟩ tail test := by
  cases test with
  | condition => exact alike.readCondition config location base base' tail
  | defined => exact alike.readDefinedness config location base base' tail
  | undefined =>
      simp only [Session.readTest, alike.readDefinedness config location base base' tail]

/-- A line that changes nothing but the open blocks, its own line apart, which is skipped. -/
def OnlyNests (session : Session) (context : LineContext) (line : List Char) (nesting : Nesting) :
    Prop :=
  ∃ after : Session, after.Alike (session.skip context.config) ∧ after.nesting = nesting ∧
    session.processLine context line = (after, .ok .next)

/-- A line that fails and changes nothing, its own line apart, which is skipped. -/
def OnlyFails (session : Session) (context : LineContext) (line : List Char) (cause : LineError) :
    Prop :=
  ∃ after : Session, after.Alike (session.skip context.config) ∧
    session.processLine context line = (after, .error cause)

variable {session : Session} {context : LineContext} {line tail : List Char}

/-! ## Opening a block -/

section Opening

variable {test : BlockTest}
  (form : LineForm.ofLine context.config.allowBlanks line =
    .directive test.directive.keyword tail)
include form

variable (session) in
/-- An opening line acts on the session that has skipped it. -/
theorem processLine_of_opening : ∃ traced : Session,
    traced.Alike (session.skip context.config) ∧ traced.nesting = session.nesting ∧
      session.processLine context line =
        traced.change (traced.openBlock context (traced.readTest context tail test)) := by
  have conditional : test.directive.isConditional = true := by cases test <;> rfl
  obtain ⟨traced, alike, nesting, outcome⟩ :=
    processLine_of_directive session form (by simp [conditional])
  refine ⟨traced, alike, nesting, outcome.trans ?_⟩
  cases test <;> rfl

/-- Where lines do not count, a block is opened whatever its test. -/
theorem onlyNests_of_opening_of_inactive (inactive : session.isActive = false) :
    session.OnlyNests context line (session.nesting.pushSuppressed context.location) := by
  obtain ⟨traced, alike, nesting, outcome⟩ := processLine_of_opening session form
  have still : traced.isActive = false := by rw [isActive, nesting]; exact inactive
  refine ⟨{ traced with nesting := traced.nesting.pushSuppressed context.location },
    ((Alike.refl traced).withNesting _ _).trans alike, by rw [nesting], ?_⟩
  rw [outcome, openBlock_of_inactive still]
  rfl

/-- Where lines count, a block is opened by its test if that has an answer. -/
theorem onlyNests_of_opening_of_active (active : session.isActive = true) {holds : Bool}
    (answer : (session.skip context.config).readTest context tail test = .ok holds) :
    session.OnlyNests context line (session.nesting.push holds context.location) := by
  obtain ⟨traced, alike, nesting, outcome⟩ := processLine_of_opening session form
  have still : traced.isActive = true := by rw [isActive, nesting]; exact active
  rw [← alike.readTest context.config context.location context.baseDepth] at answer
  refine ⟨{ traced with nesting := traced.nesting.push holds context.location },
    ((Alike.refl traced).withNesting _ _).trans alike, by rw [nesting], ?_⟩
  rw [outcome, openBlock_of_active still, answer]
  rfl

/-- Where lines count, an opening line fails if its test fails. -/
theorem fails_of_opening (active : session.isActive = true) {cause : LineError}
    (failure : (session.skip context.config).readTest context tail test = .error cause) :
    session.OnlyFails context line cause := by
  obtain ⟨traced, alike, nesting, outcome⟩ := processLine_of_opening session form
  have still : traced.isActive = true := by rw [isActive, nesting]; exact active
  rw [← alike.readTest context.config context.location context.baseDepth] at failure
  refine ⟨traced, alike, ?_⟩
  rw [outcome, openBlock_of_active still, failure]
  rfl

end Opening

/-! ## Going on in a block -/

section Innermost

variable {frame : Frame} {outer : List Frame} (frames : session.nesting.frames = frame :: outer)
  (own : context.baseDepth < session.nesting.depth)

/-- A block of the file itself is open. -/
theorem needOpenBlock_of_own (own : context.baseDepth < session.nesting.depth) :
    session.needOpenBlock context = .ok () :=
  if_neg (Nat.not_le.mpr own)

include frames own

/-- A line of a block that takes nothing behind its keyword changes the blocks alone. -/
theorem onlyNests_of_changed {directive : Directive} {nesting : Nesting}
    (conditional : directive.isConditional = true)
    (form : LineForm.ofLine context.config.allowBlanks line = .directive directive.keyword tail)
    (performs : ∀ traced : Session, traced.nesting.frames = frame :: outer →
      context.baseDepth < traced.nesting.depth →
      traced.Alike (session.skip context.config) →
      traced.perform context directive tail = ({ traced with nesting := nesting }, .ok .next)) :
    session.OnlyNests context line nesting := by
  obtain ⟨traced, alike, same, outcome⟩ :=
    processLine_of_directive session form (by simp [conditional])
  refine ⟨{ traced with nesting := nesting }, ((Alike.refl traced).withNesting _ _).trans alike,
    rfl, ?_⟩
  exact outcome.trans (performs traced (same ▸ frames) (same ▸ own) alike)

/-- The last branch of a block. -/
theorem onlyNests_of_otherwise
    (form : LineForm.ofLine context.config.allowBlanks line =
      .directive Directive.otherwise.keyword tail)
    (bare : Directive.BareTail tail) (early : frame.elseSeen = false) :
    session.OnlyNests context line
      ⟨{ frame with state := Nesting.BranchState.afterElse frame.state, elseSeen := true }
        :: outer⟩ := by
  refine onlyNests_of_changed frames own rfl form fun traced framesTraced ownTraced _ => ?_
  simp [perform, otherwise, needOpenBlock_of_own ownTraced, bare.readNothing, ofArgument,
    Nesting.elseBranch, framesTraced, early, ofNesting, Except.mapError, bind, Except.bind, pure,
    Except.pure, change]

/-- The end of a block. -/
theorem onlyNests_of_close
    (form : LineForm.ofLine context.config.allowBlanks line =
      .directive Directive.close.keyword tail)
    (bare : Directive.BareTail tail) : session.OnlyNests context line ⟨outer⟩ := by
  refine onlyNests_of_changed frames own rfl form fun traced framesTraced ownTraced _ => ?_
  simp [perform, close, needOpenBlock_of_own ownTraced, bare.readNothing, ofArgument,
    Nesting.pop, framesTraced, ofNesting, Except.mapError, bind, Except.bind, change, pure,
    Except.pure]

/-! ### Alternatives -/

section Alternative

variable (form : LineForm.ofLine context.config.allowBlanks line =
    .directive Directive.elseIf.keyword tail) (early : frame.elseSeen = false)

omit frames own in
/-- An alternative, by whether the condition is wanted and what it answers. -/
theorem elseIf_eq {session : Session} (frames : session.nesting.frames = frame :: outer)
    (own : context.baseDepth < session.nesting.depth) (early : frame.elseSeen = false) :
    session.elseIf context tail =
      ((if frame.state = .awaitingBranch then
          (session.readCondition context tail).map some else .ok none).map fun holds =>
        { session with
          nesting :=
            ⟨{ frame with state := Nesting.BranchState.afterElif frame.state holds }
              :: outer⟩ }) := by
  have turned (holds : Option Bool) :
      session.nesting.elif holds =
        .ok ⟨{ frame with state := Nesting.BranchState.afterElif frame.state holds } :: outer⟩ := by
    simp [Nesting.elif, frames, early]
  by_cases awaiting : frame.state = .awaitingBranch
  · simp only [elseIf, needOpenBlock_of_own own, Nesting.wantsCondition, frames, early, turned,
      awaiting]
    cases session.readCondition context tail <;> rfl
  · simp [elseIf, needOpenBlock_of_own own, Nesting.wantsCondition, frames, early, turned,
      awaiting, ofNesting, Except.mapError, bind, Except.bind, pure, Except.pure, Except.map]

include form early

/-- Behind a branch that was taken, an alternative is left out whatever its condition. -/
theorem onlyNests_of_alternative_of_taken (taken : frame.state ≠ .awaitingBranch) :
    session.OnlyNests context line ⟨{ frame with state := .branchTaken } :: outer⟩ := by
  refine onlyNests_of_changed frames own rfl form fun traced framesTraced ownTraced _ => ?_
  have state : Nesting.BranchState.afterElif frame.state none = .branchTaken := by
    cases reached : frame.state with
    | active | branchTaken => rfl
    | awaitingBranch => exact absurd reached taken
  rw [perform, elseIf_eq framesTraced ownTraced early, if_neg taken]
  simp only [Except.map, state, change]

/-- In a block where no branch was taken so far, an alternative is taken by its condition. -/
theorem onlyNests_of_alternative_of_awaiting (awaiting : frame.state = .awaitingBranch)
    {holds : Bool} (answer : (session.skip context.config).readCondition context tail = .ok holds) :
    session.OnlyNests context line
      ⟨{ frame with state := if holds then .active else .awaitingBranch } :: outer⟩ := by
  refine onlyNests_of_changed frames own rfl form fun traced framesTraced ownTraced alike => ?_
  rw [← alike.readCondition context.config context.location context.baseDepth] at answer
  have state : Nesting.BranchState.afterElif frame.state (some holds) =
      if holds then .active else .awaitingBranch := by
    rw [awaiting]
    cases holds <;> rfl
  rw [perform, elseIf_eq framesTraced ownTraced early, if_pos awaiting, answer]
  simp only [Except.map, state, change]

/-- In a block where no branch was taken so far, an alternative fails if its condition does. -/
theorem fails_of_alternative (awaiting : frame.state = .awaitingBranch) {cause : LineError}
    (failure : (session.skip context.config).readCondition context tail = .error cause) :
    session.OnlyFails context line cause := by
  obtain ⟨traced, alike, same, outcome⟩ :=
    processLine_of_directive session form (by simp [Directive.isConditional])
  rw [← alike.readCondition context.config context.location context.baseDepth] at failure
  refine ⟨traced, alike, outcome.trans ?_⟩
  rw [perform, elseIf_eq (same ▸ frames) (same ▸ own) early, if_pos awaiting, failure]
  rfl

end Alternative

end Innermost

end Session

end CommentDirectives
