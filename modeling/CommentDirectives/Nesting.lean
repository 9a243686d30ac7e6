import CommentDirectives.Location

/-!
# Conditional blocks that are open

Each open block is a frame that knows whether its present branch is taken,
whether an earlier one was, or whether one is still awaited.  Text is active when
the present branch of every open block is taken.  A block that is opened inside
text that is left out starts with its branch counted as taken, so that none of
its branches ever becomes active.
-/

namespace CommentDirectives

set_option autoImplicit false

/-- How far a block has come. -/
inductive BranchState where
  /-- The present branch is taken. -/
  | active
  /-- The present branch is left out, and so are all later ones. -/
  | branchTaken
  /-- The present branch is left out, and no branch was taken so far. -/
  | awaitingBranch
  deriving DecidableEq, Repr

/-- An open block. -/
structure Frame where
  state : BranchState
  elseSeen : Bool
  opened : Location
  deriving DecidableEq, Repr

/-- A directive that the open blocks do not admit. -/
inductive NestingError where
  | noOpenFrame
  | elifAfterElse
  | repeatedElse
  deriving DecidableEq, Repr

/-- The wording of a nesting error. -/
def NestingError.message : NestingError → String
  | .noOpenFrame => "no matching #if"
  | .elifAfterElse => "#elif after #else"
  | .repeatedElse => "#else already seen for this #if"

/-- The open blocks, innermost first. -/
structure Nesting where
  frames : List Frame
  deriving DecidableEq, Repr

namespace Nesting

/-- No open block. -/
def empty : Nesting := ⟨[]⟩

/-- Whether the present branch of every open block is taken. -/
def isActive (nesting : Nesting) : Bool :=
  nesting.frames.all fun frame => frame.state == .active

/-- The number of open blocks. -/
def depth (nesting : Nesting) : Nat := nesting.frames.length

/-- The innermost open block. -/
def innermost? (nesting : Nesting) : Option Frame := nesting.frames.head?

/-- Opens a block whose first branch is taken if a condition holds. -/
def push (nesting : Nesting) (condition : Bool) (opened : Location) : Nesting :=
  ⟨⟨if condition then .active else .awaitingBranch, false, opened⟩ :: nesting.frames⟩

/-- Opens a block inside text that is left out. -/
def pushSuppressed (nesting : Nesting) (opened : Location) : Nesting :=
  ⟨⟨.branchTaken, false, opened⟩ :: nesting.frames⟩

/-- Whether an alternative branch of the innermost block depends on its condition. -/
def wantsCondition (nesting : Nesting) : Except NestingError Bool :=
  match nesting.frames with
  | [] => .error .noOpenFrame
  | frame :: _ =>
    if frame.elseSeen then .error .elifAfterElse else .ok (frame.state == .awaitingBranch)

/-- How an alternative branch with a condition, if one was evaluated, changes a block. -/
def BranchState.afterElif : BranchState → Option Bool → BranchState
  | .active, _ => .branchTaken
  | .awaitingBranch, some true => .active
  | state, _ => state

/-- Starts an alternative branch of the innermost block. -/
def elif (nesting : Nesting) (condition : Option Bool) : Except NestingError Nesting :=
  match nesting.frames with
  | [] => .error .noOpenFrame
  | frame :: outer =>
    if frame.elseSeen then .error .elifAfterElse
    else .ok ⟨{ frame with state := BranchState.afterElif frame.state condition } :: outer⟩

/-- How the last branch changes a block. -/
def BranchState.afterElse : BranchState → BranchState
  | .awaitingBranch => .active
  | _ => .branchTaken

/-- Starts the last branch of the innermost block. -/
def elseBranch (nesting : Nesting) : Except NestingError Nesting :=
  match nesting.frames with
  | [] => .error .noOpenFrame
  | frame :: outer =>
    if frame.elseSeen then .error .repeatedElse
    else
      .ok ⟨{ frame with state := BranchState.afterElse frame.state, elseSeen := true } :: outer⟩

/-- Closes the innermost block, which is the first part of the answer. -/
def pop (nesting : Nesting) : Except NestingError (Frame × Nesting) :=
  match nesting.frames with
  | [] => .error .noOpenFrame
  | frame :: outer => .ok (frame, ⟨outer⟩)

/-- Drops the innermost blocks until at most so many are open. -/
def truncate (nesting : Nesting) (depth : Nat) : Nesting :=
  ⟨nesting.frames.drop (nesting.frames.length - depth)⟩

/-! ## What the branches of a block become -/

variable {nesting after : Nesting}

theorem elif_eq_ok {condition : Option Bool} :
    nesting.elif condition = .ok after ↔
      ∃ frame outer, nesting = ⟨frame :: outer⟩ ∧ frame.elseSeen = false ∧
        after = ⟨{ frame with state := BranchState.afterElif frame.state condition } :: outer⟩ := by
  constructor
  · intro turned
    obtain ⟨_ | ⟨⟨state, seen, opened⟩, outer⟩⟩ := nesting
    · cases turned
    · cases seen with
      | true => cases turned
      | false =>
          cases turned
          exact ⟨_, outer, rfl, rfl, rfl⟩
  · rintro ⟨frame, outer, rfl, unseen, rfl⟩
    simp [elif, unseen]

theorem elseBranch_eq_ok :
    nesting.elseBranch = .ok after ↔
      ∃ frame outer, nesting = ⟨frame :: outer⟩ ∧ frame.elseSeen = false ∧
        after = ⟨{ frame with state := BranchState.afterElse frame.state, elseSeen := true } ::
          outer⟩ := by
  constructor
  · intro turned
    obtain ⟨_ | ⟨⟨state, seen, opened⟩, outer⟩⟩ := nesting
    · cases turned
    · cases seen with
      | true => cases turned
      | false =>
          cases turned
          exact ⟨_, outer, rfl, rfl, rfl⟩
  · rintro ⟨frame, outer, rfl, unseen, rfl⟩
    simp [elseBranch, unseen]

theorem pop_eq_ok {frame : Frame} :
    nesting.pop = .ok (frame, after) ↔
      ∃ outer, nesting = ⟨frame :: outer⟩ ∧ after = ⟨outer⟩ := by
  constructor
  · intro closed
    obtain ⟨_ | ⟨innermost, outer⟩⟩ := nesting
    · cases closed
    · cases closed
      exact ⟨outer, rfl, rfl⟩
  · rintro ⟨outer, rfl, rfl⟩
    rfl

/-! ## Blocks above other blocks -/

variable (own below : List Frame)

theorem isActive_append : isActive ⟨own ++ below⟩ = (isActive ⟨own⟩ && isActive ⟨below⟩) := by
  simp only [isActive, List.all_append]

/-- Blocks above so many others are the first that are dropped. -/
theorem truncate_append_of_le {depth : Nat} (within : depth ≤ below.length) :
    truncate ⟨own ++ below⟩ depth = truncate ⟨below⟩ depth := by
  have dropped : own.length + below.length - depth = own.length + (below.length - depth) := by
    omega
  rw [truncate, truncate, List.length_append, dropped, List.drop_length_add_append]

/-- What is left when all blocks above some others are dropped. -/
theorem truncate_append : truncate ⟨own ++ below⟩ below.length = ⟨below⟩ := by
  rw [truncate_append_of_le own below (Nat.le_refl _), truncate, Nat.sub_self, List.drop_zero]

end Nesting

end CommentDirectives
