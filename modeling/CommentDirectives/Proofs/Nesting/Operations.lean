import CommentDirectives.Nesting

/-!
# Operations on the open blocks

The operations on the open blocks as reads and writes on one state (`Nesting.Operation.run`).  A write
is done at once, and nothing takes it back if the operation is refused later on.  Carried out in this
way, an operation gives what the function of its name answers, and where this function fails, it leaves
the open blocks as they were (`Nesting.Operation.run_eq`).

What an operation can do to the open blocks is said once, guards included (`Nesting.Does`).  A block is
followed by its height, the number of blocks that were open when it was opened: blocks are opened and
closed above all others, so while a block stays open, it is the block at its height, and an operation
leaves it as it is or turns the innermost one (`Nesting.turns_of_stays`).
-/

namespace CommentDirectives.Nesting

set_option autoImplicit false

/-! ## Operations in place -/

/-- Reads and writes on the open blocks, which may be refused and leave what they have written. -/
abbrev InPlace (α : Type) := EStateM NestingError Nesting α

namespace InPlace

/-- Reads the innermost block; refused where none is open. -/
def innermost : InPlace Frame := fun nesting =>
  match nesting.frames with
  | [] => .error .noOpenFrame nesting
  | frame :: _ => .ok frame nesting

/-- Writes the innermost block. -/
def modifyInnermost (change : Frame → Frame) : InPlace Unit :=
  modify fun nesting => ⟨nesting.frames.modifyHead change⟩

/-- Starts an alternative branch of the innermost block. -/
def elif (condition : Option Bool) : InPlace Unit := do
  let frame ← innermost
  if frame.elseSeen then throw .elifAfterElse
  modifyInnermost fun frame =>
    { frame with state := BranchState.afterElif frame.state condition }

/-- Starts the last branch of the innermost block: notes it first, then changes the state. -/
def elseBranch : InPlace Unit := do
  let frame ← innermost
  if frame.elseSeen then throw .repeatedElse
  modifyInnermost fun frame => { frame with elseSeen := true }
  modifyInnermost fun frame => { frame with state := BranchState.afterElse frame.state }

/-- Closes the innermost block. -/
def pop : InPlace Frame := do
  let frame ← innermost
  modify fun nesting => ⟨nesting.frames.tail⟩
  return frame

/-- Writes what a function answers, if it does not fail. -/
def ofFunction (change : Nesting → Except NestingError Nesting) : InPlace Unit := fun nesting =>
  match change nesting with
  | .ok after => .ok () after
  | .error cause => .error cause nesting

end InPlace

/-- An operation on the open blocks. -/
inductive Operation where
  | push (condition : Bool) (opened : Location)
  | pushSuppressed (opened : Location)
  | elif (condition : Option Bool)
  | elseBranch
  | pop
  | truncate (depth : Nat)
  deriving DecidableEq

namespace Operation

/-- Carries out an operation in place. -/
def run : Operation → InPlace Unit
  | .push condition opened => modify fun nesting => nesting.push condition opened
  | .pushSuppressed opened => modify fun nesting => nesting.pushSuppressed opened
  | .elif condition => InPlace.elif condition
  | .elseBranch => InPlace.elseBranch
  | .pop => do
    let _ ← InPlace.pop
  | .truncate depth => modify fun nesting => nesting.truncate depth

/-- What the function of an operation answers. -/
def answer (nesting : Nesting) : Operation → Except NestingError Nesting
  | .push condition opened => .ok (nesting.push condition opened)
  | .pushSuppressed opened => .ok (nesting.pushSuppressed opened)
  | .elif condition => nesting.elif condition
  | .elseBranch => nesting.elseBranch
  | .pop => nesting.pop.map Prod.snd
  | .truncate depth => .ok (nesting.truncate depth)

/-- Whether an operation opens a block. -/
inductive Opens : Operation → Prop where
  | push (condition : Bool) (opened : Location) : Opens (.push condition opened)
  | pushSuppressed (opened : Location) : Opens (.pushSuppressed opened)

/-- **An operation in place gives what its function answers**, and leaves the open blocks as they were
where the function fails. -/
theorem run_eq (operation : Operation) :
    operation.run = InPlace.ofFunction (answer · operation) := by
  funext ⟨frames⟩
  cases operation with
  | push | pushSuppressed | truncate => rfl
  | elif | elseBranch =>
      cases frames with
      | nil => rfl
      | cons frame outer =>
          obtain ⟨state, seen, opened⟩ := frame
          cases seen <;> rfl
  | pop => cases frames <;> rfl

/-- The open blocks behind an operation, refused or not. -/
def after (operation : Operation) (nesting : Nesting) : Nesting :=
  match operation.run nesting with
  | .ok _ nesting => nesting
  | .error _ nesting => nesting

end Operation

variable {nesting : Nesting} {operation : Operation} {height : Nat} {frame : Frame}

/-! ## What operations do -/

/-- What an operation makes of the open blocks. -/
inductive Does (nesting : Nesting) : Operation → Nesting → Prop where
  /-- A refused operation changes nothing. -/
  | refused {operation : Operation} {cause : NestingError}
      (refused : operation.answer nesting = .error cause) : Does nesting operation nesting
  /-- A block is opened above all others. -/
  | opening {operation : Operation} (opens : operation.Opens) (frame : Frame) :
      Does nesting operation ⟨frame :: nesting.frames⟩
  | elif {frame : Frame} {outer : List Frame} (innermost : nesting = ⟨frame :: outer⟩)
      (unseen : frame.elseSeen = false) (condition : Option Bool) :
      Does nesting (.elif condition)
        ⟨{ frame with state := BranchState.afterElif frame.state condition } :: outer⟩
  | elseBranch {frame : Frame} {outer : List Frame} (innermost : nesting = ⟨frame :: outer⟩)
      (unseen : frame.elseSeen = false) :
      Does nesting .elseBranch
        ⟨{ frame with state := BranchState.afterElse frame.state, elseSeen := true } :: outer⟩
  | pop {frame : Frame} {outer : List Frame} (innermost : nesting = ⟨frame :: outer⟩) :
      Does nesting .pop ⟨outer⟩
  | truncate (depth : Nat) : Does nesting (.truncate depth) (nesting.truncate depth)

/-- **An operation does one of these things.** -/
theorem does_after (operation : Operation) (nesting : Nesting) :
    Does nesting operation (operation.after nesting) := by
  unfold Operation.after
  rw [operation.run_eq, InPlace.ofFunction]
  cases answered : operation.answer nesting with
  | error cause => exact .refused answered
  | ok changed =>
      cases operation with
      | push condition opened =>
          cases answered
          exact .opening (.push condition opened) _
      | pushSuppressed opened =>
          cases answered
          exact .opening (.pushSuppressed opened) _
      | elif condition =>
          obtain ⟨frame, outer, innermost, unseen, rfl⟩ := elif_eq_ok.mp answered
          exact .elif innermost unseen condition
      | elseBranch =>
          obtain ⟨frame, outer, innermost, unseen, rfl⟩ := elseBranch_eq_ok.mp answered
          exact .elseBranch innermost unseen
      | pop =>
          obtain ⟨_ | ⟨frame, outer⟩⟩ := nesting
          · cases answered
          · cases answered
            exact .pop rfl
      | truncate depth =>
          cases answered
          exact .truncate depth

/-- A refused operation leaves the open blocks as they were. -/
theorem Operation.unchanged_of_refused {cause : NestingError} {left : Nesting}
    (refused : operation.run nesting = .error cause left) : left = nesting := by
  rw [operation.run_eq, InPlace.ofFunction] at refused
  cases answered : operation.answer nesting with
  | ok changed =>
      rw [answered] at refused
      cases refused
  | error cause =>
      rw [answered] at refused
      cases refused
      rfl

/-- An operation that opens a block opens one that has not seen its last branch, and one whose
branches all count as taken where text is left out. -/
theorem Operation.Opens.after_eq (opens : operation.Opens) (nesting : Nesting) :
    ∃ frame, operation.after nesting = ⟨frame :: nesting.frames⟩ ∧ frame.elseSeen = false ∧
      ∀ opened, operation = .pushSuppressed opened → frame.state = .branchTaken := by
  cases opens with
  | push condition opened => exact ⟨_, rfl, rfl, fun _ => Operation.noConfusion⟩
  | pushSuppressed opened => exact ⟨_, rfl, rfl, fun _ _ => rfl⟩

/-! ## Blocks by their heights -/

/-- The open block above so many others. -/
def blockAt? (nesting : Nesting) (height : Nat) : Option Frame := nesting.frames.reverse[height]?

theorem isSome_blockAt? : (nesting.blockAt? height).isSome ↔ height < nesting.depth := by
  simp [blockAt?, depth]

theorem lt_depth_of_blockAt? (found : nesting.blockAt? height = some frame) :
    height < nesting.depth :=
  isSome_blockAt?.mp (found ▸ rfl)

/-- The innermost block stands above all others. -/
theorem blockAt?_innermost (frame : Frame) (outer : List Frame) :
    blockAt? ⟨frame :: outer⟩ outer.length = some frame := by
  simp [blockAt?]

/-- Blocks that are kept keep their heights. -/
theorem blockAt?_of_suffix {kept : List Frame} (others : kept <:+ nesting.frames)
    (stays : height < kept.length) : blockAt? ⟨kept⟩ height = nesting.blockAt? height := by
  obtain ⟨front, same⟩ := List.reverse_prefix.mpr others
  rw [blockAt?, blockAt?, ← same, List.getElem?_append_left]
  rwa [List.length_reverse]

/-- A block below another keeps its height. -/
theorem blockAt?_cons_of_lt (frame : Frame) {outer : List Frame} (below : height < outer.length) :
    blockAt? ⟨frame :: outer⟩ height = blockAt? ⟨outer⟩ height :=
  (blockAt?_of_suffix (List.suffix_cons frame outer) below).symm

/-- The block at a height that is the innermost one, or one below it. -/
theorem found_cons {outer : List Frame} {top : Frame}
    (found : blockAt? ⟨top :: outer⟩ height = some frame) :
    (height = outer.length ∧ frame = top) ∨
      (height < outer.length ∧ blockAt? ⟨outer⟩ height = some frame) := by
  have within : height < outer.length + 1 := lt_depth_of_blockAt? found
  obtain below | rfl := Nat.lt_or_eq_of_le (Nat.le_of_lt_succ within)
  · exact .inr ⟨below, blockAt?_cons_of_lt top below ▸ found⟩
  · rw [blockAt?_innermost] at found
    exact .inl ⟨rfl, (Option.some.inj found).symm⟩

/-- The block with one less below it than are open is the innermost one. -/
theorem eq_cons_of_top (found : nesting.blockAt? height = some frame)
    (top : height + 1 = nesting.depth) :
    ∃ outer, nesting = ⟨frame :: outer⟩ ∧ height = outer.length := by
  obtain ⟨_ | ⟨innermost, outer⟩⟩ := nesting
  · cases top
  · obtain ⟨rfl, rfl⟩ | ⟨deeper, -⟩ := found_cons found
    · exact ⟨outer, rfl, rfl⟩
    · exact absurd (Nat.succ.inj top) (Nat.ne_of_lt deeper)

/-! ## What a block goes through -/

/-- What becomes of a block that stays open when an operation is carried out, if one is: it is kept,
or turned if it is the innermost one. -/
inductive Turns (carriedOut : Option Operation) (innermost : Prop) : Frame → Frame → Prop where
  | keep (frame : Frame) : Turns carriedOut innermost frame frame
  | elif {frame : Frame} {condition : Option Bool} (is : carriedOut = some (.elif condition))
      (top : innermost) (unseen : frame.elseSeen = false) :
      Turns carriedOut innermost frame
        { frame with state := BranchState.afterElif frame.state condition }
  | elseBranch {frame : Frame} (is : carriedOut = some .elseBranch) (top : innermost)
      (unseen : frame.elseSeen = false) :
      Turns carriedOut innermost frame
        { frame with state := BranchState.afterElse frame.state, elseSeen := true }

/-- **A block that stays open is kept, or turned as the innermost one.** -/
theorem turns_of_stays (found : nesting.blockAt? height = some frame)
    (stays : height < (operation.after nesting).depth) :
    ∃ later, (operation.after nesting).blockAt? height = some later ∧
      Turns (some operation) (height + 1 = nesting.depth) frame later := by
  have below : height < nesting.depth := lt_depth_of_blockAt? found
  have does := does_after operation nesting
  generalize operation.after nesting = changed at does stays
  cases does with
  | refused => exact ⟨frame, found, .keep frame⟩
  | opening opens above => exact ⟨frame, (blockAt?_cons_of_lt above below).trans found, .keep frame⟩
  | elif innermost unseen condition =>
      subst innermost
      obtain ⟨rfl, rfl⟩ | ⟨deeper, found⟩ := found_cons found
      · exact ⟨_, blockAt?_innermost _ _, .elif rfl rfl unseen⟩
      · exact ⟨frame, (blockAt?_cons_of_lt _ deeper).trans found, .keep frame⟩
  | elseBranch innermost unseen =>
      subst innermost
      obtain ⟨rfl, rfl⟩ | ⟨deeper, found⟩ := found_cons found
      · exact ⟨_, blockAt?_innermost _ _, .elseBranch rfl rfl unseen⟩
      · exact ⟨frame, (blockAt?_cons_of_lt _ deeper).trans found, .keep frame⟩
  | @pop top outer innermost =>
      subst innermost
      have others : outer <:+ (Nesting.mk (top :: outer)).frames := List.suffix_cons top outer
      exact ⟨frame, (blockAt?_of_suffix others stays).trans found, .keep frame⟩
  | truncate depth =>
      have others : (nesting.truncate depth).frames <:+ nesting.frames := List.drop_suffix _ _
      exact ⟨frame, (blockAt?_of_suffix others stays).trans found, .keep frame⟩

/-- **A block below another is not changed as long as it stays open.** -/
theorem blockAt?_after_of_below (below : height + 1 < nesting.depth)
    (stays : height < (operation.after nesting).depth) :
    (operation.after nesting).blockAt? height = nesting.blockAt? height := by
  obtain ⟨frame, found⟩ :=
    Option.isSome_iff_exists.mp (isSome_blockAt?.mpr (Nat.lt_of_succ_lt below))
  obtain ⟨later, foundLater, turns⟩ := turns_of_stays found stays
  cases turns with
  | keep => rw [found, foundLater]
  | elif is top => exact absurd top (Nat.ne_of_lt below)
  | elseBranch is top => exact absurd top (Nat.ne_of_lt below)

/-- The innermost block has seen its last branch once such a branch was asked for: either this is its
last branch, or it is refused because there was one. -/
theorem seen_after_elseBranch (found : nesting.blockAt? height = some frame)
    (top : height + 1 = nesting.depth) :
    ∃ later, (Operation.elseBranch.after nesting).blockAt? height = some later ∧
      later.elseSeen = true := by
  obtain ⟨outer, rfl, rfl⟩ := eq_cons_of_top found top
  obtain ⟨state, seen, opened⟩ := frame
  cases seen with
  | false => exact ⟨_, blockAt?_innermost _ outer, rfl⟩
  | true => exact ⟨_, blockAt?_innermost _ outer, rfl⟩

/-- **The innermost block admits no other branch once it has seen its last one.** -/
theorem run_refused_of_seen (found : nesting.blockAt? height = some frame)
    (top : height + 1 = nesting.depth) (seen : frame.elseSeen = true) :
    (∀ condition, (Operation.elif condition).run nesting = .error .elifAfterElse nesting) ∧
      Operation.elseBranch.run nesting = .error .repeatedElse nesting := by
  obtain ⟨outer, rfl, rfl⟩ := eq_cons_of_top found top
  obtain ⟨state, _, opened⟩ := frame
  cases seen
  exact ⟨fun _ => rfl, rfl⟩

end CommentDirectives.Nesting
