import CommentDirectives.Proofs.Processing.Steps
import CommentDirectives.Proofs.Session.ConditionalLines

/-!
# Lines that do not matter

Where lines do not count, a line outside conditional blocks may be any other such
line, and the line that opens a block may open it with any other test.  Behind a
branch that was taken, an alternative may have any other condition.  In all of
these cases the two lines do the same (`Immaterial.sameOutcome`), but for the place
where a block was opened, which is seen only if the block is never closed.

So blocks are compared by their shapes, which are kept by all operations on blocks
(`Nesting.sameShape_bisimulation`).
-/

namespace CommentDirectives

set_option autoImplicit false

/-! ## Shapes of blocks -/

/-- A block without the place where it was opened. -/
def Frame.shape (frame : Frame) : BranchState × Bool := (frame.state, frame.elseSeen)

namespace Nesting

/-- Blocks that differ at most in the places where they were opened. -/
def SameShape (left right : Nesting) : Prop :=
  left.frames.map Frame.shape = right.frames.map Frame.shape

section SameShape

variable {left right : Nesting}

theorem isActive_eq (nesting : Nesting) :
    nesting.isActive = (nesting.frames.map Frame.shape).all fun shape => shape.1 == .active := by
  rw [isActive, List.all_map]
  rfl

theorem SameShape.isActive (same : SameShape left right) : left.isActive = right.isActive := by
  rw [isActive_eq, isActive_eq, same]

theorem SameShape.depth (same : SameShape left right) : left.depth = right.depth := by
  rw [Nesting.depth, Nesting.depth, ← List.length_map Frame.shape, same, List.length_map]

/-- A block in front of others. -/
theorem SameShape.cons {outer outer' : List Frame} (same : SameShape ⟨outer⟩ ⟨outer'⟩)
    {frame frame' : Frame} (state : frame'.state = frame.state)
    (seen : frame'.elseSeen = frame.elseSeen) :
    SameShape ⟨frame :: outer⟩ ⟨frame' :: outer'⟩ := by
  rw [SameShape, List.map_cons, List.map_cons, Frame.shape, Frame.shape, state, seen]
  exact congrArg (_ :: ·) same

/-- The innermost blocks are of the same shape, and so are the other ones. -/
theorem SameShape.innermost (same : SameShape left right) {frame : Frame} {outer : List Frame}
    (frames : left.frames = frame :: outer) :
    ∃ frame' outer', right.frames = frame' :: outer' ∧ frame'.state = frame.state ∧
      frame'.elseSeen = frame.elseSeen ∧ SameShape ⟨outer⟩ ⟨outer'⟩ := by
  rw [SameShape, frames, List.map_cons] at same
  obtain ⟨frame', outer', frames', shape, shapes⟩ := List.map_eq_cons_iff.mp same.symm
  exact ⟨frame', outer', frames', congrArg Prod.fst shape, congrArg Prod.snd shape, shapes.symm⟩

/-- **The places where blocks were opened are not seen.** -/
theorem sameShape_bisimulation (base : Nat) : Bisimulation SameShape base base where
  isActive same := same.isActive
  depth_le same := by rw [same.depth]
  push same holds opened _ := SameShape.cons same rfl rfl
  pushSuppressed same opened := SameShape.cons same rfl rfl
  wantsCondition {left right} same opened := by
    obtain ⟨frame, outer, frames⟩ := List.exists_cons_of_length_pos (Nat.zero_lt_of_lt opened)
    obtain ⟨frame', outer', frames', state, seen, _⟩ := same.innermost frames
    simp only [wantsCondition, frames, frames', state, seen]
  elif {left right} same opened holds := by
    obtain ⟨frame, outer, frames⟩ := List.exists_cons_of_length_pos (Nat.zero_lt_of_lt opened)
    obtain ⟨frame', outer', frames', state, seen, shapes⟩ := same.innermost frames
    simp only [elif, frames, frames', seen]
    split
    · exact .error _
    · exact .ok (shapes.cons (by rw [state]) rfl)
  elseBranch {left right} same opened := by
    obtain ⟨frame, outer, frames⟩ := List.exists_cons_of_length_pos (Nat.zero_lt_of_lt opened)
    obtain ⟨frame', outer', frames', state, seen, shapes⟩ := same.innermost frames
    simp only [elseBranch, frames, frames', seen]
    split
    · exact .error _
    · exact .ok (shapes.cons (by rw [state]) rfl)
  pop {left right} same opened := by
    obtain ⟨frame, outer, frames⟩ := List.exists_cons_of_length_pos (Nat.zero_lt_of_lt opened)
    obtain ⟨frame', outer', frames', _, _, shapes⟩ := same.innermost frames
    simp only [pop, frames, frames']
    exact .ok shapes

end SameShape

end Nesting

/-! ## Pairs of lines -/

/-- Two lines that do the same in front of the open blocks of a file, however they differ. -/
inductive Immaterial (allowBlanks : Bool) (nesting : Nesting) (line line' : List Char) : Prop where
  /-- Lines do not count, and neither of these belongs to conditional blocks. -/
  | outside (inactive : nesting.isActive = false)
      (unconditional : (LineForm.ofLine allowBlanks line).isConditional = false)
      (unconditional' : (LineForm.ofLine allowBlanks line').isConditional = false)
  /-- Lines do not count, and both of these open a block. -/
  | opening (inactive : nesting.isActive = false) (test test' : BlockTest) (tail tail' : List Char)
      (form : LineForm.ofLine allowBlanks line = .directive test.directive.keyword tail)
      (form' : LineForm.ofLine allowBlanks line' = .directive test'.directive.keyword tail')
  /-- Both lines are alternatives, and a branch of their block was taken or is left out with it. -/
  | alternative (frame : Frame) (outer : List Frame) (frames : nesting.frames = frame :: outer)
      (taken : frame.state ≠ .awaitingBranch) (early : frame.elseSeen = false)
      (tail tail' : List Char)
      (form : LineForm.ofLine allowBlanks line = .directive Directive.elseIf.keyword tail)
      (form' : LineForm.ofLine allowBlanks line' = .directive Directive.elseIf.keyword tail')

namespace Session

variable {session session' : Session} {config : Config} {line line' : List Char}

/-- Two lines that change nothing but the open blocks, to blocks of the same shape. -/
theorem OnlyNests.sameShape {location location' : Location} {nesting nesting' : Nesting}
    (nests : session.OnlyNests ⟨config, location, 0⟩ line nesting)
    (nests' : session'.OnlyNests ⟨config, location', 0⟩ line' nesting')
    (alike : session.Alike session') (same : Nesting.SameShape nesting nesting') :
    ∃ after after' : Session, after.AlikeWith Nesting.SameShape after' ∧
      session.processLine ⟨config, location, 0⟩ line = (after, .ok .next) ∧
      session'.processLine ⟨config, location', 0⟩ line' = (after', .ok .next) := by
  obtain ⟨after, skipped, blocks, outcome⟩ := nests
  obtain ⟨after', skipped', blocks', outcome'⟩ := nests'
  have between := (alike.regardless.skip config).toAlike
  refine ⟨after, after', ?_, outcome, outcome'⟩
  exact { toAlike := (skipped.trans between).trans skipped'.symm
          nesting := by rw [blocks, blocks']; exact same }

/-- **Lines that do not matter do the same.** -/
theorem Immaterial.sameOutcome
    (immaterial : Immaterial config.allowBlanks session.nesting line line')
    (alike : session.AlikeWith Nesting.SameShape session') (location location' : Location) :
    ∃ after after' : Session, after.AlikeWith Nesting.SameShape after' ∧
      session.processLine ⟨config, location, 0⟩ line = (after, .ok .next) ∧
      session'.processLine ⟨config, location', 0⟩ line' = (after', .ok .next) := by
  have shape := alike.nesting
  cases immaterial with
  | outside inactive unconditional unconditional' =>
      have inactive' : session'.isActive = false := shape.isActive.symm.trans inactive
      exact ⟨_, _, alike.skip config, processLine_of_inactive inactive unconditional,
        processLine_of_inactive inactive' unconditional'⟩
  | opening inactive test test' tail tail' form form' =>
      have inactive' : session'.isActive = false := shape.isActive.symm.trans inactive
      exact OnlyNests.sameShape (onlyNests_of_opening_of_inactive form inactive)
        (onlyNests_of_opening_of_inactive form' inactive') alike.toAlike
        (Nesting.SameShape.cons shape rfl rfl)
  | alternative frame outer frames taken early tail tail' form form' =>
      obtain ⟨frame', outer', frames', state, seen, shapes⟩ := shape.innermost frames
      have own : 0 < session.nesting.depth := by
        rw [Nesting.depth, frames]
        exact Nat.succ_pos _
      have own' : 0 < session'.nesting.depth := shape.depth ▸ own
      have taken' : frame'.state ≠ .awaitingBranch := by
        rw [state]
        exact taken
      exact OnlyNests.sameShape (onlyNests_of_alternative_of_taken frames own form early taken)
        (onlyNests_of_alternative_of_taken frames' own' form' (seen.trans early) taken')
        alike.toAlike (shapes.cons rfl seen)

end Session

end CommentDirectives
