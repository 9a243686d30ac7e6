import Mathlib.Data.Nat.Basic
import Mathlib.Tactic.IntervalCases
import CommentDirectives.Proofs.Nesting.Operations

/-!
# Blocks never come back

A block is followed through a history of operations, from the one that opens it for as long as it stays
open, whatever is opened, turned, refused or closed above it.  It goes only forward: it waits for a
branch, then has one, then has had one, and it may skip the first or the first two of these
(`Frame.Develops`).  So its branches are taken during one stretch at most, and a block that is opened
inside text that is left out never has one.  Once the last branch was asked for, the block does not
wait any more and admits no other branch (`Nesting.History.block_never_comes_back`).

What one operation does to a block is known (`Nesting.turns_of_stays`).  Here the operations are
counted, and what each of them keeps is carried from one time to all later ones.  Only the times between
opening and closing count (`Nesting.History.Lifetime`), as other blocks stand at the same height before
and behind.
-/

namespace CommentDirectives

set_option autoImplicit false

/-! ## How far a block has come -/

/-- The order in which a block goes through its states. -/
def BranchState.rank : BranchState → Nat
  | .awaitingBranch => 0
  | .active => 1
  | .branchTaken => 2

theorem BranchState.rank_injective : Function.Injective BranchState.rank := by
  intro one other same
  cases one <;> cases other <;> first | rfl | cases same

theorem BranchState.rank_le_branchTaken (state : BranchState) :
    state.rank ≤ BranchState.branchTaken.rank := by
  cases state <;> decide

/-- What holds between a block and what becomes of it. -/
structure Frame.Develops (earlier later : Frame) : Prop where
  forward : earlier.state.rank ≤ later.state.rank
  seen : earlier.elseSeen = true → later.elseSeen = true

namespace Frame

theorem Develops.refl (frame : Frame) : frame.Develops frame := ⟨Nat.le_refl _, id⟩

theorem Develops.trans {one other third : Frame} (first : one.Develops other)
    (second : other.Develops third) : one.Develops third :=
  ⟨Nat.le_trans first.forward second.forward, second.seen ∘ first.seen⟩

/-- A block that has seen its last branch does not wait for one. -/
def Settled (frame : Frame) : Prop := frame.elseSeen = true → frame.state ≠ .awaitingBranch

end Frame

namespace Nesting

theorem BranchState.rank_le_afterElif (state : BranchState) (condition : Option Bool) :
    state.rank ≤ (BranchState.afterElif state condition).rank := by
  cases state with
  | awaitingBranch => exact Nat.zero_le _
  | active => exact Nat.le_succ 1
  | branchTaken => exact Nat.le_refl 2

theorem BranchState.afterElse_ne_awaitingBranch (state : BranchState) :
    BranchState.afterElse state ≠ .awaitingBranch := by
  cases state <;> decide

theorem BranchState.rank_le_afterElse (state : BranchState) :
    state.rank ≤ (BranchState.afterElse state).rank := by
  cases state <;> decide

namespace Turns

variable {carriedOut : Option Operation} {innermost : Prop} {earlier later : Frame}

theorem develops (turns : Turns carriedOut innermost earlier later) : earlier.Develops later := by
  cases turns with
  | keep => exact .refl _
  | elif => exact ⟨BranchState.rank_le_afterElif _ _, id⟩
  | elseBranch => exact ⟨BranchState.rank_le_afterElse _, fun _ => rfl⟩

theorem settled (turns : Turns carriedOut innermost earlier later) (settled : earlier.Settled) :
    later.Settled := by
  cases turns with
  | keep => exact settled
  | elif _ _ unseen => exact fun seen => Bool.noConfusion (unseen.symm.trans seen)
  | elseBranch => exact fun _ => BranchState.afterElse_ne_awaitingBranch _

/-- A block comes to see its last branch only as the innermost one and by asking for this branch. -/
theorem asked_of_seen (turns : Turns carriedOut innermost earlier later)
    (unseen : earlier.elseSeen = false) (seen : later.elseSeen = true) :
    carriedOut = some .elseBranch ∧ innermost := by
  cases turns with
  | keep | elif => exact Bool.noConfusion (unseen.symm.trans seen)
  | elseBranch is top => exact ⟨is, top⟩

end Turns

/-! ## Histories -/

/-- Operations that are carried out one after another, refused or not. -/
structure History where
  start : Nesting
  operations : List Operation

namespace History

/-- The open blocks after so many operations. -/
def stage (history : History) (time : Nat) : Nesting :=
  (history.operations.take time).foldl (fun nesting operation => operation.after nesting) history.start

/-- The block at a height after so many operations. -/
def block? (history : History) (height time : Nat) : Option Frame :=
  (history.stage time).blockAt? height

/-- How far the block at a height has come after so many operations. -/
def state? (history : History) (height time : Nat) : Option BranchState :=
  (history.block? height time).map Frame.state

/-- Whether the block at a height has seen its last branch after so many operations. -/
def SawElse (history : History) (height time : Nat) : Prop :=
  (history.block? height time).map Frame.elseSeen = some true

/-- The life of a block, at least a part of it: the operation at the opening time opens the block above
so many others, and behind all further ones up to a last time it is still open. -/
structure Lifetime (history : History) (opening height last : Nat) : Prop where
  opens : ∃ operation, history.operations[opening]? = some operation ∧ operation.Opens
  top : (history.stage opening).depth = height
  stays : ∀ time, opening < time → time ≤ last → height < (history.stage time).depth

variable {history : History} {opening height last time early middle late : Nat}

theorem stage_succ (history : History) (time : Nat) :
    history.stage (time + 1) =
      (history.operations[time]?).elim (history.stage time) (·.after (history.stage time)) := by
  rw [stage, stage, List.take_add_one, List.foldl_append]
  cases history.operations[time]? <;> rfl

/-- **What one operation of a history makes of a block that stays open.** -/
theorem turns_of_stays {frame : Frame} (found : history.block? height time = some frame)
    (stays : height < (history.stage (time + 1)).depth) :
    ∃ later, history.block? height (time + 1) = some later ∧
      Turns history.operations[time]? (height + 1 = (history.stage time).depth) frame later := by
  rw [stage_succ] at stays
  rw [block?, stage_succ]
  cases carriedOut : history.operations[time]? with
  | none => exact ⟨frame, found, .keep frame⟩
  | some operation =>
      rw [carriedOut] at stays
      exact Nesting.turns_of_stays found stays

namespace Lifetime

variable (life : history.Lifetime opening height last)

include life

/-- The block behind the operation that opens it. -/
theorem begins :
    ∃ frame, history.block? height (opening + 1) = some frame ∧ frame.elseSeen = false ∧
      ∀ opened, history.operations[opening]? = some (.pushSuppressed opened) →
        frame.state = .branchTaken := by
  obtain ⟨operation, carriedOut, opens⟩ := life.opens
  obtain ⟨frame, opened, unseen, leftOut⟩ := opens.after_eq (history.stage opening)
  refine ⟨frame, ?_, unseen, fun place is => ?_⟩
  · rw [block?, stage_succ, carriedOut, ← life.top]
    exact (congrArg (blockAt? · _) opened).trans (blockAt?_innermost frame _)
  · exact leftOut place (Option.some.inj (carriedOut.symm.trans is))

/-- **The block only goes forward.** -/
theorem develops {earlier : Frame} (born : opening < early) (ordered : early ≤ late)
    (within : late ≤ last) (found : history.block? height early = some earlier) :
    ∃ later, history.block? height late = some later ∧ earlier.Develops later ∧
      (earlier.Settled → later.Settled) := by
  induction late, ordered using Nat.le_induction with
  | base => exact ⟨earlier, found, .refl earlier, id⟩
  | succ time ordered ih =>
      obtain ⟨middle, foundMiddle, developed, settled⟩ := ih (Nat.le_of_succ_le within)
      have stays := life.stays (time + 1) (Nat.lt_succ_of_lt (Nat.lt_of_lt_of_le born ordered)) within
      obtain ⟨later, foundLater, turns⟩ := turns_of_stays foundMiddle stays
      exact ⟨later, foundLater, developed.trans turns.develops, turns.settled ∘ settled⟩

/-- The block is open as long as it lives, and does not wait after its last branch. -/
theorem settled_block (born : opening < time) (within : time ≤ last) :
    ∃ frame, history.block? height time = some frame ∧ frame.Settled := by
  obtain ⟨first, found, unseen, -⟩ := life.begins
  obtain ⟨frame, foundLater, -, settled⟩ :=
    life.develops (Nat.lt_succ_self opening) born within found
  exact ⟨frame, foundLater, settled fun seen => Bool.noConfusion (unseen.symm.trans seen)⟩

theorem rank_le {state later : BranchState} (born : opening < early) (ordered : early ≤ late)
    (within : late ≤ last) (before : history.state? height early = some state)
    (after : history.state? height late = some later) : state.rank ≤ later.rank := by
  obtain ⟨earlier, found, rfl⟩ := Option.map_eq_some_iff.mp before
  obtain ⟨frame, foundLater, developed, -⟩ := life.develops born ordered within found
  rw [state?, foundLater] at after
  cases after
  exact developed.forward

theorem exists_state? (born : opening < time) (within : time ≤ last) :
    ∃ state, history.state? height time = some state := by
  obtain ⟨frame, found, -⟩ := life.settled_block born within
  exact ⟨frame.state, congrArg (Option.map Frame.state) found⟩

/-- The block is in one state all the time between two times that it is in this state. -/
theorem state?_between {state : BranchState} (born : opening < early) (first : early ≤ middle)
    (second : middle ≤ late) (within : late ≤ last)
    (before : history.state? height early = some state)
    (after : history.state? height late = some state) :
    history.state? height middle = some state := by
  have bornThen : opening < middle := Nat.lt_of_lt_of_le born first
  have withinThen : middle ≤ last := Nat.le_trans second within
  obtain ⟨between, is⟩ := life.exists_state? bornThen withinThen
  have above : state.rank ≤ between.rank := life.rank_le born first withinThen before is
  have below : between.rank ≤ state.rank := life.rank_le bornThen second within is after
  rw [is, BranchState.rank_injective (Nat.le_antisymm below above)]

/-- A block that has had its branch keeps having had it. -/
theorem branchTaken_stays (born : opening < early) (ordered : early ≤ late) (within : late ≤ last)
    (before : history.state? height early = some .branchTaken) :
    history.state? height late = some .branchTaken := by
  obtain ⟨state, is⟩ := life.exists_state? (Nat.lt_of_lt_of_le born ordered) within
  have above := life.rank_le born ordered within before is
  rw [is, BranchState.rank_injective (Nat.le_antisymm state.rank_le_branchTaken above)]

/-- A block that is opened inside text that is left out counts as having had its branch. -/
theorem branchTaken_of_leftOut {opened : Location}
    (leftOut : history.operations[opening]? = some (.pushSuppressed opened))
    (born : opening < time) (within : time ≤ last) :
    history.state? height time = some .branchTaken := by
  obtain ⟨frame, found, -, taken⟩ := life.begins
  refine life.branchTaken_stays (Nat.lt_succ_self opening) born within ?_
  rw [state?, found, Option.map_some, taken opened leftOut]

theorem sawElse_stays (born : opening < early) (ordered : early ≤ late) (within : late ≤ last)
    (saw : history.SawElse height early) : history.SawElse height late := by
  obtain ⟨earlier, found, seen⟩ := Option.map_eq_some_iff.mp saw
  obtain ⟨later, foundLater, developed, -⟩ := life.develops born ordered within found
  exact Option.map_eq_some_iff.mpr ⟨later, foundLater, developed.seen seen⟩

/-- The block sees its last branch behind the first time that this branch is asked for while the block
is the innermost one. -/
theorem sawElse_iff (born : opening < time) (within : time ≤ last) :
    history.SawElse height time ↔
      ∃ moment, opening < moment ∧ moment < time ∧
        history.operations[moment]? = some .elseBranch ∧
        (history.stage moment).depth = height + 1 := by
  constructor
  · intro saw
    induction time, (show opening + 1 ≤ time from born) using Nat.le_induction with
    | base =>
        obtain ⟨frame, found, unseen, -⟩ := life.begins
        rw [SawElse, found, Option.map_some, unseen] at saw
        exact Bool.noConfusion (Option.some.inj saw)
    | succ time ordered ih =>
        obtain ⟨earlier, found, -⟩ := life.settled_block ordered (Nat.le_of_succ_le within)
        obtain ⟨later, foundLater, turns⟩ := turns_of_stays found (life.stays _ born within)
        rw [SawElse, foundLater] at saw
        cases seen : earlier.elseSeen with
        | true =>
            have sawBefore : history.SawElse height time :=
              Option.map_eq_some_iff.mpr ⟨earlier, found, seen⟩
            obtain ⟨moment, after, before, asked⟩ :=
              ih ordered (Nat.le_of_succ_le within) sawBefore
            exact ⟨moment, after, Nat.lt_succ_of_lt before, asked⟩
        | false =>
            obtain ⟨asked, top⟩ := turns.asked_of_seen seen (Option.some.inj saw)
            exact ⟨time, ordered, Nat.lt_succ_self time, asked, top.symm⟩
  · rintro ⟨moment, after, before, asked, top⟩
    obtain ⟨frame, found, -⟩ := life.settled_block after (Nat.le_trans (Nat.le_of_lt before) within)
    obtain ⟨later, foundLater, seen⟩ := seen_after_elseBranch found top.symm
    have saw : history.SawElse height (moment + 1) := by
      rw [SawElse, block?, stage_succ, asked]
      exact Option.map_eq_some_iff.mpr ⟨later, foundLater, seen⟩
    exact life.sawElse_stays (Nat.lt_succ_of_lt after) before within saw

/-- A block that has seen its last branch does not wait, and admits no other branch. -/
theorem settled_of_sawElse (born : opening < time) (within : time ≤ last)
    (saw : history.SawElse height time) :
    history.state? height time ≠ some .awaitingBranch ∧
      ((history.stage time).depth = height + 1 →
        (∀ condition, (Operation.elif condition).run (history.stage time) =
            .error .elifAfterElse (history.stage time)) ∧
          Operation.elseBranch.run (history.stage time) =
            .error .repeatedElse (history.stage time)) := by
  obtain ⟨frame, found, settled⟩ := life.settled_block born within
  rw [SawElse, found, Option.map_some] at saw
  have seen := Option.some.inj saw
  constructor
  · rw [state?, found, Option.map_some]
    exact fun waits => settled seen (Option.some.inj waits)
  · exact fun top => run_refused_of_seen found top.symm seen

end Lifetime

/-- **A block never comes back.**  While it is open, it has a branch during one stretch of the history
at most, and it keeps having had one.  It never has one if it was opened inside text that is left out.
Once its last branch was asked for, it does not wait and refuses all other branches.  A refused operation
changes no block, and no operation changes a block that stays open below another one. -/
theorem block_never_comes_back (history : History) {opening height last : Nat}
    (life : history.Lifetime opening height last) :
    (∀ time, opening < time → time ≤ last → (history.block? height time).isSome) ∧
    (∀ early middle late, opening < early → early ≤ middle → middle ≤ late → late ≤ last →
      history.state? height early = some .active → history.state? height late = some .active →
        history.state? height middle = some .active) ∧
    (∀ early late, opening < early → early ≤ late → late ≤ last →
      history.state? height early = some .branchTaken →
        history.state? height late = some .branchTaken) ∧
    (∀ opened, history.operations[opening]? = some (.pushSuppressed opened) →
      ∀ time, opening < time → time ≤ last →
        history.state? height time ≠ some .active) ∧
    (∀ time, opening < time → time ≤ last →
      (history.SawElse height time ↔
        ∃ moment, opening < moment ∧ moment < time ∧
          history.operations[moment]? = some .elseBranch ∧
          (history.stage moment).depth = height + 1)) ∧
    (∀ early late, opening < early → early ≤ late → late ≤ last → history.SawElse height early →
      history.state? height late ≠ some .awaitingBranch ∧
      ((history.stage late).depth = height + 1 →
        (∀ condition, (Operation.elif condition).run (history.stage late) =
            .error .elifAfterElse (history.stage late)) ∧
          Operation.elseBranch.run (history.stage late) =
            .error .repeatedElse (history.stage late))) ∧
    (∀ (operation : Operation) (nesting left : Nesting) (cause : NestingError),
      operation.run nesting = .error cause left → left = nesting) ∧
    (∀ (operation : Operation) (nesting : Nesting) (depth : Nat), depth + 1 < nesting.depth →
      depth < (operation.after nesting).depth →
        (operation.after nesting).blockAt? depth = nesting.blockAt? depth) := by
  refine ⟨?_, ?_, ?_, ?_, ?_, ?_, ?_, ?_⟩
  · intro time born within
    obtain ⟨frame, found, -⟩ := life.settled_block born within
    exact found ▸ rfl
  · exact fun early middle late => life.state?_between
  · exact fun early late => life.branchTaken_stays
  · intro opened leftOut time born within active
    rw [life.branchTaken_of_leftOut leftOut born within] at active
    cases active
  · exact fun time => life.sawElse_iff
  · intro early late born ordered within saw
    exact life.settled_of_sawElse (Nat.lt_of_lt_of_le born ordered) within
      (life.sawElse_stays born ordered within saw)
  · exact fun operation nesting left cause => Operation.unchanged_of_refused
  · exact fun operation nesting depth => blockAt?_after_of_below

/-- A block that waits, has its branch while another one is opened and dropped above it, and refuses two
directives behind its last branch before it is closed. -/
def crowded : History where
  start := empty
  operations := [.push false default, .elif none, .elif (some true), .pushSuppressed default,
    .elif (some true), .truncate 1, .elseBranch, .elif (some true), .elseBranch, .pop]

/-- The block has its branch below the other one, and no other branch behind its last one. -/
theorem crowded_never_comes_back :
    crowded.Lifetime 0 0 9 ∧ crowded.state? 0 4 = some .active ∧
      (Operation.elif (some true)).run (crowded.stage 7) =
        .error .elifAfterElse (crowded.stage 7) := by
  have life : crowded.Lifetime 0 0 9 := by
    refine ⟨⟨_, rfl, .push false default⟩, rfl, ?_⟩
    intro time born within
    interval_cases time <;> decide
  obtain ⟨-, between, -, -, saw, refuses, -⟩ := block_never_comes_back crowded life
  have asked : crowded.SawElse 0 7 :=
    (saw 7 (by decide) (by decide)).mpr ⟨6, by decide, by decide, rfl, rfl⟩
  have active : crowded.state? 0 4 = some .active :=
    between 3 4 6 (by decide) (by decide) (by decide) (by decide) rfl rfl
  have refused := (refuses 7 7 (by decide) (Nat.le_refl 7) (by decide) asked).2 rfl
  exact ⟨life, active, refused.1 (some true)⟩

end History

end Nesting

end CommentDirectives
