import CommentDirectives.Proofs.Inclusion.Ownership
import CommentDirectives.Proofs.Processing.Bounds
import CommentDirectives.Proofs.Session.Failure

/-!
# Blocks in text that is left out

Above a block whose present branch is left out, every block has its branch counted as taken, so that
none of its own branches can make lines count again (`Nesting.Orderly`).  The operations on the open
blocks do not see to this by themselves: a block may be opened with a condition inside text that is
left out.  Lines never do that (`Nesting.Orderly.moves`), and the blocks of the files that include
the present one cannot be changed from it.  So the innermost block alone tells whether lines count
(`Nesting.Orderly.isActive_iff`), in every state that the reading of a text comes to
(`Config.blocks_ordered`).
-/

namespace CommentDirectives

set_option autoImplicit false

/-! ## Open blocks -/

/-- Open blocks in the order that lines keep. -/
structure Nesting.Orderly (nesting : Nesting) : Prop where
  /-- Above a block that is left out, no branch will be taken. -/
  dead : nesting.frames.Pairwise fun above below =>
    below.state ≠ .active → above.state = .branchTaken
  /-- Behind the last branch of a block, no branch is awaited. -/
  settled : ∀ frame ∈ nesting.frames, frame.elseSeen = true → frame.state ≠ .awaitingBranch

namespace Nesting.Orderly

variable {nesting after : Nesting} {frame changed : Frame} {outer : List Frame}

theorem empty : Orderly Nesting.empty := ⟨.nil, nofun⟩

/-- Where lines count, the present branch of every block is taken. -/
theorem state_of_isActive (active : nesting.isActive = true) (member : frame ∈ nesting.frames) :
    frame.state = .active :=
  eq_of_beq (List.all_eq_true.mp active frame member)

/-- Elsewhere there is a block whose present branch is left out. -/
theorem exists_of_inactive (inactive : nesting.isActive = false) :
    ∃ frame ∈ nesting.frames, frame.state ≠ .active := by
  obtain ⟨frame, member, leftOut⟩ := List.all_eq_false.mp inactive
  exact ⟨frame, member, fun active => leftOut (beq_iff_eq.mpr active)⟩

/-- Where lines count, a block may be opened with any condition. -/
theorem push (orderly : Orderly nesting) (active : nesting.isActive = true) (holds : Bool)
    (location : Location) : Orderly (nesting.push holds location) where
  dead := by
    refine List.pairwise_cons.mpr ⟨fun below member leftOut => ?_, orderly.dead⟩
    exact absurd (state_of_isActive active member) leftOut
  settled := by
    refine List.forall_mem_cons.mpr ⟨fun seen => ?_, orderly.settled⟩
    cases seen

theorem pushSuppressed (orderly : Orderly nesting) (location : Location) :
    Orderly (nesting.pushSuppressed location) where
  dead := List.pairwise_cons.mpr ⟨fun _ _ _ => rfl, orderly.dead⟩
  settled := List.forall_mem_cons.mpr ⟨fun _ => nofun, orderly.settled⟩

theorem ofCons (orderly : Orderly ⟨frame :: outer⟩) : Orderly ⟨outer⟩ where
  dead := (List.pairwise_cons.mp orderly.dead).2
  settled := (List.forall_mem_cons.mp orderly.settled).2

/-- The innermost block may change as long as one whose branch counts as taken stays so. -/
theorem change (orderly : Orderly ⟨frame :: outer⟩)
    (taken : frame.state = .branchTaken → changed.state = .branchTaken)
    (settled : changed.elseSeen = true → changed.state ≠ .awaitingBranch) :
    Orderly ⟨changed :: outer⟩ where
  dead := by
    obtain ⟨first, others⟩ := List.pairwise_cons.mp orderly.dead
    exact List.pairwise_cons.mpr
      ⟨fun below member leftOut => taken (first below member leftOut), others⟩
  settled := List.forall_mem_cons.mpr ⟨settled, orderly.ofCons.settled⟩

theorem elif (orderly : Orderly nesting) {holds : Option Bool}
    (turned : nesting.elif holds = .ok after) : Orderly after := by
  obtain ⟨frame, outer, rfl, unseen, rfl⟩ := elif_eq_ok.mp turned
  refine orderly.change ?_ fun seen => ?_
  · intro taken
    show BranchState.afterElif frame.state holds = .branchTaken
    rw [taken]
    rfl
  · exact absurd (unseen.symm.trans seen) Bool.false_ne_true

theorem elseBranch (orderly : Orderly nesting) (turned : nesting.elseBranch = .ok after) :
    Orderly after := by
  obtain ⟨frame, outer, rfl, _, rfl⟩ := elseBranch_eq_ok.mp turned
  refine orderly.change ?_ fun _ => ?_
  · intro taken
    show BranchState.afterElse frame.state = .branchTaken
    rw [taken]
    rfl
  · show BranchState.afterElse frame.state ≠ .awaitingBranch
    cases frame.state <;> exact nofun

theorem pop (orderly : Orderly nesting) (closed : nesting.pop = .ok (frame, after)) :
    Orderly after := by
  obtain ⟨outer, rfl, rfl⟩ := pop_eq_ok.mp closed
  exact orderly.ofCons

theorem truncate (orderly : Orderly nesting) (depth : Nat) : Orderly (nesting.truncate depth) where
  dead := orderly.dead.sublist (List.drop_sublist _ _)
  settled := fun frame member => orderly.settled frame (List.mem_of_mem_drop member)

/-- **Lines keep the order of the open blocks.** -/
theorem moves {location : Location} {base : Nat} {part : Option BlockPart}
    (orderly : Orderly nesting) (moved : Moves location base part nesting after) :
    Orderly after := by
  cases moved with
  | ordinary => exact orderly
  | opening active holds => exact orderly.push active holds location
  | suppressed inactive => exact orderly.pushSuppressed location
  | elseIf own turned => exact orderly.elif turned
  | otherwise own turned => exact orderly.elseBranch turned
  | close own closed => exact orderly.pop closed

/-- **The innermost block tells whether lines count.** -/
theorem isActive_iff (orderly : Orderly nesting) :
    nesting.isActive = true ↔
      nesting.frames = [] ∨
        ∃ frame, nesting.innermost? = some frame ∧ frame.state = .active := by
  obtain ⟨_ | ⟨innermost, outer⟩⟩ := nesting
  · exact ⟨fun _ => .inl rfl, fun _ => rfl⟩
  constructor
  · intro active
    exact .inr ⟨innermost, rfl, state_of_isActive active List.mem_cons_self⟩
  · rintro (nothing | ⟨frame, ⟨⟩, active⟩)
    · cases nothing
    cases counts : isActive ⟨innermost :: outer⟩ with
    | true => rfl
    | false =>
        obtain ⟨below, member, leftOut⟩ := exists_of_inactive counts
        rcases List.mem_cons.mp member with rfl | beneath
        · exact absurd active leftOut
        · have dead := (List.pairwise_cons.mp orderly.dead).1 below beneath leftOut
          rw [active] at dead
          cases dead

end Nesting.Orderly

/-! ## Open files -/

/-- The blocks below an open file all count. -/
theorem Owned.counts_below {owns : OpenFile → List Frame → Prop} {files : List OpenFile}
    {frames : List Frame} (owned : Owned owns files frames) :
    ∀ file ∈ files, file.baseDepth ≤ frames.length ∧
      (Nesting.truncate ⟨frames⟩ file.baseDepth).isActive = true := by
  induction owned with
  | none => exact nofun
  | @file file outer own below relates base counts beneath ih =>
      rw [List.length_append]
      refine List.forall_mem_cons.mpr ⟨?_, fun other member => ?_⟩
      · rw [base, Nesting.truncate_append]
        exact ⟨Nat.le_add_left _ _, counts⟩
      · obtain ⟨within, active⟩ := ih other member
        rw [Nesting.truncate_append_of_le own below within]
        exact ⟨Nat.le_trans within (Nat.le_add_left _ _), active⟩

namespace Processing

variable {config : Config} {tree : FileTree}

/-- A state whose open blocks are in order, and where the blocks below each open file count. -/
structure BlocksOrdered (processing : Processing) : Prop where
  /-- Above a block that is left out, no branch will be taken. -/
  dead : processing.session.nesting.frames.Pairwise fun above below =>
    below.state ≠ .active → above.state = .branchTaken
  /-- The blocks that were open where a file starts are still open, and count. -/
  below : ∀ file ∈ processing.files,
    file.baseDepth ≤ processing.session.nesting.depth ∧
      ∀ frame ∈ (processing.session.nesting.truncate file.baseDepth).frames, frame.state = .active
  /-- Behind the last branch of a block, no branch is awaited. -/
  settled : ∀ frame ∈ processing.session.nesting.frames,
    frame.elseSeen = true → frame.state ≠ .awaitingBranch
  /-- The innermost block tells whether lines count. -/
  innermost : processing.session.isActive = true ↔
    processing.session.nesting.frames = [] ∨
      ∃ frame, processing.session.nesting.innermost? = some frame ∧ frame.state = .active

/-- **Every step keeps the order of the open blocks.** -/
theorem orderly_of_transition {processing next : Processing}
    (orderly : processing.session.nesting.Orderly)
    (leads : Transition config tree processing (.proceed next)) :
    next.session.nesting.Orderly := by
  cases leads with
  | close ended closed => exact orderly
  | next outcome => exact orderly.moves (Session.moves_of_processLine outcome)
  | leave outcome =>
      rw [nesting_leaveFile]
      exact (orderly.moves (Session.moves_of_processLine outcome)).truncate _
  | @enter session after path target text number base line rest outer outcome room content =>
      have read : after.nesting.Orderly := orderly.moves (Session.moves_of_processLine outcome)
      exact read

/-- The step that stops a run leaves the open blocks as they are, and opens no file. -/
theorem nesting_of_stop {processing last : Processing} {ending : Ending}
    (stops : advance config tree processing = .stop last ending) :
    last.session.nesting = processing.session.nesting ∧
      ∀ file ∈ last.files, ∃ file' ∈ processing.files, file'.baseDepth = file.baseDepth := by
  have kind := transition_of_stop stops
  have headOr {path : String} {number number' base : Nat} {rest rest' : List (List Char)}
      {outer : List OpenFile} :
      ∀ file ∈ (⟨path, number', rest', base⟩ :: outer : List OpenFile),
        ∃ file' ∈ (⟨path, number, rest, base⟩ :: outer : List OpenFile),
          file'.baseDepth = file.baseDepth := by
    refine List.forall_mem_cons.mpr ⟨⟨_, List.mem_cons_self, rfl⟩, fun file member => ?_⟩
    exact ⟨file, List.mem_cons_of_mem _ member, rfl⟩
  cases kind with
  | complete => exact ⟨rfl, nofun⟩
  | unclosed => exact ⟨rfl, fun file member => ⟨file, List.mem_cons_of_mem _ member, rfl⟩⟩
  | failed outcome => exact ⟨(kept_of_advance stops).nesting, headOr⟩
  | exclude outcome => exact ⟨(Session.counts_of_turn outcome nofun).2, headOr⟩
  | tooDeep outcome deep => exact ⟨(Session.counts_of_turn outcome nofun).2, headOr⟩
  | unreadable outcome room content => exact ⟨(Session.counts_of_turn outcome nofun).2, headOr⟩

/-- States with blocks in order that count below each file. -/
theorem blocksOrdered {processing : Processing} (orderly : processing.session.nesting.Orderly)
    (below : ∀ file ∈ processing.files, file.baseDepth ≤ processing.session.nesting.depth ∧
      (processing.session.nesting.truncate file.baseDepth).isActive = true) :
    processing.BlocksOrdered where
  dead := orderly.dead
  below := fun file member =>
    ⟨(below file member).1, fun _ beneath =>
      Nesting.Orderly.state_of_isActive (below file member).2 beneath⟩
  settled := orderly.settled
  innermost := orderly.isActive_iff

end Processing

namespace Config

/-- **Blocks above a block that is left out are dead.**  In every state that the reading of a text
comes to, and in the one in which it stops: above a block whose present branch is left out, every
block has its branch counted as taken; the blocks that were open where an open file starts all
count; no block awaits a branch behind its last one; and lines count exactly where no block is open
or the present branch of the innermost one is taken. -/
theorem blocks_ordered (config : Config) (tree : FileTree) (globals : Layer)
    (providers : List Provider) (path text : String) :
    let start := Processing.start globals providers path text
    (∀ reached, Processing.Reaches config tree start reached → reached.BlocksOrdered) ∧
      (start.run config tree).1.BlocksOrdered := by
  intro start
  have orderly {reached : Processing} (reaches : Processing.Reaches config tree start reached) :
      reached.session.nesting.Orderly := by
    let inOrder (processing : Processing) : Prop := processing.session.nesting.Orderly
    refine (reaches.keeps .empty ?_ : inOrder reached)
    exact fun processing next => Processing.orderly_of_transition
  have below {reached : Processing} (reaches : Processing.Reaches config tree start reached) :
      ∀ file ∈ reached.files, file.baseDepth ≤ reached.session.nesting.depth ∧
        (reached.session.nesting.truncate file.baseDepth).isActive = true := by
    -- Nothing but the heights at which the files start matters here.
    have owned : Owned (fun _ _ => True) reached.files reached.session.nesting.frames :=
      reaches.owned (fun _ _ => trivial) trivial fun _ _ _ _ => trivial
    exact owned.counts_below
  refine ⟨fun reached reaches => Processing.blocksOrdered (orderly reaches) (below reaches), ?_⟩
  obtain ⟨reached, reaches, stops⟩ := Processing.exists_last_step config tree start
  obtain ⟨nesting, files⟩ := Processing.nesting_of_stop stops
  refine Processing.blocksOrdered (nesting ▸ orderly reaches) fun file member => ?_
  obtain ⟨file', member', base⟩ := files file member
  rw [nesting, ← base]
  exact below reaches file' member'

/-- A text that opens a block inside text that is left out. -/
def deadBlockText : String := "//#ifdef debug\n//#if )"

/-- The state behind the second line of the text is reached, and its inner block is dead. -/
theorem blocks_ordered_deadBlock :
    let start := Processing.start Layer.empty [] "a.txt" deadBlockText
    ∃ reached, Processing.Reaches {} (FileTree.empty []) start reached ∧
      reached.session.nesting.frames.map (·.state) = [.branchTaken, .awaitingBranch] ∧
      reached.BlocksOrdered := by
  intro start
  have behind : (Processing.iterate {} (FileTree.empty []) 2 start).next?.map
      (fun reached => reached.session.nesting.frames.map (·.state)) =
        some [.branchTaken, .awaitingBranch] := by
    unfold start
    cbv
  obtain ⟨reached, leads, states⟩ := Option.map_eq_some_iff.mp behind
  have reaches : Processing.Reaches {} (FileTree.empty []) start reached :=
    .of_iterate (Step.next?_eq_some.mp leads)
  have ordered := blocks_ordered {} (FileTree.empty []) Layer.empty [] "a.txt" deadBlockText
  exact ⟨reached, reaches, states, ordered.1 reached reaches⟩

end Config

end CommentDirectives
