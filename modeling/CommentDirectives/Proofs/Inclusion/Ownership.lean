import CommentDirectives.Proofs.Processing.Transition
import CommentDirectives.Proofs.Session.Moves

/-!
# The blocks of the open files

All open files share one stack of open blocks, and each file remembers how many blocks were open
where it starts.  So the stack falls into parts, one for each open file: the blocks that the file
has opened and not closed, above those of the files that include it (`Owned`).  A file starts only
where lines count, and its lines change no block but its own (`Nesting.Moves.ofOwn`).  Therefore what
a file and its own blocks have to do with each other is kept by every step, as long as the lines of
the file itself keep it (`Owned.next`), and it holds in every state that is reached
(`Processing.Reaches.owned`).
-/

namespace CommentDirectives

set_option autoImplicit false

/-! ## Changes of the innermost part -/

namespace Nesting

variable {location : Location} {part : Option BlockPart} {own below : List Frame} {after : Nesting}

/-- A file that has a block of its own open. -/
theorem exists_own (opened : below.length < depth ⟨own ++ below⟩) :
    ∃ frame outer, own = frame :: outer := by
  cases own with
  | nil => exact absurd opened (Nat.lt_irrefl _)
  | cons frame outer => exact ⟨frame, outer, rfl⟩

/-- **A line changes the blocks of its own file alone**, and as if there were no others. -/
theorem Moves.ofOwn (moved : Moves location below.length part ⟨own ++ below⟩ after)
    (counts : isActive ⟨below⟩ = true) :
    ∃ own', after.frames = own' ++ below ∧ Moves location 0 part ⟨own⟩ ⟨own'⟩ := by
  cases moved with
  | ordinary => exact ⟨own, rfl, .ordinary _⟩
  | opening active holds =>
      rw [isActive_append, counts, Bool.and_true] at active
      exact ⟨_ :: own, rfl, .opening active holds⟩
  | suppressed inactive =>
      rw [isActive_append, counts, Bool.and_true] at inactive
      exact ⟨_ :: own, rfl, .suppressed inactive⟩
  | elseIf opened turned =>
      obtain ⟨first, outer, rfl⟩ := exists_own opened
      obtain ⟨_, _, ⟨⟩, unseen, rfl⟩ := elif_eq_ok.mp turned
      exact ⟨_ :: outer, rfl,
        .elseIf (Nat.succ_pos _) (elif_eq_ok.mpr ⟨first, outer, rfl, unseen, rfl⟩)⟩
  | otherwise opened turned =>
      obtain ⟨first, outer, rfl⟩ := exists_own opened
      obtain ⟨_, _, ⟨⟩, unseen, rfl⟩ := elseBranch_eq_ok.mp turned
      exact ⟨_ :: outer, rfl,
        .otherwise (Nat.succ_pos _) (elseBranch_eq_ok.mpr ⟨first, outer, rfl, unseen, rfl⟩)⟩
  | close opened closed =>
      obtain ⟨first, outer, rfl⟩ := exists_own opened
      obtain ⟨_, ⟨⟩, rfl⟩ := pop_eq_ok.mp closed
      exact ⟨outer, rfl, .close (Nat.succ_pos _) (pop_eq_ok.mpr ⟨outer, rfl, rfl⟩)⟩

end Nesting

/-! ## All open files -/

/-- The open blocks by the open files, the innermost first: each file stands in a relation to the
blocks that it has opened, and above blocks that all count. -/
inductive Owned (owns : OpenFile → List Frame → Prop) : List OpenFile → List Frame → Prop where
  | none : Owned owns [] []
  | file {file : OpenFile} {outer : List OpenFile} {own below : List Frame}
      (relates : owns file own) (base : file.baseDepth = below.length)
      (counts : Nesting.isActive ⟨below⟩ = true) (beneath : Owned owns outer below) :
      Owned owns (file :: outer) (own ++ below)

/-- A relation of files and their own blocks that the lines of the files keep. -/
def KeptByLines (config : Config) (owns : OpenFile → List Frame → Prop) : Prop :=
  ∀ {path : String} {number base : Nat} {line : List Char} {rest : List (List Char)}
    {own own' : List Frame}, owns ⟨path, number, line :: rest, base⟩ own →
    Nesting.Moves (Processing.lineLocation path number line) 0
      (LineForm.ofLine config.allowBlanks line).blockPart? ⟨own⟩ ⟨own'⟩ →
    owns ⟨path, number + 1, rest, base⟩ own'

/-- The blocks that are left behind a file that is left before its end. -/
theorem Processing.nesting_leaveFile (config : Config) (session : Session) (file : OpenFile)
    (outer : List OpenFile) :
    (Processing.leaveFile config session file outer).session.nesting =
      session.nesting.truncate file.baseDepth :=
  Session.nesting_skipLines _ config _

namespace Owned

variable {config : Config} {tree : FileTree} {owns : OpenFile → List Frame → Prop}

/-- The part of the innermost file. -/
theorem parts {file : OpenFile} {outer : List OpenFile} {frames : List Frame}
    (owned : Owned owns (file :: outer) frames) :
    ∃ own below, frames = own ++ below ∧ owns file own ∧ file.baseDepth = below.length ∧
      Nesting.isActive ⟨below⟩ = true ∧ Owned owns outer below := by
  cases owned with
  | @file _ _ own below relates base counts beneath =>
      exact ⟨own, below, rfl, relates, base, counts, beneath⟩

/-- A file that is opened where lines count has no block of its own. -/
theorem enter {file : OpenFile} {outer : List OpenFile} {nesting : Nesting}
    (owned : Owned owns outer nesting.frames) (relates : owns file [])
    (base : file.baseDepth = nesting.depth) (counts : nesting.isActive = true) :
    Owned owns (file :: outer) nesting.frames := by
  rw [← List.nil_append nesting.frames]
  exact .file relates base counts owned

/-- A line that does not fail leaves the blocks of the other files as they are. -/
theorem readLine (kept : KeptByLines config owns) {session after : Session} {path : String}
    {number base : Nat} {line : List Char} {rest : List (List Char)} {outer : List OpenFile}
    {flow : Flow}
    (owned : Owned owns (⟨path, number, line :: rest, base⟩ :: outer) session.nesting.frames)
    (outcome : session.processLine
      ⟨config, Processing.lineLocation path number line, base⟩ line = (after, .ok flow)) :
    Owned owns (⟨path, number + 1, rest, base⟩ :: outer) after.nesting.frames := by
  have moved := Session.moves_of_processLine outcome
  obtain ⟨⟨frames⟩, here⟩ : ∃ nesting, session.nesting = nesting := ⟨_, rfl⟩
  rw [here] at owned moved
  obtain ⟨own, below, rfl, relates, bottom, counts, beneath⟩ := owned.parts
  obtain rfl : base = below.length := bottom
  obtain ⟨own', there, moved⟩ := moved.ofOwn counts
  rw [there]
  exact .file (kept relates moved) rfl counts beneath

/-- A file that is left takes its blocks with it. -/
theorem leave {file : OpenFile} {outer : List OpenFile} {nesting : Nesting}
    (owned : Owned owns (file :: outer) nesting.frames) :
    Owned owns outer (nesting.truncate file.baseDepth).frames := by
  obtain ⟨frames⟩ := nesting
  obtain ⟨own, below, rfl, _, base, _, beneath⟩ := owned.parts
  rw [base, Nesting.truncate_append]
  exact beneath

/-- A file that has no block open leaves those of the others. -/
theorem close {file : OpenFile} {outer : List OpenFile} {nesting : Nesting}
    (owned : Owned owns (file :: outer) nesting.frames)
    (closed : nesting.depth ≤ file.baseDepth) : Owned owns outer nesting.frames := by
  obtain ⟨frames⟩ := nesting
  obtain ⟨own, below, rfl, _, base, _, beneath⟩ := owned.parts
  rw [base, Nesting.depth, List.length_append] at closed
  obtain rfl : own = [] := List.eq_nil_of_length_eq_zero (by omega)
  exact beneath

/-- **Every step keeps what the lines of each file keep**, if it holds of a file that is opened. -/
theorem next (kept : KeptByLines config owns) {processing onward : Processing}
    (owned : Owned owns processing.files processing.session.nesting.frames)
    (leads : Processing.Transition config tree processing (.proceed onward))
    (opens : ∀ {session after : Session} {path target text : String} {number base : Nat}
      {line : List Char} {rest : List (List Char)} {outer : List OpenFile},
      processing = ⟨⟨path, number, line :: rest, base⟩ :: outer, session⟩ →
      session.processLine ⟨config, Processing.lineLocation path number line, base⟩ line =
        (after, .ok (.include target)) →
      outer.length < includeLimit → tree.readText (Processing.includedPath path target) = .ok text →
      owns (OpenFile.ofText (Processing.includedPath path target) text after.nesting.depth) []) :
    Owned owns onward.files onward.session.nesting.frames := by
  cases leads with
  | close ended closed => exact owned.close closed
  | next outcome => exact owned.readLine kept outcome
  | @leave session after path number base line rest outer outcome =>
      rw [Processing.nesting_leaveFile]
      exact (owned.readLine kept outcome).leave
  | @enter session after path target text number base line rest outer outcome room content =>
      have beneath : Owned owns (⟨path, number + 1, rest, base⟩ :: outer) after.nesting.frames :=
        owned.readLine kept outcome
      have counts := Session.counts_of_turn outcome nofun
      refine beneath.enter (opens rfl outcome room content) rfl ?_
      rw [counts.2]
      exact counts.1

end Owned

/-- **In every state that is reached, each file has to its own blocks the relation that its lines
keep.** -/
theorem Processing.Reaches.owned {config : Config} {tree : FileTree} {globals : Layer}
    {providers : List Provider} {path text : String} {reached : Processing}
    {owns : OpenFile → List Frame → Prop}
    (reaches : Processing.Reaches config tree (Processing.start globals providers path text) reached)
    (kept : KeptByLines config owns) (main : owns (OpenFile.ofText path text 0) [])
    (opens : ∀ {session after : Session} {including target content : String} {number base : Nat}
      {line : List Char} {rest : List (List Char)} {outer : List OpenFile},
      Processing.Reaches config tree (Processing.start globals providers path text)
        ⟨⟨including, number, line :: rest, base⟩ :: outer, session⟩ →
      session.processLine ⟨config, Processing.lineLocation including number line, base⟩ line =
        (after, .ok (.include target)) →
      outer.length < includeLimit →
      tree.readText (Processing.includedPath including target) = .ok content →
      owns (OpenFile.ofText (Processing.includedPath including target) content
        after.nesting.depth) []) :
    Owned owns reached.files reached.session.nesting.frames := by
  induction reaches with
  | refl => exact Owned.none.enter main rfl rfl
  | tail before leads ih =>
      refine ih.next kept (Processing.transition_of_proceed leads) ?_
      intro session after including target content number base line rest outer here
      exact opens (here ▸ before)

end CommentDirectives
