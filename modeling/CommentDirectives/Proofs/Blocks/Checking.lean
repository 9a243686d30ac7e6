import CommentDirectives.Proofs.Processing.Transition
import CommentDirectives.Proofs.Session.Moves

/-!
# How the balance of blocks is checked

While a text is read, each open block stands for a line that opened it and was not closed since, and
the lines behind that one are branches of the block (`Pending`).  Every line that does not fail
keeps this, and so does every step of the reading (`Checking.next`).  Two things follow at any line:
what was read so far can still be completed to a balanced sequence, and a part that does not fit the
open blocks cannot be the next one.

So the reading of a text whose lines fail for nothing but their blocks tells balanced sequences of
parts from others, and names the first line behind which there is no hope or else the innermost
block that is still open at the end (`Config.blocks_checked`).
-/

namespace CommentDirectives

set_option autoImplicit false

/-! ## Lines that wait for the ends of blocks -/

/-- The lines that were read from the beginning of a file, by the blocks that they leave open.  In
front of the opening of the innermost block stand lines that leave the other blocks open. -/
inductive Pending (allowBlanks : Bool) (path : String) : List Frame → List (List Char) → Prop where
  | none {lines : List (List Char)}
      (balanced : BlockPart.Balanced (BlockPart.ofLines allowBlanks lines)) :
      Pending allowBlanks path [] lines
  | opened {frame : Frame} {outer : List Frame} {before inside : List (List Char)}
      {line : List Char} (around : Pending allowBlanks path outer before)
      (opens : (LineForm.ofLine allowBlanks line).blockPart? = some .opening)
      (place : frame.opened = Processing.lineLocation path before.length line)
      (branches : BlockPart.Inside frame.elseSeen (BlockPart.ofLines allowBlanks inside)) :
      Pending allowBlanks path (frame :: outer) (before ++ line :: inside)

namespace Pending

variable {allowBlanks : Bool} {path : String} {frames : List Frame} {lines : List (List Char)}

/-- Lines with balanced parts leave the same blocks open. -/
theorem append (pending : Pending allowBlanks path frames lines) {more : List (List Char)}
    (balanced : BlockPart.Balanced (BlockPart.ofLines allowBlanks more)) :
    Pending allowBlanks path frames (lines ++ more) := by
  cases pending with
  | none front =>
      refine .none ?_
      rw [BlockPart.ofLines_append]
      exact front.append balanced
  | @opened frame outer before inside line around opens place branches =>
      rw [List.append_assoc, List.cons_append]
      refine .opened around opens place ?_
      rw [BlockPart.ofLines_append]
      exact branches.append balanced

/-- The parts of lines up to the opening of a block and behind it. -/
theorem ofLines_opened {before inside : List (List Char)} {line : List Char}
    (opens : (LineForm.ofLine allowBlanks line).blockPart? = some .opening) :
    BlockPart.ofLines allowBlanks (before ++ line :: inside) =
      BlockPart.ofLines allowBlanks before ++
        .opening :: BlockPart.ofLines allowBlanks inside := by
  rw [BlockPart.ofLines_append]
  congr 1
  exact List.filterMap_cons_some opens

/-- The stack that reads parts agrees with the open blocks. -/
theorem follow? (pending : Pending allowBlanks path frames lines) :
    BlockPart.follow? [] (BlockPart.ofLines allowBlanks lines) =
      some (frames.map (·.elseSeen)) := by
  induction pending with
  | none balanced => exact balanced.follow? []
  | @opened frame outer before inside line around opens place branches ih =>
      rw [ofLines_opened opens, BlockPart.follow?_append, ih, Option.bind_some,
        BlockPart.follow?_cons, BlockPart.admit?, Option.bind_some, branches.follow?]
      rfl

/-- Whatever balanced sequence follows, closing the open blocks behind it gives a balanced
sequence. -/
theorem balanced_of_close (pending : Pending allowBlanks path frames lines) :
    ∀ {more : List BlockPart}, BlockPart.Balanced more →
      BlockPart.Balanced (BlockPart.ofLines allowBlanks lines ++
        (more ++ List.replicate frames.length .close)) := by
  induction pending with
  | none front =>
      intro more balanced
      rw [List.length_nil, List.replicate_zero, List.append_nil]
      exact front.append balanced
  | @opened frame outer before inside line around opens place branches ih =>
      intro more balanced
      have block := ih (branches.append balanced).closed
      rw [ofLines_opened opens, List.length_cons, List.replicate_succ]
      simpa only [List.append_assoc, List.cons_append, List.nil_append] using block

/-- **What was read so far can be completed.** -/
theorem extensible (pending : Pending allowBlanks path frames lines) :
    BlockPart.Extensible (BlockPart.ofLines allowBlanks lines) :=
  ⟨_, pending.balanced_of_close .empty⟩

/-- Where a block is open, what was read so far is not balanced. -/
theorem not_balanced {frame : Frame} {outer : List Frame}
    (pending : Pending allowBlanks path (frame :: outer) lines) :
    ¬BlockPart.Balanced (BlockPart.ofLines allowBlanks lines) :=
  BlockPart.not_balanced_of_open pending.follow?

/-- **A part that does not fit the open blocks cannot come next.** -/
theorem not_extensible {nesting : Nesting}
    (pending : Pending allowBlanks path nesting.frames lines) {line : List Char}
    {part : BlockPart} (plays : (LineForm.ofLine allowBlanks line).blockPart? = some part)
    (refused : nesting.Refuses 0 part) :
    ¬BlockPart.Extensible (BlockPart.ofLines allowBlanks (lines ++ [line])) := by
  rw [BlockPart.ofLines_concat plays]
  refine BlockPart.not_extensible_of_refused pending.follow? ?_
  cases refused with
  | innermost refused => exact refused
  | outside needs closed =>
      have empty : nesting.frames = [] := List.eq_nil_of_length_eq_zero (Nat.le_zero.mp closed)
      rw [empty]
      cases part with
      | opening => exact absurd rfl needs
      | elseIf | otherwise | close => rfl

/-- A line that goes on in the innermost block. -/
theorem goOn {frame frame' : Frame} {outer : List Frame} {line : List Char} {part : BlockPart}
    (pending : Pending allowBlanks path (frame :: outer) lines)
    (plays : (LineForm.ofLine allowBlanks line).blockPart? = some part)
    (place : frame'.opened = frame.opened)
    (goesOn : ∀ {front : List BlockPart}, BlockPart.Inside frame.elseSeen front →
      BlockPart.Inside frame'.elseSeen (front ++ [part])) :
    Pending allowBlanks path (frame' :: outer) (lines ++ [line]) := by
  cases pending with
  | @opened _ _ before inside opening around opens opened branches =>
      rw [List.append_assoc, List.cons_append]
      refine .opened around opens (place.trans opened) ?_
      rw [BlockPart.ofLines_concat plays]
      exact goesOn branches

/-- A line that closes the innermost block. -/
theorem close {frame : Frame} {outer : List Frame} {line : List Char}
    (pending : Pending allowBlanks path (frame :: outer) lines)
    (plays : (LineForm.ofLine allowBlanks line).blockPart? = some .close) :
    Pending allowBlanks path outer (lines ++ [line]) := by
  cases pending with
  | @opened _ _ before inside opening around opens opened branches =>
      rw [List.append_assoc, List.cons_append]
      refine around.append ?_
      have block : BlockPart.ofLines allowBlanks (opening :: (inside ++ [line])) =
          .opening :: (BlockPart.ofLines allowBlanks inside ++ [.close]) := by
        rw [← BlockPart.ofLines_concat plays]
        exact List.filterMap_cons_some opens
      rw [block]
      exact branches.closed

/-- **A line that does not fail leaves open the blocks that it has to leave open.** -/
theorem moves {nesting after : Nesting}
    (pending : Pending allowBlanks path nesting.frames lines) {line : List Char}
    (moved : Nesting.Moves (Processing.lineLocation path lines.length line) 0
      (LineForm.ofLine allowBlanks line).blockPart? nesting after) :
    Pending allowBlanks path after.frames (lines ++ [line]) := by
  obtain ⟨played, plays⟩ : ∃ played, (LineForm.ofLine allowBlanks line).blockPart? = played :=
    ⟨_, rfl⟩
  rw [plays] at moved
  cases moved with
  | ordinary =>
      refine pending.append ?_
      have nothing : BlockPart.ofLines allowBlanks [line] = [] := List.filterMap_cons_none plays
      rw [nothing]
      exact .empty
  | opening active holds => exact .opened pending plays rfl (.first .empty)
  | suppressed inactive => exact .opened pending plays rfl (.first .empty)
  | elseIf own turned =>
      obtain ⟨frame, outer, rfl, unseen, rfl⟩ := Nesting.elif_eq_ok.mp turned
      refine pending.goOn plays rfl fun branches => ?_
      simp only [unseen] at branches ⊢
      exact .elseIf branches .empty
  | otherwise own turned =>
      obtain ⟨frame, outer, rfl, unseen, rfl⟩ := Nesting.elseBranch_eq_ok.mp turned
      refine pending.goOn plays rfl fun branches => ?_
      rw [unseen] at branches
      exact .otherwise branches .empty
  | close own closed =>
      obtain ⟨outer, rfl, rfl⟩ := Nesting.pop_eq_ok.mp closed
      exact pending.close plays

end Pending

/-! ## The reading of a text -/

/-- Texts whose lines do not turn away, and fail for nothing but the blocks of the text. -/
structure Config.OnlyBlocksFail (config : Config) (tree : FileTree) (globals : Layer)
    (providers : List Provider) (path text : String) : Prop where
  /-- No line includes a file, leaves the text or excludes it. -/
  stays : ∀ line ∈ Text.lines text.toList,
    (LineForm.ofLine config.allowBlanks line).turnsAway = false
  /-- Wherever the reading comes to, a line that fails there fails for the open blocks. -/
  fails : ∀ {session after : Session} {number base : Nat} {line : List Char}
    {rest : List (List Char)} {cause : LineError},
    Processing.Reaches config tree (Processing.start globals providers path text)
      ⟨[⟨path, number, line :: rest, base⟩], session⟩ →
    session.processLine ⟨config, Processing.lineLocation path number line, base⟩ line =
      (after, .error cause) → ∃ imbalance, cause = .unbalanced imbalance

/-- The states of the reading of a text in which nothing turned away so far. -/
inductive Checking (allowBlanks : Bool) (path : String) (lines : List (List Char)) :
    Processing → Prop where
  /-- Some lines were read, and the others follow. -/
  | within {session : Session} {before rest : List (List Char)} (split : lines = before ++ rest)
      (pending : Pending allowBlanks path session.nesting.frames before) :
      Checking allowBlanks path lines ⟨[⟨path, before.length, rest, 0⟩], session⟩
  /-- All lines were read, and all blocks were closed. -/
  | behind {session : Session}
      (balanced : BlockPart.Balanced (BlockPart.ofLines allowBlanks lines)) :
      Checking allowBlanks path lines ⟨[], session⟩

namespace Checking

variable {config : Config} {tree : FileTree} {path : String} {lines : List (List Char)}

theorem start (globals : Layer) (providers : List Provider) (path text : String) :
    Checking config.allowBlanks path (Text.lines text.toList)
      (Processing.start globals providers path text) :=
  .within (List.nil_append _).symm (.none .empty)

/-- The next line does not turn away. -/
theorem flow_eq_next
    (stays : ∀ line ∈ lines, (LineForm.ofLine config.allowBlanks line).turnsAway = false)
    {session after : Session} {place : String} {number base : Nat} {line : List Char}
    {rest : List (List Char)} {outer : List OpenFile} {flow : Flow}
    (checking : Checking config.allowBlanks path lines
      ⟨⟨place, number, line :: rest, base⟩ :: outer, session⟩)
    (succeeded : session.processLine
      ⟨config, Processing.lineLocation place number line, base⟩ line = (after, .ok flow)) :
    flow = .next := by
  cases checking with
  | within split pending =>
      refine Session.flow_of_stays (stays line ?_) succeeded
      rw [split]
      exact List.mem_append_right _ List.mem_cons_self

/-- **Every step that leads on keeps this.** -/
theorem next
    (stays : ∀ line ∈ lines, (LineForm.ofLine config.allowBlanks line).turnsAway = false)
    {processing onward : Processing} (checking : Checking config.allowBlanks path lines processing)
    (leads : Processing.Transition config tree processing (.proceed onward)) :
    Checking config.allowBlanks path lines onward := by
  cases leads with
  | @close session file outer ended closed =>
      cases checking with
      | @within _ before rest split pending =>
          obtain rfl : rest = [] := ended
          have empty : session.nesting.frames = [] :=
            List.eq_nil_of_length_eq_zero (Nat.le_zero.mp closed)
          rw [empty] at pending
          cases pending with
          | none balanced =>
              rw [List.append_nil] at split
              exact .behind (split ▸ balanced)
  | @next session after path number base line rest outer outcome =>
      cases checking with
      | @within _ before _ split pending =>
          have read := pending.moves (Session.moves_of_processLine outcome)
          have onward : Checking config.allowBlanks path lines
              ⟨[⟨path, (before ++ [line]).length, rest, 0⟩], after⟩ :=
            .within (by rw [split, List.append_assoc, List.singleton_append]) read
          rwa [List.length_append, List.length_singleton] at onward
  | leave outcome => cases checking.flow_eq_next stays outcome
  | enter outcome room content => cases checking.flow_eq_next stays outcome

end Checking

/-- How the reading of a text ends that turns away nowhere and fails for nothing but its blocks. -/
inductive Verdict (allowBlanks : Bool) (path : String) (lines : List (List Char)) :
    Ending → Prop where
  /-- All blocks were closed. -/
  | balanced (balanced : BlockPart.Balanced (BlockPart.ofLines allowBlanks lines)) :
      Verdict allowBlanks path lines .complete
  /-- A line came behind which the blocks cannot be completed any more. -/
  | hopeless {before after : List (List Char)} {line : List Char} (cause : NestingError)
      (split : lines = before ++ line :: after)
      (possible : BlockPart.Extensible (BlockPart.ofLines allowBlanks before))
      (hopeless : ¬BlockPart.Extensible (BlockPart.ofLines allowBlanks (before ++ [line]))) :
      Verdict allowBlanks path lines
        (.failed (.line (Processing.lineLocation path before.length line)
          (.unbalanced (.refused cause))))
  /-- A block was open at the end. -/
  | unclosed {before inside : List (List Char)} {line : List Char} {lastSeen : Bool}
      (split : lines = before ++ line :: inside)
      (possible : BlockPart.Extensible (BlockPart.ofLines allowBlanks lines))
      (unbalanced : ¬BlockPart.Balanced (BlockPart.ofLines allowBlanks lines))
      (opens : (LineForm.ofLine allowBlanks line).blockPart? = some .opening)
      (branches : BlockPart.Inside lastSeen (BlockPart.ofLines allowBlanks inside)) :
      Verdict allowBlanks path lines
        (.failed (.line (Processing.lineLocation path before.length line) (.unbalanced .unclosed)))

namespace Config

variable {config : Config} {tree : FileTree} {globals : Layer} {providers : List Provider}
  {path text : String}

/-- The last step of the reading gives the verdict. -/
theorem OnlyBlocksFail.verdict (only : OnlyBlocksFail config tree globals providers path text) :
    Verdict config.allowBlanks path (Text.lines text.toList)
      ((Processing.start globals providers path text).run config tree).2 := by
  obtain ⟨reached, reaches, stops⟩ :=
    Processing.exists_last_step config tree (Processing.start globals providers path text)
  have checking : Checking config.allowBlanks path (Text.lines text.toList) reached :=
    reaches.keeps (Checking.start globals providers path text) fun _ _ checking leads =>
      checking.next only.stays leads
  have kind := Processing.transition_of_stop stops
  generalize (Processing.start globals providers path text).run config tree = ended at kind ⊢
  obtain ⟨last, ending⟩ := ended
  cases kind with
  | complete =>
      cases checking with
      | behind balanced => exact .balanced balanced
  | @unclosed session file outer frame ended innermost opened =>
      cases checking with
      | @within _ lines rest split pending =>
          obtain rfl : rest = [] := ended
          rw [split, List.append_nil]
          obtain ⟨outer, frames⟩ := List.head?_eq_some_iff.mp innermost
          rw [frames] at pending
          have possible := pending.extensible
          have unbalanced := pending.not_balanced
          cases pending with
          | opened around opens place branches =>
              rw [place]
              exact .unclosed rfl possible unbalanced opens branches
  | @failed session after _ _ _ line rest _ cause outcome =>
      cases checking with
      | @within _ before _ split pending =>
          obtain ⟨imbalance, rfl⟩ := only.fails reaches outcome
          obtain ⟨part, plays, refused, cause, rfl⟩ := Session.refused_of_processLine outcome
          exact .hopeless cause split pending.extensible (pending.not_extensible plays refused)
  | exclude outcome => cases checking.flow_eq_next only.stays outcome
  | tooDeep outcome => cases checking.flow_eq_next only.stays outcome
  | unreadable outcome => cases checking.flow_eq_next only.stays outcome

/-- Where the reading of a text comes to a failure for its blocks, no line has failed for another
cause. -/
theorem onlyBlocksFail_of_unbalanced
    (stays : ∀ line ∈ Text.lines text.toList,
      (LineForm.ofLine config.allowBlanks line).turnsAway = false)
    {location : Location} {imbalance : Imbalance}
    (unbalanced : (config.processText tree globals providers path text).outcome =
      .error (.line location (.unbalanced imbalance))) :
    OnlyBlocksFail config tree globals providers path text where
  stays := stays
  fails reaches failed := by
    refine ⟨imbalance, ?_⟩
    rw [processText, reaches.run_eq, Processing.run_of_error failed] at unbalanced
    cases unbalanced
    rfl

/-- **The balance of blocks is checked exactly.**  If no line of a text turns away, and its lines
fail for nothing but the blocks of the text, then the text fails for its blocks exactly where the
parts of its lines are not balanced, and has an output otherwise.  Where it fails, it fails at the
first line behind which no balanced sequence is possible any more, or else, if there is no such line,
at the line that opened the innermost block which is open at the end. -/
theorem blocks_checked (only : OnlyBlocksFail config tree globals providers path text) :
    let lines := Text.lines text.toList
    let parts := BlockPart.ofLines config.allowBlanks
    let outcome := (config.processText tree globals providers path text).outcome
    ((∃ location imbalance, outcome = .error (.line location (.unbalanced imbalance))) ↔
        ¬BlockPart.Balanced (parts lines)) ∧
      (BlockPart.Balanced (parts lines) → ∃ output, outcome = .ok (.text output)) ∧
      ∀ location imbalance, outcome = .error (.line location (.unbalanced imbalance)) →
        ∃ before line after, lines = before ++ line :: after ∧
          location = Processing.lineLocation path before.length line ∧
          ((BlockPart.Extensible (parts before) ∧ ¬BlockPart.Extensible (parts (before ++ [line])) ∧
              ∃ cause, imbalance = .refused cause) ∨
            (BlockPart.Extensible (parts lines) ∧
              (LineForm.ofLine config.allowBlanks line).blockPart? = some .opening ∧
              (∃ lastSeen, BlockPart.Inside lastSeen (parts after)) ∧ imbalance = .unclosed)) := by
  intro lines parts outcome
  have verdict := only.verdict
  obtain ⟨last, ending, ran⟩ : ∃ last ending,
    (Processing.start globals providers path text).run config tree = (last, ending) := ⟨_, _, rfl⟩
  have found : outcome = (FileResult.ofEnding config text last.session ending).outcome := by
    simp only [outcome, processText, ran]
  rw [ran] at verdict
  rw [found]
  cases verdict with
  | balanced balanced =>
      refine ⟨⟨?_, fun unbalanced => absurd balanced unbalanced⟩, fun _ => ⟨_, rfl⟩, ?_⟩
      · rintro ⟨_, _, ⟨⟩⟩
      · rintro _ _ ⟨⟩
  | @hopeless before after line cause split possible hopeless =>
      have unbalanced : ¬BlockPart.Balanced (parts lines) := by
        intro balanced
        have whole : parts lines = parts (before ++ [line]) ++ parts after := by
          rw [← BlockPart.ofLines_append, List.append_assoc, List.singleton_append, ← split]
        exact hopeless (whole ▸ balanced.extensible).front
      refine ⟨⟨fun _ => unbalanced, fun _ => ⟨_, _, rfl⟩⟩, fun balanced => absurd balanced unbalanced,
        fun location imbalance failed => ?_⟩
      cases failed
      exact ⟨before, line, after, split, rfl, .inl ⟨possible, hopeless, cause, rfl⟩⟩
  | @unclosed before inside line lastSeen split possible unbalanced opens branches =>
      refine ⟨⟨fun _ => unbalanced, fun _ => ⟨_, _, rfl⟩⟩, fun balanced => absurd balanced unbalanced,
        fun location imbalance failed => ?_⟩
      cases failed
      exact ⟨before, line, inside, split, rfl, .inr ⟨possible, opens, ⟨lastSeen, branches⟩, rfl⟩⟩

/-- A text with an alternative behind the last branch of its block. -/
def lateAlternativeText : String := "//#ifdef a\n//#else\n//#elif b"

/-- The text fails for its blocks, and so the parts of its lines are not balanced. -/
theorem blocks_checked_lateAlternative :
    OnlyBlocksFail {} (FileTree.empty []) Layer.empty [] "a.txt" lateAlternativeText ∧
      (processText {} (FileTree.empty []) Layer.empty [] "a.txt" lateAlternativeText).outcome =
        .error (.line ⟨"a.txt", 3, "//#elif b"⟩ (.unbalanced (.refused .elifAfterElse))) ∧
      ¬BlockPart.Balanced (BlockPart.ofLines false (Text.lines lateAlternativeText.toList)) := by
  have unbalanced : (processText {} (FileTree.empty []) Layer.empty [] "a.txt"
      lateAlternativeText).outcome =
        .error (.line ⟨"a.txt", 3, "//#elif b"⟩ (.unbalanced (.refused .elifAfterElse))) := by cbv
  have only : OnlyBlocksFail {} (FileTree.empty []) Layer.empty [] "a.txt" lateAlternativeText :=
    onlyBlocksFail_of_unbalanced (by decide) unbalanced
  exact ⟨only, unbalanced, (blocks_checked only).1.mp ⟨_, _, unbalanced⟩⟩

end Config

end CommentDirectives
