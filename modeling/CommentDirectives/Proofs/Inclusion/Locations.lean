import CommentDirectives.Proofs.Blocks.Checking
import CommentDirectives.Proofs.Inclusion.Ownership
import CommentDirectives.Proofs.Processing.Bounds

/-!
# Where failures are located

A failure speaks of a line of the text or of a file that was included (`Config.location_genuine`).
It is the line that is read when the run stops, but for a block that is open at the end of its file:
that failure speaks of a line that was read long before, perhaps with other files in between.  Its
place was kept with the block.  So all blocks that a file has open are followed together with the
lines of that very file which were read so far (`Tracked`): each block stands for the line that
opened it, and the lines behind that one are branches of the block.
-/

namespace CommentDirectives

set_option autoImplicit false

/-- The files that the reading of a text opens: the text itself, and every file that a line includes
which is come to. -/
inductive Processing.Opens (config : Config) (tree : FileTree) (globals : Layer)
    (providers : List Provider) (path text : String) : String → String → Prop where
  | main : Opens config tree globals providers path text path text
  | included {session after : Session} {including target content : String} {number base : Nat}
      {line : List Char} {rest : List (List Char)} {outer : List OpenFile}
      (reaches : Processing.Reaches config tree (Processing.start globals providers path text)
        ⟨⟨including, number, line :: rest, base⟩ :: outer, session⟩)
      (outcome : session.processLine
        ⟨config, Processing.lineLocation including number line, base⟩ line =
          (after, .ok (.include target)))
      (room : outer.length < includeLimit)
      (read : tree.readText (Processing.includedPath including target) = .ok content) :
      Opens config tree globals providers path text (Processing.includedPath including target)
        content

/-! ## Files with their blocks -/

/-- An open file of a given kind, some lines of which were read, with the blocks that these lines
leave open. -/
inductive Tracked (allowBlanks : Bool) (opens : String → String → Prop) :
    OpenFile → List Frame → Prop where
  | within {path content : String} {before rest : List (List Char)} {base : Nat}
      {own : List Frame} (opened : opens path content)
      (split : Text.lines content.toList = before ++ rest)
      (pending : Pending allowBlanks path own before) :
      Tracked allowBlanks opens ⟨path, before.length, rest, base⟩ own

/-- No line of a file was read at its start, and no block is open. -/
theorem Tracked.ofText {allowBlanks : Bool} {opens : String → String → Prop}
    {path content : String} (opened : opens path content) (base : Nat) :
    Tracked allowBlanks opens (OpenFile.ofText path content base) [] :=
  .within opened (List.nil_append _).symm (.none .empty)

/-- **Lines keep track of the blocks that they open.** -/
theorem keptByLines_tracked (config : Config) (opens : String → String → Prop) :
    KeptByLines config (Tracked config.allowBlanks opens) := by
  intro path number base line rest own own' tracked moved
  cases tracked with
  | @within _ content before _ _ _ opened split pending =>
      have onward : Tracked config.allowBlanks opens
          ⟨path, (before ++ [line]).length, rest, base⟩ own' :=
        .within opened (by rw [split, List.append_assoc, List.singleton_append])
          (pending.moves moved)
      rwa [List.length_append, List.length_singleton] at onward

/-- The lines of the innermost file, by the one that is read next. -/
theorem Owned.exists_split {allowBlanks : Bool} {opens : String → String → Prop} {path : String}
    {number base : Nat} {line : List Char} {rest : List (List Char)} {outer : List OpenFile}
    {frames : List Frame}
    (owned : Owned (Tracked allowBlanks opens) (⟨path, number, line :: rest, base⟩ :: outer)
      frames) :
    ∃ content before, opens path content ∧
      Text.lines content.toList = before ++ line :: rest ∧ number = before.length := by
  obtain ⟨own, below, _, tracked, _⟩ := owned.parts
  cases tracked with
  | within opened split pending => exact ⟨_, _, opened, split, rfl⟩

/-! ## Failures -/

/-- How a failure is located, by the lines of the file that is read when the run stops. -/
inductive Located (allowBlanks : Bool) (lines : List (List Char)) (nesting : Nesting)
    (file : OpenFile) : Location → LineError → Prop where
  /-- The failure speaks of the line that is read. -/
  | present {before rest : List (List Char)} {line : List Char} {cause : LineError}
      (split : lines = before ++ line :: rest) (number : file.number = before.length)
      (next : file.rest = line :: rest) (other : cause ≠ .unbalanced .unclosed) :
      Located allowBlanks lines nesting file (Processing.lineLocation file.path before.length line)
        cause
  /-- The file has come to its end, and the failure speaks of the line that has opened the innermost
  block.  What stands behind that line does not close the block. -/
  | unclosed {before inside : List (List Char)} {line : List Char} {frame : Frame} {lastSeen : Bool}
      (split : lines = before ++ line :: inside) (ended : file.rest = [])
      (number : file.number = lines.length)
      (innermost : nesting.innermost? = some frame) (own : file.baseDepth < nesting.depth)
      (place : frame.opened = Processing.lineLocation file.path before.length line)
      (opening : (LineForm.ofLine allowBlanks line).blockPart? = some .opening)
      (branches : BlockPart.Inside lastSeen (BlockPart.ofLines allowBlanks inside)) :
      Located allowBlanks lines nesting file (Processing.lineLocation file.path before.length line)
        (.unbalanced .unclosed)

/-- The place of a line is that of one of the lines. -/
theorem Processing.lineLocation_genuine (path : String) {lines before rest : List (List Char)}
    {line : List Char} (split : lines = before ++ line :: rest) :
    let location := Processing.lineLocation path before.length line
    1 ≤ location.line ∧ location.line ≤ lines.length ∧
      lines[location.line - 1]? = some location.text.toList := by
  subst split
  refine ⟨Nat.succ_pos _, ?_, ?_⟩
  · simp only [lineLocation, List.length_append, List.length_cons]
    omega
  · simp [lineLocation]

/-- A line fails for its own reasons, not for a block that is open at the end of a file. -/
theorem Session.ne_unclosed_of_processLine {session after : Session} {context : LineContext}
    {line : List Char} {cause : LineError}
    (failed : session.processLine context line = (after, .error cause)) :
    cause ≠ .unbalanced .unclosed := by
  rintro rfl
  obtain ⟨_, _, _, _, refused⟩ := Session.refused_of_processLine failed
  cases refused

namespace Config

variable {config : Config} {tree : FileTree} {globals : Layer} {providers : List Provider}
  {path text : String}

/-- **Failures are located at genuine lines.**  Where a text fails at a place, the place is a line of
the text or of a file that was included, counted from one, and has the text of that line.  When the
run stops, that file is the innermost one, and the line is the one that is read then; only for a
block that is open at the end of the file, it is the line that has opened the block. -/
theorem location_genuine {location : Location} {cause : LineError}
    (failed : (config.processText tree globals providers path text).outcome =
      .error (.line location cause)) :
    ∃ content, Processing.Opens config tree globals providers path text location.file content ∧
      (1 ≤ location.line ∧ location.line ≤ (Text.lines content.toList).length ∧
        (Text.lines content.toList)[location.line - 1]? = some location.text.toList) ∧
      ∃ session file outer last,
        Processing.Reaches config tree (Processing.start globals providers path text)
          ⟨file :: outer, session⟩ ∧
        Processing.advance config tree ⟨file :: outer, session⟩ =
          .stop last (.failed (.line location cause)) ∧
        location.file = file.path ∧
        Located config.allowBlanks (Text.lines content.toList) session.nesting file location
          cause := by
  obtain ⟨reached, last, reaches, stops, _⟩ := exists_step_of_error failed
  have owned : Owned
      (Tracked config.allowBlanks (Processing.Opens config tree globals providers path text))
      reached.files reached.session.nesting.frames :=
    reaches.owned (keptByLines_tracked config _) (.ofText .main 0)
      fun reaches outcome room read => .ofText (.included reaches outcome room read) _
  cases Processing.transition_of_stop stops with
  | @unclosed session file outer frame ended innermost opened =>
      obtain ⟨own, below, frames, tracked, base, _⟩ := owned.parts
      cases tracked with
      | @within place content before rest height _ isOpened split pending =>
          obtain rfl : rest = [] := ended
          rw [List.append_nil] at split
          cases pending with
          | none balanced =>
              -- No block of the file is open, so that none can be left open.
              rw [Nesting.depth, frames, base] at opened
              exact absurd opened (Nat.lt_irrefl _)
          | @opened first others front inside line around opens there branches =>
              obtain rfl : first = frame := by
                rw [Nesting.innermost?, frames] at innermost
                exact Option.some.inj innermost
              rw [there] at stops ⊢
              exact ⟨content, isOpened, Processing.lineLocation_genuine _ split, session, _, outer,
                _, reaches, stops, rfl,
                .unclosed split rfl (congrArg List.length split).symm innermost opened there opens
                  branches⟩
  | @failed session after place number base line rest outer cause outcome =>
      obtain ⟨content, before, isOpened, split, rfl⟩ := owned.exists_split
      exact ⟨content, isOpened, Processing.lineLocation_genuine _ split, session, _, outer, _,
        reaches, stops, rfl,
        .present split rfl rfl (Session.ne_unclosed_of_processLine outcome)⟩
  | @tooDeep session after place target number base line rest outer outcome deep =>
      obtain ⟨content, before, isOpened, split, rfl⟩ := owned.exists_split
      exact ⟨content, isOpened, Processing.lineLocation_genuine _ split, session, _, outer, _,
        reaches, stops, rfl, .present split rfl rfl (by simp)⟩
  | @unreadable session after place target number base line rest outer cause outcome room read =>
      obtain ⟨content, before, isOpened, split, rfl⟩ := owned.exists_split
      exact ⟨content, isOpened, Processing.lineLocation_genuine _ split, session, _, outer, _,
        reaches, stops, rfl, .present split rfl rfl (by simp)⟩

/-- A tree with a file that leaves a block open. -/
def unclosedTree : FileTree := .ofFile "b.txt" "x\n//#ifdef a\ny"

/-- The block that the included file leaves open is located there, not in the text. -/
theorem location_genuine_unclosed :
    let text := "//#include \"b.txt\"\nz"
    let location : Location := ⟨"b.txt", 2, "//#ifdef a"⟩
    (({} : Config).processText unclosedTree Layer.empty [] "a.txt" text).outcome =
        .error (.line location (.unbalanced .unclosed)) ∧
      ∃ content, Processing.Opens {} unclosedTree Layer.empty [] "a.txt" text "b.txt" content ∧
        (Text.lines content.toList)[1]? = some "//#ifdef a".toList := by
  intro text location
  have failed : (({} : Config).processText unclosedTree Layer.empty [] "a.txt" text).outcome =
      .error (.line location (.unbalanced .unclosed)) := by
    unfold text location
    cbv
  obtain ⟨content, opens, ⟨_, _, line⟩, _⟩ := location_genuine failed
  exact ⟨failed, content, opens, line⟩

end Config

end CommentDirectives
