import Mathlib
import CommentDirectives.Proofs.Comments.Remains
import CommentDirectives.Proofs.Processing.LastTerminator
import CommentDirectives.Proofs.Session.OpenedComment

/-!
# Ordinary text

A line is ordinary if it is text without marked expressions and, where comments are removed, without
the marks that start them (`Config.Ordinary`).  A text of such lines passes through: every line is
put into the output as it stands, and nothing else changes (`Processing.run_of_ordinary`), so the
text that comes out is made of the same lines with the terminator of the configuration behind each
(`Config.processText_of_ordinary`).

Cutting a text into lines and putting line feeds behind them are inverse to each other where no
carriage return stands in front of a line feed (`Text.terminated_lines`).  Then the text comes out
unchanged, unless its last line has no terminator and gets one.
-/

namespace CommentDirectives

set_option autoImplicit false

/-! ## Lines and their terminators -/

namespace Text

/-- Some lines with a terminator behind each; the last one is left bare where that is asked for. -/
def terminated (terminator : List Char) (bare : Bool) : List (List Char) → List Char
  | [] => []
  | [last] => if bare then last else last ++ terminator
  | line :: next :: rest => line ++ terminator ++ terminated terminator bare (next :: rest)

/-- The text of a result is made of the entries of the output with their terminators. -/
theorem render_eq_terminated (config : Config) (source : String) (entries : List (List Char)) :
    FileResult.render config source entries =
      String.ofList (terminated config.terminator.toList
        (config.careForLastTerminator && FileResult.lacksLastTerminator source) entries) := by
  rw [FileResult.render]
  congr 1
  generalize (config.careForLastTerminator && FileResult.lacksLastTerminator source) = bare
  cases entries with
  | nil => rfl
  | cons first rest =>
      dsimp only [List.isEmpty_cons, Bool.false_or]
      induction rest generalizing first with
      | nil => cases bare <;> simp [terminated]
      | cons second rest ih =>
          have onward := ih second
          rw [terminated, ← onward, List.intercalate_cons_cons]
          split <;> simp only [List.append_assoc]

/-- Only a text without characters has no lines. -/
theorem lines_eq_nil {text : List Char} : lines text = [] ↔ text = [] := by
  refine ⟨fun none => ?_, fun empty => by rw [empty]; rfl⟩
  unfold lines at none
  split at none
  · rfl
  · cases none
  · cases none
  · split at none <;> cases none

/-- A first line grows by a character in front of it. -/
theorem terminated_cons_cons (terminator : List Char) (bare : Bool) (character : Char)
    (line : List Char) (rest : List (List Char)) :
    terminated terminator bare ((character :: line) :: rest) =
      character :: terminated terminator bare (line :: rest) := by
  cases rest with
  | nil => cases bare <;> rfl
  | cons next rest => rfl

/-- What a text ends with is told by what follows its first character, if anything does. -/
theorem endsWithLineFeed_cons {character : Char} {rest : List Char} (more : rest ≠ []) :
    endsWithLineFeed (character :: rest) = endsWithLineFeed rest := by
  cases rest with
  | nil => exact absurd rfl more
  | cons next rest => rfl

/-- **A text is its lines with line feeds behind them**, but behind the last one if it has none
there, where no carriage return stands in front of a line feed. -/
theorem terminated_lines {text : List Char} (unreturned : ¬ ['\r', '\n'] <:+: text) :
    terminated ['\n'] (!endsWithLineFeed text) (lines text) = text := by
  fun_induction lines text with
  | case1 => rfl
  | case2 rest ih =>
      have onward := ih fun inside => unreturned (List.infix_cons inside)
      cases rest with
      | nil => rfl
      | cons next rest =>
          have several : lines (next :: rest) ≠ [] :=
            fun none => List.cons_ne_nil _ _ (lines_eq_nil.mp none)
          obtain ⟨first, following, split⟩ := List.exists_cons_of_ne_nil several
          rw [endsWithLineFeed_cons (List.cons_ne_nil _ _), split, terminated, ← split, onward]
          rfl
  | case3 rest ih => exact absurd ⟨[], rest, rfl⟩ unreturned
  | case4 character rest apart _ ended ih =>
      obtain rfl := lines_eq_nil.mp ended
      have bare : endsWithLineFeed [character] = false :=
        beq_eq_false_iff_ne.mpr fun same => apart (Option.some.inj same)
      rw [bare]
      rfl
  | case5 character rest apart _ first following split ih =>
      have onward := ih fun inside => unreturned (List.infix_cons inside)
      have more : rest ≠ [] := fun empty => by
        rw [lines_eq_nil.mpr empty] at split
        cases split
      rw [terminated_cons_cons, endsWithLineFeed_cons more, ← split, onward]

end Text

/-! ## Lines -/

/-- A line of text without marked expressions and, where comments are removed, without the marks
that start them. -/
structure Config.Ordinary (config : Config) (line : List Char) : Prop where
  plain : LineForm.ofLine config.allowBlanks line = .plain
  unmarked : ¬ Substitution.opening <:+: line
  uncommented : config.keepComments = true ∨
    ¬ ['/', '/'] <:+: line ∧ ¬ ['/', '*'] <:+: line

/-- Nothing is removed from a line without the marks that start comments, read outside block
comments. -/
theorem Comments.not_removed_of_uncommented {mode : Comments.Mode} {line : List Char}
    (visible : mode ≠ .block) (lineMark : ¬ ['/', '/'] <:+: line)
    (blockMark : ¬ ['/', '*'] <:+: line) : (Comments.scan mode line).removed = false := by
  fun_induction Comments.scan mode line with
  | case1 | case2 | case3 => exact absurd rfl visible
  | case4 | case7 => rfl
  | case8 rest => exact absurd ⟨[], rest, rfl⟩ lineMark
  | case9 rest ih => exact absurd ⟨[], rest, rfl⟩ blockMark
  | case5 mark escaped rest ih =>
      exact ih visible (fun inside => lineMark (List.infix_cons (List.infix_cons inside)))
        fun inside => blockMark (List.infix_cons (List.infix_cons inside))
  | case6 mark character rest single ih =>
      exact ih (by split <;> simp) (fun inside => lineMark (List.infix_cons inside))
        fun inside => blockMark (List.infix_cons inside)
  | case10 character rest line block ih =>
      exact ih (by split <;> simp) (fun inside => lineMark (List.infix_cons inside))
        fun inside => blockMark (List.infix_cons inside)

/-- **An ordinary line is put into the output as it stands**, where lines count and no block comment
is open. -/
theorem Session.processLine_of_ordinary {session : Session} {config : Config} {line : List Char}
    (ordinary : config.Ordinary line) (active : session.isActive = true)
    (closed : session.inBlock = false) (location : Location) (base : Nat) :
    session.processLine ⟨config, location, base⟩ line = (session.write line, .ok .next) := by
  have written : session.writeText ⟨config, location, base⟩ line = session.write line := by
    cases removal : config.keepComments with
    | true => rw [writeText, if_pos removal]
    | false =>
        obtain ⟨lineMark, blockMark⟩ :=
          ordinary.uncommented.resolve_left (Bool.eq_false_iff.mp removal)
        have free : Comments.strip session.inBlock line = (line, false) := by
          rw [closed]
          exact Comments.free_of_not_removed
            (Comments.not_removed_of_uncommented (by decide) lineMark blockMark)
        have opened : session.openedBehind ⟨config, location, base⟩ line =
            session.commentOpened := by
          rw [openedBehind, free, Bool.and_false, if_neg Bool.false_ne_true]
        rw [writeText_of_removal removal, free, opened, Bool.and_not_self,
          if_neg Bool.false_ne_true, ← closed]
  simp only [processLine, ordinary.plain, if_pos active, substitute_of_unmarked ordinary.unmarked]
  exact congrArg (fun after => (after, Except.ok Flow.next)) written

/-! ## Texts -/

/-- **Ordinary lines pass through**: all of them are put into the output, and nothing else
changes. -/
theorem Processing.run_of_ordinary {config : Config} {lines : List (List Char)}
    (ordinary : ∀ line ∈ lines, config.Ordinary line) (tree : FileTree) (path : String)
    (number : Nat) (session : Session) (nesting : session.nesting = Nesting.empty)
    (closed : session.inBlock = false) :
    run config tree ⟨[⟨path, number, lines, 0⟩], session⟩ =
      (⟨[], { session with output := session.output ++ lines.toArray }⟩, .complete) := by
  induction lines generalizing number session with
  | nil =>
      rw [run_of_complete rfl nesting]
      simp
  | cons line rest ih =>
      obtain ⟨first, others⟩ := List.forall_mem_cons.mp ordinary
      have active : session.isActive = true := by
        rw [Session.isActive, nesting]
        rfl
      have onward := ih others (number + 1) (session.write line) nesting closed
      rw [run_of_next (Session.processLine_of_ordinary first active closed _ 0), onward]
      simp [Session.write]

/-- **Ordinary text passes through.**  A text of ordinary lines comes out as its lines with the
terminator of the configuration behind each, but for the last one where the text has none there and
the configuration cares for that.  So it comes out unchanged if the terminator is a line feed, no
carriage return stands in front of a line feed, and the text is empty, ends with a line feed, or has
its last line left bare.  Nothing is reported, and no variable changes. -/
theorem Config.processText_of_ordinary {config : Config} {text : String}
    (ordinary : ∀ line ∈ Text.lines text.toList, config.Ordinary line) (tree : FileTree)
    (globals : Layer) (providers : List Provider) (path : String) :
    config.processText tree globals providers path text =
        ⟨.ok (.text (String.ofList (Text.terminated config.terminator.toList
            (config.careForLastTerminator && FileResult.lacksLastTerminator text)
            (Text.lines text.toList)))),
          { globals := globals, providers := providers
            output := (Text.lines text.toList).toArray }⟩ ∧
      (config.terminator = "\n" → ¬ ['\r', '\n'] <:+: text.toList →
        text = "" ∨ Text.endsWithLineFeed text.toList = true ∨
          config.careForLastTerminator = true →
        (config.processText tree globals providers path text).outcome = .ok (.text text)) := by
  have ran := Processing.run_of_ordinary ordinary tree path 0
    { globals := globals, providers := providers } rfl rfl
  have result : config.processText tree globals providers path text =
      ⟨.ok (.text (String.ofList (Text.terminated config.terminator.toList
          (config.careForLastTerminator && FileResult.lacksLastTerminator text)
          (Text.lines text.toList)))),
        { globals := globals, providers := providers
          output := (Text.lines text.toList).toArray }⟩ := by
    rw [processText, Processing.start, OpenFile.ofText, ran]
    simp only [FileResult.ofEnding, Text.render_eq_terminated, FileResult.reportOpenComment,
      List.append_toArray, List.nil_append]
  refine ⟨result, fun lineFeed unreturned ends => ?_⟩
  have inverse : Text.terminated config.terminator.toList
      (config.careForLastTerminator && FileResult.lacksLastTerminator text)
      (Text.lines text.toList) = text.toList := by
    by_cases empty : text = ""
    · rw [empty]
      rfl
    · have bare : (config.careForLastTerminator && FileResult.lacksLastTerminator text) =
          !Text.endsWithLineFeed text.toList := by
        rw [FileResult.lacksLastTerminator, String.isEmpty_eq_false_iff.mpr empty]
        rcases ends.resolve_left empty with ended | cares
        · rw [ended]
          simp
        · rw [cares]
          simp
      rw [bare, lineFeed]
      exact Text.terminated_lines unreturned
  rw [result, inverse, String.ofList_toList]

/-- A text with blank lines, an open quote, a lone carriage return, a slash and a star that stand
apart, and no last terminator. -/
def ordinaryText : String := "\n \t\n\"x' / *\ry\n # /\n\nlast"

/-- Comments are removed from this text, and it comes out unchanged where the last terminator is
cared for. -/
theorem Config.processText_ordinaryText :
    let config : Config := { careForLastTerminator := true }
    (∀ line ∈ Text.lines ordinaryText.toList, config.Ordinary line) ∧
      ¬ ['\r', '\n'] <:+: ordinaryText.toList ∧
      (config.processText (FileTree.empty []) Layer.empty [] "a.txt" ordinaryText).outcome =
        .ok (.text ordinaryText) := by
  intro config
  have ordinary : ∀ line ∈ Text.lines ordinaryText.toList, config.Ordinary line := by
    have plain : ∀ line ∈ Text.lines ordinaryText.toList,
        LineForm.ofLine config.allowBlanks line = .plain := by decide
    have unmarked : ∀ line ∈ Text.lines ordinaryText.toList,
        ¬ Substitution.opening <:+: line := by decide
    have uncommented : ∀ line ∈ Text.lines ordinaryText.toList,
        ¬ ['/', '/'] <:+: line ∧ ¬ ['/', '*'] <:+: line := by decide
    exact fun line inside =>
      ⟨plain line inside, unmarked line inside, .inr (uncommented line inside)⟩
  have unreturned : ¬ ['\r', '\n'] <:+: ordinaryText.toList := by decide
  obtain ⟨-, unchanged⟩ :=
    processText_of_ordinary ordinary (FileTree.empty []) Layer.empty [] "a.txt"
  exact ⟨ordinary, unreturned, unchanged rfl unreturned (.inr (.inr rfl))⟩

end CommentDirectives
