import CommentDirectives.Proofs.Comments.Openings
import CommentDirectives.Proofs.Processing.Entries
import CommentDirectives.Proofs.Session.OpenedComment

/-!
# Block comments that are never closed

A block comment that is open behind some lines was opened on one of them, and none of the lines
behind that one has closed it (`Processing.OpenedIn`).  There is only one such line
(`Processing.OpenedIn.unique`), also where files are included in between and where lines do not
count.

If a block comment is open when all lines are read, one warning is given, and otherwise none
(`Config.openComment_reported`).  The place that it names is the line on which the comment was
opened, if that line was read outside block comments.  A line that closes a block comment and opens
another one does not change the remembered place, so that the warning then names an earlier line, on
which another comment was opened that has been closed since (`Config.openComment_misreported`).
-/

namespace CommentDirectives

set_option autoImplicit false

/-! ## Lines that lose their comments -/

namespace Session

/-- A line of text loses its comments where lines count; its marked expressions are replaced
first. -/
structure Strips (session : Session) (context : LineContext) (line text : List Char) : Prop where
  removal : context.config.keepComments = false
  active : session.isActive = true
  form : LineForm.ofLine context.config.allowBlanks line = .plain
  substituted : session.substitute context line = .ok text

/-- A session is in a block comment as another one is, with the same place where it was opened. -/
structure SameComment (left right : Session) : Prop where
  inBlock : right.inBlock = left.inBlock
  commentOpened : right.commentOpened = left.commentOpened

variable {session after : Session} {context : LineContext} {line text : List Char}

theorem SameComment.trans {first second third : Session} (front : first.SameComment second)
    (back : second.SameComment third) : first.SameComment third :=
  ⟨back.inBlock.trans front.inBlock, back.commentOpened.trans front.commentOpened⟩

theorem sameComment_skip (session : Session) (config : Config) :
    session.SameComment (session.skip config) := by
  unfold skip
  split <;> exact ⟨rfl, rfl⟩

theorem sameComment_skipLines (session : Session) (config : Config) (count : Nat) :
    session.SameComment (session.skipLines config count) := by
  induction count with
  | zero => exact ⟨rfl, rfl⟩
  | succ count ih => exact ih.trans (sameComment_skip _ config)

theorem sameComment_change {changed : Except LineError Session}
    (kept : ∀ after, changed = .ok after → session.SameComment after) :
    session.SameComment (session.change changed).1 := by
  cases changed with
  | error cause => exact ⟨rfl, rfl⟩
  | ok after => exact kept after rfl

/-- Behind its line, a step does not change the comment. -/
theorem Continues.sameComment {config : Config} (continues : session.Continues config after) :
    session.SameComment after := by
  cases continues with
  | same | reported => exact ⟨rfl, rfl⟩
  | skipped nesting count =>
      have skipped := sameComment_skipLines { session with nesting := nesting } config count
      exact ⟨skipped.inBlock, skipped.commentOpened⟩

/-- Directives have nothing to do with comments. -/
theorem Effect.sameComment {directive : Directive} {tail : List Char}
    (effect : session.Effect context directive tail after) : session.SameComment after := by
  cases effect <;> exact ⟨rfl, rfl⟩

theorem sameComment_followDirective (session : Session) (context : LineContext) (keyword : String)
    (tail : List Char) :
    session.SameComment (session.followDirective context keyword tail).1 := by
  unfold followDirective
  split
  · exact ⟨rfl, rfl⟩
  · next directive _ =>
    split
    · have kept := (effect_of_perform
        (session.report .debug "directive"
          [("directive", directive.keyword), ("file", context.location.file),
            ("line", toString context.location.line)]) context directive tail).sameComment
      exact ⟨kept.inBlock, kept.commentOpened⟩
    · exact ⟨rfl, rfl⟩

/-- **A line that loses its comments** leads out of a block comment or into one as the reader of
comments finds. -/
theorem Strips.comment (strips : session.Strips context line text) :
    (session.processLine context line).1.inBlock = (Comments.strip session.inBlock text).2 ∧
      (session.processLine context line).1.commentOpened = session.openedBehind context text := by
  have written : (session.processLine context line).1 = session.writeText context text := by
    simp only [processLine, strips.form, strips.substituted]
    rw [if_pos strips.active]
    rfl
  rw [written, writeText_of_removal strips.removal]
  dsimp only
  split
  · obtain ⟨inBlock, opened⟩ := sameComment_skip
      { session with
        inBlock := (Comments.strip session.inBlock text).2
        commentOpened := session.openedBehind context text } context.config
    exact ⟨inBlock, opened⟩
  · exact ⟨rfl, rfl⟩

/-- **Any other line** leaves everything about comments as it is. -/
theorem sameComment_of_unstripped (unstripped : ∀ text, ¬ session.Strips context line text) :
    session.SameComment (session.processLine context line).1 := by
  have skipped := sameComment_skip session context.config
  unfold processLine
  cases form : LineForm.ofLine context.config.allowBlanks line with
  | directive keyword tail =>
      exact skipped.trans (sameComment_followDirective _ context keyword tail)
  | uncomment indent text verbatim =>
      dsimp only
      split
      · refine sameComment_change fun after succeeded => ?_
        obtain ⟨body, _, rfl⟩ := exists_of_map_eq_ok succeeded
        exact ⟨rfl, rfl⟩
      · exact skipped
  | plain =>
      dsimp only
      split
      · next active =>
        refine sameComment_change fun after succeeded => ?_
        obtain ⟨text, substituted, rfl⟩ := exists_of_map_eq_ok succeeded
        cases removal : context.config.keepComments with
        | true =>
            rw [writeText, if_pos removal]
            exact ⟨rfl, rfl⟩
        | false => exact absurd ⟨removal, active, form, substituted⟩ (unstripped text)
      · exact skipped

end Session

/-! ## The line that opened a comment -/

namespace Processing

open Comments (closing LeavesOpen)

variable {config : Config} {tree : FileTree}

/-- The next line of a state loses its comments. -/
inductive Strips (config : Config) (processing : Processing) (context : LineContext)
    (text : List Char) : Prop where
  | intro {line : List Char} (reads : processing.Reads config context line)
      (strips : processing.session.Strips context line text) : Strips config processing context text

theorem Strips.unique {processing : Processing} {context context' : LineContext}
    {text text' : List Char} (strips : processing.Strips config context text)
    (strips' : processing.Strips config context' text') : context = context' ∧ text = text' := by
  obtain ⟨reads, strips⟩ := strips
  obtain ⟨reads', strips'⟩ := strips'
  obtain ⟨rfl, rfl⟩ := reads.unique reads'
  exact ⟨rfl, Except.ok.inj (strips.substituted.symm.trans strips'.substituted)⟩

/-- What a step does to the comment. -/
theorem comment_of_proceed {processing next : Processing}
    (leads : advance config tree processing = .proceed next) :
    (∃ context text, processing.Strips config context text ∧
        next.session.inBlock = (Comments.strip processing.session.inBlock text).2 ∧
        next.session.commentOpened = processing.session.openedBehind context text) ∨
      (∀ context text, ¬ processing.Strips config context text) ∧
        processing.session.SameComment next.session := by
  cases leavesWith_of_transition (transition_of_proceed leads) with
  | unread nothing same =>
      refine .inr ⟨fun context text strips => ?_, ?_⟩
      · obtain ⟨reads, _⟩ := strips
        exact nothing _ _ reads
      · change processing.session.SameComment (Step.session (.proceed next))
        rw [same]
        exact ⟨rfl, rfl⟩
  | @read context line reads continues =>
      have behind := continues.sameComment
      by_cases stripped : ∃ text, processing.session.Strips context line text
      · obtain ⟨text, strips⟩ := stripped
        obtain ⟨inBlock, opened⟩ := strips.comment
        exact .inl ⟨context, text, .intro reads strips, behind.inBlock.trans inBlock,
          behind.commentOpened.trans opened⟩
      · refine .inr ⟨fun context' text strips => ?_, ?_⟩
        · obtain ⟨reads', strips⟩ := strips
          obtain ⟨rfl, rfl⟩ := reads.unique reads'
          exact stripped ⟨text, strips⟩
        · exact (Session.sameComment_of_unstripped fun text strips =>
            stripped ⟨text, strips⟩).trans behind

/-- A block comment is open that was opened on the line that loses its comments in an earlier state:
that line has left it open, and no line behind it has closed it. -/
inductive OpenedIn (config : Config) (tree : FileTree) (opener : Processing) (context : LineContext)
    (text : List Char) : Processing → Prop where
  | opened {next : Processing} (strips : opener.Strips config context text)
      (leaves : LeavesOpen (.atStart opener.session.inBlock) text)
      (leads : advance config tree opener = .proceed next) :
      OpenedIn config tree opener context text next
  | stays {reached next : Processing} (before : OpenedIn config tree opener context text reached)
      (unclosed : ∀ context' text', reached.Strips config context' text' → ¬ closing <:+: text')
      (leads : advance config tree reached = .proceed next) :
      OpenedIn config tree opener context text next

/-! ## There is one such line -/

/-- A state in front of another one. -/
abbrev Precedes (config : Config) (tree : FileTree) : Processing → Processing → Prop :=
  Relation.TransGen fun processing next => advance config tree processing = .proceed next

/-- No state is come to again. -/
theorem not_precedes_self (processing : Processing) :
    ¬ Precedes config tree processing processing := by
  induction processing using ofSteps config tree with
  | back processing ih =>
      intro cycle
      obtain ⟨next, leads, onward⟩ := Relation.TransGen.head'_iff.mp cycle
      exact ih next leads (.tail' onward leads)

/-- What is behind a state is behind the next one, or is that one. -/
theorem Precedes.of_proceed {processing next reached : Processing}
    (precedes : Precedes config tree processing reached)
    (leads : advance config tree processing = .proceed next) :
    Reaches config tree next reached := by
  obtain ⟨next', leads', onward⟩ := Relation.TransGen.head'_iff.mp precedes
  obtain rfl : next = next' := Step.proceed.inj (leads.symm.trans leads')
  exact onward

namespace OpenedIn

variable {opener opener' last : Processing} {context context' : LineContext}
  {text text' : List Char}

theorem origin (opened : OpenedIn config tree opener context text last) :
    opener.Strips config context text ∧ LeavesOpen (.atStart opener.session.inBlock) text := by
  induction opened with
  | opened strips leaves leads => exact ⟨strips, leaves⟩
  | stays before unclosed leads ih => exact ih

theorem precedes (opened : OpenedIn config tree opener context text last) :
    Precedes config tree opener last := by
  induction opened with
  | opened strips leaves leads => exact .single leads
  | stays before unclosed leads ih => exact ih.tail leads

/-- A block comment is open indeed. -/
theorem inBlock (opened : OpenedIn config tree opener context text last) :
    last.session.inBlock = true := by
  induction opened with
  | opened strips leaves leads =>
      rcases comment_of_proceed leads with ⟨context', text', strips', inBlock, _⟩ | ⟨none, _⟩
      · obtain ⟨rfl, rfl⟩ := strips.unique strips'
        rw [inBlock]
        exact Comments.inBlock_iff.mpr (.inr leaves)
      · exact absurd strips (none _ _)
  | stays before unclosed leads ih =>
      rcases comment_of_proceed leads with ⟨context', text', strips', inBlock, _⟩ | ⟨_, same⟩
      · rw [inBlock, ih]
        exact Comments.inBlock_of_unclosed (unclosed _ _ strips')
      · exact same.inBlock.trans ih

/-- In between, the comment is open in every state, and no line closes it. -/
theorem between (opened : OpenedIn config tree opener context text last) {other : Processing}
    (behind : Precedes config tree opener other) (before : Precedes config tree other last) :
    other.session.inBlock = true ∧
      ∀ context text, other.Strips config context text → ¬ closing <:+: text := by
  induction opened with
  | @opened next strips leaves leads =>
      exact absurd (.trans_right (behind.of_proceed leads) before) (not_precedes_self next)
  | @stays reached next earlier unclosed leads ih =>
      rcases Reaches.total earlier.precedes.to_reflTransGen behind.to_reflTransGen with
        onward | onward
      · rcases onward.of_proceed leads with rfl | onward
        · exact ⟨earlier.inBlock, unclosed⟩
        · exact absurd (.trans_right onward before) (not_precedes_self next)
      · rcases Relation.reflTransGen_iff_eq_or_transGen.mp onward with rfl | onward
        · exact ⟨earlier.inBlock, unclosed⟩
        · exact ih onward

/-- No other line behind the opener opened the comment. -/
theorem not_precedes (opened : OpenedIn config tree opener context text last)
    (opened' : OpenedIn config tree opener' context' text' last) :
    ¬ Precedes config tree opener opener' := by
  intro behind
  obtain ⟨inside, unclosed⟩ := opened.between behind opened'.precedes
  obtain ⟨strips, leaves⟩ := opened'.origin
  rw [inside] at leaves
  exact unclosed _ _ strips (Comments.closing_of_leavesOpen leaves)

/-- **There is only one line on which the open comment was opened.** -/
theorem unique {first : Processing} (opened : OpenedIn config tree opener context text last)
    (opened' : OpenedIn config tree opener' context' text' last)
    (reaches : Reaches config tree first opener) (reaches' : Reaches config tree first opener') :
    opener = opener' ∧ context = context' ∧ text = text' := by
  have same : opener = opener' := by
    rcases reaches.total reaches' with onward | onward
    · exact ((Relation.reflTransGen_iff_eq_or_transGen.mp onward).resolve_right
        (opened.not_precedes opened')).symm
    · exact (Relation.reflTransGen_iff_eq_or_transGen.mp onward).resolve_right
        (opened'.not_precedes opened)
  subst same
  exact ⟨rfl, opened.origin.1.unique opened'.origin.1⟩

end OpenedIn

/-! ## The place that is remembered -/

/-- The place that is remembered for the comment that a line has opened: that of the line, if it was
read outside block comments, and otherwise the one for the comment in which it was read. -/
inductive Remembered (config : Config) (tree : FileTree) :
    Processing → LineContext → Location → Prop where
  | outside {opener : Processing} (outside : opener.session.inBlock = false)
      (context : LineContext) : Remembered config tree opener context context.location
  | inside {earlier opener : Processing} {context : LineContext} {text : List Char}
      {place : Location} (closed : OpenedIn config tree earlier context text opener)
      (remembered : Remembered config tree earlier context place) (context' : LineContext) :
      Remembered config tree opener context' place

/-- The place is the right one for a line that is read outside block comments. -/
theorem Remembered.eq_location {opener : Processing} {context : LineContext} {place : Location}
    (remembered : Remembered config tree opener context place)
    (outside : opener.session.inBlock = false) : place = context.location := by
  cases remembered with
  | outside => rfl
  | inside closed => cases outside.symm.trans closed.inBlock

/-- **Where a block comment is open, a line has opened it**, and a place is remembered for it. -/
theorem exists_openedIn {first reached : Processing} (closed : first.session.inBlock = false)
    (reaches : Reaches config tree first reached) (inside : reached.session.inBlock = true) :
    ∃ opener context text place, Reaches config tree first opener ∧
      OpenedIn config tree opener context text reached ∧
      Remembered config tree opener context place ∧
      reached.session.commentOpened = some place := by
  induction reaches with
  | refl => cases closed.symm.trans inside
  | @tail reached next reaches leads ih =>
      rcases comment_of_proceed leads with ⟨context, text, strips, inBlock, opened⟩ | ⟨none, same⟩
      · have goesOn : (Comments.strip reached.session.inBlock text).2 = true :=
          inBlock.symm.trans inside
        have source := Comments.inBlock_iff.mp goesOn
        cases before : reached.session.inBlock with
        | false =>
            have here := opened.trans (Session.openedBehind_of_outside before goesOn)
            have leaves := source.resolve_left fun still => by
              rw [before] at still
              cases still.1
            exact ⟨reached, context, text, context.location, reaches, .opened strips leaves leads,
              .outside before context, here⟩
        | true =>
            obtain ⟨opener, context', text', place, begun, open', remembered, known⟩ := ih before
            have still := opened.trans (Session.openedBehind_of_inside context before text)
            rcases source with ⟨_, unclosed⟩ | leaves
            · -- the line goes on inside the comment that is open in front of it
              refine ⟨opener, context', text', place, begun, open'.stays ?_ leads, remembered,
                still.trans known⟩
              intro other otherText strips'
              obtain ⟨rfl, rfl⟩ := strips.unique strips'
              exact unclosed
            · exact ⟨reached, context, text, place, reaches, .opened strips leaves leads,
                .inside open' remembered context, still.trans known⟩
      · obtain ⟨opener, context, text, place, begun, opened, remembered, known⟩ :=
          ih (same.inBlock.symm.trans inside)
        exact ⟨opener, context, text, place, begun,
          opened.stays (fun context' text' strips => absurd strips (none context' text')) leads,
          remembered, same.commentOpened.trans known⟩

end Processing

/-! ## The warning -/

namespace Config

open Processing (Reaches OpenedIn Remembered)

variable {config : Config} {tree : FileTree} {globals : Layer} {providers : List Provider}
  {path text output : String}

/-- **The warning about a block comment that is never closed.**  Take a text that is not excluded
and does not fail.  If no block comment is open when all lines are read, nothing is reported then.
Otherwise one warning is given.  There is one line on which the open comment was opened and left
open, behind which no line closed it.  The warning names the place of this line if it was read
outside block comments, and otherwise that of an earlier line, namely of the first one of a row of
lines that each opened a block comment which the next one closed. -/
theorem openComment_reported
    (ended : (config.processText tree globals providers path text).outcome = .ok (.text output)) :
    ∃ session : Session,
      Reaches config tree (.start globals providers path text) ⟨[], session⟩ ∧
      (session.inBlock = false →
        (config.processText tree globals providers path text).session = session) ∧
      (session.inBlock = true →
        ∃ opener context line place,
          Reaches config tree (.start globals providers path text) opener ∧
          OpenedIn config tree opener context line ⟨[], session⟩ ∧
          (∀ other context' line', Reaches config tree (.start globals providers path text) other →
            OpenedIn config tree other context' line' ⟨[], session⟩ →
            other = opener ∧ context' = context ∧ line' = line) ∧
          Remembered config tree opener context place ∧
          (opener.session.inBlock = false → place = context.location) ∧
          (config.processText tree globals providers path text).session =
            session.report .warning "block comment never closed, text after it was dropped"
              [("location", place.shown)]) := by
  obtain ⟨session, reaches, result⟩ := exists_end_of_text ended
  rw [result]
  refine ⟨session, reaches, fun outside => ?_, fun inside => ?_⟩
  · rw [FileResult.reportOpenComment]
    split
    · rw [outside, if_neg Bool.false_ne_true]
    · rfl
  · obtain ⟨opener, context, line, place, begun, opened, remembered, known⟩ :=
      Processing.exists_openedIn rfl reaches inside
    have known : session.commentOpened = some place := known
    refine ⟨opener, context, line, place, begun, opened,
      fun other context' line' begun' opened' => opened'.unique opened begun' begun, remembered,
      remembered.eq_location, ?_⟩
    simp only [FileResult.reportOpenComment, known, inside, if_true]

/-- The result of a text that is read alone. -/
def readAlone (text : String) : FileResult :=
  processText {} (.empty []) .empty [] "a.txt" text

/-- A comment that is opened behind a word is reported at its line. -/
theorem openComment_reported_oneLine :
    (readAlone "x /* a\n").outcome = .ok (.text "x\n") ∧
      ∃ session opener context line place,
        OpenedIn {} (.empty []) opener context line ⟨[], session⟩ ∧
          Remembered {} (.empty []) opener context place ∧
          place.shown = "a.txt:1: \x60x /* a\x60" := by
  have ended : (readAlone "x /* a\n").outcome = .ok (.text "x\n") := by cbv
  have inside : (readAlone "x /* a\n").session.inBlock = true := by cbv
  have reported : (readAlone "x /* a\n").session.events =
      #[⟨.warning, "block comment never closed, text after it was dropped",
        [("location", "a.txt:1: \x60x /* a\x60")]⟩] := by cbv
  obtain ⟨session, _, closed, unclosed⟩ := openComment_reported ended
  have isOpen : session.inBlock = true := by
    cases before : session.inBlock with
    | true => rfl
    | false =>
        have same : (readAlone "x /* a\n").session = session := closed before
        rw [same] at inside
        exact before.symm.trans inside
  obtain ⟨opener, context, line, place, _, opened, _, remembered, _, warned⟩ := unclosed isOpen
  refine ⟨ended, session, opener, context, line, place, opened, remembered, ?_⟩
  have last := congrArg (·.back?) ((congrArg Session.events warned).symm.trans reported)
  simp only [Session.report, Array.back?_push] at last
  simpa using last

/-- A text whose second line closes a block comment and opens another one. -/
def reopened : String := "/* a\n*/ /* b\n"

/-- **The warning can name the wrong line.**  The comment that is still open was opened on the
second line, and the warning names the first one. -/
theorem openComment_misreported :
    (readAlone reopened).outcome = .ok (.text "") ∧
      (readAlone reopened).session.events =
        #[⟨.warning, "block comment never closed, text after it was dropped",
          [("location", "a.txt:1: \x60/* a\x60")]⟩] ∧
      ∃ session opener context line,
        Reaches {} (.empty []) (.start .empty [] "a.txt" reopened) ⟨[], session⟩ ∧
          Reaches {} (.empty []) (.start .empty [] "a.txt" reopened) opener ∧
          OpenedIn {} (.empty []) opener context line ⟨[], session⟩ ∧
          context.location.shown = "a.txt:2: \x60*/ /* b\x60" := by
  -- both lines leave the same session behind
  let session : Session :=
    { globals := .empty, providers := [], inBlock := true
      commentOpened := some ⟨"a.txt", 1, "/* a"⟩ }
  let opener : Processing := ⟨[⟨"a.txt", 1, ["*/ /* b".toList], 0⟩], session⟩
  have toOpener : Processing.advance {} (.empty []) (.start .empty [] "a.txt" reopened) =
      .proceed opener := by cbv
  have behind : Processing.advance {} (.empty []) opener =
      .proceed ⟨[⟨"a.txt", 2, [], 0⟩], session⟩ := by cbv
  have toEnd : Processing.advance {} (.empty []) ⟨[⟨"a.txt", 2, [], 0⟩], session⟩ =
      .proceed ⟨[], session⟩ := by cbv
  have strips : opener.Strips {} ⟨{}, ⟨"a.txt", 2, "*/ /* b"⟩, 0⟩ "*/ /* b".toList := by
    refine .intro (.intro _ _ _ _ _ _ _) ⟨rfl, rfl, by decide, ?_⟩
    exact Session.substitute_of_unmarked (by decide)
  have leaves : Comments.LeavesOpen .block "*/ /* b".toList :=
    ⟨" b".toList, .behind rfl (.behind rfl (.mark _)), by decide⟩
  have opened : OpenedIn {} (.empty []) opener ⟨{}, ⟨"a.txt", 2, "*/ /* b"⟩, 0⟩ "*/ /* b".toList
      ⟨[], session⟩ := by
    refine .stays (.opened strips leaves behind) (fun context text strips => ?_) toEnd
    obtain ⟨reads, _⟩ := strips
    cases reads
  refine ⟨by cbv, by cbv, session, opener, _, _, ?_, .single toOpener, opened, by decide⟩
  exact .head toOpener (.head behind (.single toEnd))

end Config

end CommentDirectives
