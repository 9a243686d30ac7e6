import CommentDirectives.Proofs.Comments.Interiors
import CommentDirectives.Proofs.Session.Outcome
import CommentDirectives.Proofs.Session.Unnoticed

/-!
# The place where a comment was opened

A session remembers where the last block comment was opened that went on behind its line, and no
line asks for that place.  So a line does the same in front of every such place
(`Session.processLine_withOpened`).

Two lines of text without marked expressions that are the same outside their block comments do the
same but for that place, if both or neither of them are blank, or if empty lines stand for lines
that are left out (`Session.processLine_of_differInside`).
-/

namespace CommentDirectives

set_option autoImplicit false

namespace Session

/-- A session with another place where the last block comment was opened. -/
def withOpened (opened : Option Location) (session : Session) : Session :=
  { session with commentOpened := opened }

variable (session : Session) (opened : Option Location) (context : LineContext) (tail : List Char)

theorem isActive_withOpened : (session.withOpened opened).isActive = session.isActive := rfl

/-- No directive notices the place. -/
theorem unnoticed_withOpened : Unnoticed (withOpened opened) where
  globals _ := rfl
  locals _ := rfl
  providers _ := rfl
  nesting _ := rfl
  withGlobals _ _ := rfl
  withLocals _ _ := rfl
  withProviders _ _ := rfl
  withNesting _ _ := rfl
  report _ _ _ _ := rfl
  record _ _ := rfl

/-! ## Whole lines -/

/-- An outcome with another place where the last block comment was opened. -/
def Outcome.withOpened (opened : Option Location) (outcome : Outcome) : Outcome :=
  (outcome.1.withOpened opened, outcome.2)

theorem change_withOpened (changed : Except LineError Session) :
    (session.withOpened opened).change (changed.map (withOpened opened)) =
      (session.change changed).withOpened opened := by
  cases changed with
  | error cause | ok after => rfl

theorem followDirective_withOpened (keyword : String) :
    (session.withOpened opened).followDirective context keyword tail =
      (session.followDirective context keyword tail).withOpened opened :=
  (unnoticed_withOpened opened).followDirective session context tail keyword

theorem skip_withOpened (config : Config) :
    (session.withOpened opened).skip config = (session.skip config).withOpened opened := by
  unfold skip
  split
  · rfl
  · rfl

theorem skipLines_withOpened (config : Config) (count : Nat) :
    (session.withOpened opened).skipLines config count =
      (session.skipLines config count).withOpened opened := by
  induction count with
  | zero => rfl
  | succ count ih => exact (congrArg (·.skip config) ih).trans (skip_withOpened _ opened config)

theorem uncomment_withOpened (indent text : List Char) (verbatim : Bool) :
    (session.withOpened opened).uncomment context indent text verbatim =
      (session.uncomment context indent text verbatim).map (withOpened opened) := by
  have substituted : (session.withOpened opened).substitute context text =
      session.substitute context text := rfl
  unfold uncomment
  rw [substituted]
  split
  · rfl
  · cases session.substitute context text with
    | error cause | ok body => rfl

/-- The place where a comment was opened that goes on behind a line of text. -/
def openedBehind (session : Session) (context : LineContext) (text : List Char) :
    Option Location :=
  if !session.inBlock && (Comments.strip session.inBlock text).2 then some context.location
  else session.commentOpened

variable {session context} in
/-- A comment that goes on from outside block comments was opened on the line. -/
theorem openedBehind_of_outside {text : List Char} (outside : session.inBlock = false)
    (goesOn : (Comments.strip session.inBlock text).2 = true) :
    session.openedBehind context text = some context.location := by
  rw [openedBehind, goesOn, outside]
  rfl

variable {session} in
/-- Inside a block comment the place stays as it is, whatever the line opens. -/
theorem openedBehind_of_inside (inside : session.inBlock = true) (text : List Char) :
    session.openedBehind context text = session.commentOpened := by
  rw [openedBehind, inside]
  rfl

/-- What a line of text does where comments are removed. -/
theorem writeText_of_removal {session : Session} {context : LineContext} {text : List Char}
    (removal : context.config.keepComments = false) :
    session.writeText context text =
      let stripped := { session with
        inBlock := (Comments.strip session.inBlock text).2
        commentOpened := session.openedBehind context text }
      if (Text.trim (Comments.strip session.inBlock text).1).isEmpty
          && !(Text.trim text).isEmpty then
        stripped.skip context.config
      else stripped.write (Comments.strip session.inBlock text).1 := by
  unfold writeText
  rw [if_neg (Bool.eq_false_iff.mp removal)]
  rfl

/-- Where empty lines stand for lines that are left out, a line of which only blanks are left is
written like any other. -/
theorem skip_eq_write {config : Config} (keeps : config.keepLines = true) (stripped : Session)
    (inBlock : Bool) (text : List Char) :
    (if (Text.trim (Comments.strip inBlock text).1).isEmpty && !(Text.trim text).isEmpty then
        stripped.skip config
      else stripped.write (Comments.strip inBlock text).1) =
      stripped.write (Comments.strip inBlock text).1 := by
  split
  · next blank =>
    -- the text is not blank by itself, so it has lost something, and nothing is left of it
    obtain ⟨nothing, visible⟩ := (Bool.and_eq_true _ _).mp blank
    rcases Comments.strip_eq_nil (List.isEmpty_iff.mp nothing) with gone | blank'
    · rw [skip, if_pos keeps, gone]
    · rw [blank'] at visible
      cases visible
  · rfl

section Text

variable {session} {config : Config} (location location' : Location) (base : Nat)
  {line line' : List Char}

/-- Lines that are the same outside their block comments add the same to the output. -/
theorem writeText_of_outside (removal : config.keepComments = false)
    (same : Comments.outside (Comments.Mode.atStart session.inBlock) line =
      Comments.outside (Comments.Mode.atStart session.inBlock) line')
    (counted : config.keepLines = true ∨ (Text.trim line).isEmpty = (Text.trim line').isEmpty) :
    ∃ opened', (session.withOpened opened).writeText ⟨config, location', base⟩ line' =
      (session.writeText ⟨config, location, base⟩ line).withOpened opened' := by
  have stripped : Comments.strip (session.withOpened opened).inBlock line' =
      Comments.strip session.inBlock line := (Comments.strip_eq_of_outside same).symm
  refine ⟨(session.withOpened opened).openedBehind ⟨config, location', base⟩ line', ?_⟩
  rw [writeText_of_removal removal, writeText_of_removal removal]
  -- the same is left of both, and only the test for blank lines looks at more
  rcases counted with keeps | blank
  · simp only [skip_eq_write keeps]
    rw [stripped]
    rfl
  · simp only [stripped, blank]
    split
    · rw [← skip_withOpened]
      rfl
    · rfl

variable (session) in
/-- A line of text adds the same to the output in front of every place where a comment was
opened. -/
theorem writeText_withOpened (context : LineContext) (text : List Char) :
    ∃ opened', (session.withOpened opened).writeText context text =
      (session.writeText context text).withOpened opened' := by
  cases removal : context.config.keepComments with
  | true =>
      refine ⟨opened, ?_⟩
      rw [writeText, writeText, if_pos removal, if_pos removal]
      rfl
  | false => exact writeText_of_outside opened _ _ _ removal rfl (.inr rfl)

variable (session) in
/-- **A line does the same in front of every place where a comment was opened.** -/
theorem processLine_withOpened (context : LineContext) (line : List Char) :
    ∃ opened', (session.withOpened opened).processLine context line =
      (session.processLine context line).withOpened opened' := by
  unfold processLine
  cases LineForm.ofLine context.config.allowBlanks line with
  | directive keyword tail =>
      refine ⟨opened, ?_⟩
      simp only [skip_withOpened, followDirective_withOpened]
  | uncomment indent text verbatim =>
      refine ⟨opened, ?_⟩
      simp only [isActive_withOpened, uncomment_withOpened, change_withOpened, skip_withOpened]
      split
      · rfl
      · rfl
  | plain =>
      have substituted : (session.withOpened opened).substitute context line =
        session.substitute context line := rfl
      simp only [isActive_withOpened, substituted]
      split
      · cases session.substitute context line with
        | error cause => exact ⟨opened, rfl⟩
        | ok text =>
            obtain ⟨opened', written⟩ := session.writeText_withOpened opened context text
            exact ⟨opened', congrArg (·, _) written⟩
      · exact ⟨opened, congrArg (·, _) (session.skip_withOpened opened _)⟩

/-- A line without marked expressions stays as it is. -/
theorem substitute_of_unmarked {context : LineContext}
    (unmarked : ¬ Substitution.opening <:+: line) :
    session.substitute context line = .ok line := by
  rw [substitute, Scope.substitute, Substitution.apply_of_unopened _
    (Substitution.cut_eq_none.mpr unmarked)]
  rfl

/-- **Lines that differ only inside block comments do the same**, and the next line follows. -/
theorem processLine_of_differInside (removal : config.keepComments = false)
    (inside : Comments.DifferInside config.allowBlanks session.inBlock line line')
    (counted : session.isActive = true → config.keepLines = false →
      (Text.trim line).isEmpty = (Text.trim line').isEmpty) :
    ∃ after opened', session.processLine ⟨config, location, base⟩ line = (after, .ok .next) ∧
      (session.withOpened opened).processLine ⟨config, location', base⟩ line' =
        (after.withOpened opened', .ok .next) := by
  simp only [processLine, inside.plain, inside.plain']
  rw [isActive_withOpened]
  split
  · next active =>
    have either : config.keepLines = true ∨
        (Text.trim line).isEmpty = (Text.trim line').isEmpty := by
      cases keeps : config.keepLines with
      | true => exact .inl rfl
      | false => exact .inr (counted active keeps)
    rw [substitute_of_unmarked inside.unmarked, substitute_of_unmarked inside.unmarked']
    obtain ⟨opened', written⟩ :=
      writeText_of_outside opened location location' base removal inside.outside either
    exact ⟨_, opened', rfl, congrArg (·, _) written⟩
  · exact ⟨_, opened, rfl, congrArg (·, _) (session.skip_withOpened opened config)⟩

/-- A line of text without marked expressions, where lines count: the next line follows, and it is
read inside a block comment if this one ends in one. -/
theorem processLine_of_unmarked (removal : config.keepComments = false)
    (active : session.isActive = true) (plain : LineForm.ofLine config.allowBlanks line = .plain)
    (unmarked : ¬ Substitution.opening <:+: line) :
    ∃ after, session.processLine ⟨config, location, base⟩ line = (after, .ok .next) ∧
      after.inBlock = (Comments.strip session.inBlock line).2 ∧
      after.nesting = session.nesting := by
  simp only [processLine, plain]
  rw [if_pos active, substitute_of_unmarked unmarked]
  refine ⟨session.writeText ⟨config, location, base⟩ line, rfl, ?_⟩
  rw [writeText_of_removal removal]
  dsimp only
  split
  · unfold skip
    split
    · exact ⟨rfl, rfl⟩
    · exact ⟨rfl, rfl⟩
  · exact ⟨rfl, rfl⟩

end Text

end Session

end CommentDirectives
