import CommentDirectives.Proofs.Session.Effect

/-!
# What lines add to the output

A line adds one entry to the output at most (`Session.adds_processLine`).  A line to be uncommented
adds itself without its mark, a line of text adds what is left of it without its comments, and where
lines are kept an empty entry stands for every line that gives no output.  Nothing is taken from the
output, and nothing is added behind an entry by the line that added it.
-/

namespace CommentDirectives.Session

set_option autoImplicit false

/-- What a line adds to the output of a session, if anything. -/
inductive Adds (session : Session) (context : LineContext) (line : List Char) :
    Option (List Char) → Prop where
  | nothing : Adds session context line none
  /-- An empty entry stands for the line. -/
  | blank (kept : context.config.keepLines = true) : Adds session context line (some [])
  /-- A line of text, with its comments where they are kept. -/
  | commented {text : List Char} (active : session.isActive = true)
      (form : LineForm.ofLine context.config.allowBlanks line = .plain)
      (substituted : session.substitute context line = .ok text)
      (comments : context.config.keepComments = true) : Adds session context line (some text)
  /-- A line of text, without its comments. -/
  | stripped {text : List Char} (active : session.isActive = true)
      (form : LineForm.ofLine context.config.allowBlanks line = .plain)
      (substituted : session.substitute context line = .ok text)
      (removal : context.config.keepComments = false) :
      Adds session context line (some (Comments.strip session.inBlock text).1)
  /-- A line to be uncommented, without its mark. -/
  | uncommented {indent text body : List Char} {verbatim : Bool} (active : session.isActive = true)
      (form : LineForm.ofLine context.config.allowBlanks line = .uncomment indent text verbatim)
      (taken : (if verbatim then .ok text else session.substitute context text) = .ok body) :
      Adds session context line (some (indent ++ markReplacement context.config verbatim ++ body))

variable (session : Session) (context : LineContext)

theorem output_write (line : List Char) :
    (session.write line).output.toList = session.output.toList ++ [line] :=
  Array.toList_push

theorem output_skip (config : Config) :
    (session.skip config).output.toList =
      session.output.toList ++ if config.keepLines then [[]] else [] := by
  unfold skip
  split
  · exact session.output_write []
  · exact (List.append_nil _).symm

/-- A line that is skipped adds nothing, or an empty entry. -/
theorem adds_skip (line : List Char) :
    ∃ added, session.Adds context line added ∧
      (session.skip context.config).output.toList = session.output.toList ++ added.toList := by
  rw [output_skip]
  cases kept : context.config.keepLines with
  | true => exact ⟨_, .blank kept, rfl⟩
  | false => exact ⟨_, .nothing, rfl⟩

/-- A line of text adds what is left of it. -/
theorem adds_writeText {line text : List Char} (active : session.isActive = true)
    (form : LineForm.ofLine context.config.allowBlanks line = .plain)
    (substituted : session.substitute context line = .ok text) :
    ∃ added, session.Adds context line added ∧
      (session.writeText context text).output.toList = session.output.toList ++ added.toList := by
  unfold writeText
  cases comments : context.config.keepComments with
  | true => exact ⟨_, .commented active form substituted comments, session.output_write text⟩
  | false =>
      dsimp only
      split
      · next kept => cases kept
      split
      · rw [output_skip]
        cases kept : context.config.keepLines with
        | true => exact ⟨_, .blank kept, rfl⟩
        | false => exact ⟨_, .nothing, rfl⟩
      · exact ⟨_, .stripped active form substituted comments, output_write _ _⟩

/-- **A line adds one entry to the output at most**, whether or not it fails. -/
theorem adds_processLine (line : List Char) :
    ∃ added, session.Adds context line added ∧
      (session.processLine context line).1.output.toList =
        session.output.toList ++ added.toList := by
  unfold processLine
  cases form : LineForm.ofLine context.config.allowBlanks line with
  | directive keyword tail =>
      dsimp only
      rw [output_followDirective]
      exact session.adds_skip context line
  | uncomment indent text verbatim =>
      dsimp only
      split
      · next active =>
        unfold uncomment
        cases taken : if verbatim then .ok text else session.substitute context text with
        | error cause => exact ⟨_, .nothing, (List.append_nil _).symm⟩
        | ok body => exact ⟨_, .uncommented active form taken, output_write _ _⟩
      · exact session.adds_skip context line
  | plain =>
      dsimp only
      split
      · next active =>
        cases substituted : session.substitute context line with
        | error cause => exact ⟨_, .nothing, (List.append_nil _).symm⟩
        | ok text => exact session.adds_writeText context active form substituted
      · exact session.adds_skip context line

end CommentDirectives.Session
