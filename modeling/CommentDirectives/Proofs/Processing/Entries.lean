import CommentDirectives.Proofs.Processing.Reading
import CommentDirectives.Proofs.Session.Output

/-!
# Where the entries of the output come from

Every entry of the output that is not empty was put there by a line that was read when the output
had so many entries as stand in front of it (`Processing.exists_writes`), and by no other line
(`Processing.Writes.unique`).  The output of a text that is not excluded and does not fail is the
output of the state in which no file is open any more (`Config.exists_last_of_text`).
-/

namespace CommentDirectives

set_option autoImplicit false

theorem Session.output_skipLines (session : Session) (config : Config) (count : Nat) :
    ∃ blanks, (session.skipLines config count).output.toList =
      session.output.toList ++ List.replicate blanks [] := by
  induction count with
  | zero => exact ⟨0, (List.append_nil _).symm⟩
  | succ count ih =>
      obtain ⟨blanks, skipped⟩ := ih
      have last := (session.skipLines config count).output_skip config
      cases kept : config.keepLines with
      | true =>
          rw [kept, skipped, List.append_assoc] at last
          exact ⟨blanks + 1, by rw [List.replicate_succ']; exact last⟩
      | false =>
          rw [kept, skipped, List.append_assoc] at last
          exact ⟨blanks, last.trans (by rw [if_neg nofun, List.append_nil])⟩

/-- What a step makes of the session in which its line leaves it. -/
inductive Session.Continues (config : Config) (left : Session) : Session → Prop where
  | same : Continues config left left
  | reported (severity : Severity) (message : String) (details : List (String × String)) :
      Continues config left (left.report severity message details)
  | skipped (nesting : Nesting) (count : Nat) :
      Continues config left ({ left with nesting := nesting }.skipLines config count)

/-- Behind its line, a step adds nothing but empty entries to the output. -/
theorem Session.Continues.output {config : Config} {left after : Session}
    (continues : left.Continues config after) :
    ∃ blanks, after.output.toList = left.output.toList ++ List.replicate blanks [] := by
  cases continues with
  | same | reported => exact ⟨0, (List.append_nil _).symm⟩
  | skipped nesting count => exact output_skipLines _ config count

/-- Nothing is read from a tree without files. -/
theorem FileTree.lines_of_empty {place : Place} {path text : String}
    (content : (FileTree.empty place).readText path = .ok text) : Text.lines text.toList = [] :=
  List.eq_nil_of_length_eq_zero (Nat.le_zero.mp (FileTree.length_lines_le content))

theorem FileResult.output_reportOpenComment (session : Session) :
    (reportOpenComment session).output = session.output := by
  unfold reportOpenComment
  split
  · split <;> rfl
  · rfl

namespace Processing

variable {config : Config} {tree : FileTree}

/-! ## Lines that are read -/

/-- The line that is read next in a state, and what it is read with. -/
inductive Reads (config : Config) : Processing → LineContext → List Char → Prop where
  | intro (session : Session) (path : String) (number base : Nat) (line : List Char)
      (rest : List (List Char)) (outer : List OpenFile) :
      Reads config ⟨⟨path, number, line :: rest, base⟩ :: outer, session⟩
        ⟨config, lineLocation path number line, base⟩ line

/-- No other line is read next. -/
theorem Reads.unique {processing : Processing} {context context' : LineContext}
    {line line' : List Char} (reads : processing.Reads config context line)
    (reads' : processing.Reads config context' line') : context = context' ∧ line = line' := by
  cases reads
  cases reads'
  exact ⟨rfl, rfl⟩

/-- All lines of the open files that were not read yet have a property. -/
def AllUnread (property : List Char → Prop) (processing : Processing) : Prop :=
  ∀ file ∈ processing.files, ∀ line ∈ file.rest, property line

/-- **What holds of every line of a text and of the files of a tree holds of every line that is
read.** -/
theorem Reads.holds {property : List Char → Prop} {globals : Layer} {providers : List Provider}
    {path text : String} {reached : Processing} {context : LineContext} {line : List Char}
    (source : ∀ line ∈ Text.lines text.toList, property line)
    (included : ∀ path text, tree.readText path = .ok text →
      ∀ line ∈ Text.lines text.toList, property line)
    (reaches : Reaches config tree (start globals providers path text) reached)
    (reads : reached.Reads config context line) : property line := by
  have unread : reached.AllUnread property := by
    refine reaches.keeps (fun file inside => ?_) fun processing next all leads => ?_
    · obtain rfl := List.mem_singleton.mp inside
      exact source
    · cases leads with
      | close ended closed => exact (List.forall_mem_cons.mp all).2
      | leave outcome => exact (List.forall_mem_cons.mp all).2
      | next outcome =>
          obtain ⟨first, others⟩ := List.forall_mem_cons.mp all
          exact List.forall_mem_cons.mpr ⟨(List.forall_mem_cons.mp first).2, others⟩
      | enter outcome room content =>
          obtain ⟨first, others⟩ := List.forall_mem_cons.mp all
          exact List.forall_mem_cons.mpr ⟨included _ _ content,
            List.forall_mem_cons.mpr ⟨(List.forall_mem_cons.mp first).2, others⟩⟩
  cases reads with
  | intro => exact unread _ List.mem_cons_self _ List.mem_cons_self

/-- A step reads no line and leaves the session as it is, or it reads a line and goes on behind
it. -/
inductive LeavesWith (config : Config) (processing : Processing) (after : Session) : Prop where
  | unread (nothing : ∀ context line, ¬ processing.Reads config context line)
      (same : after = processing.session) : LeavesWith config processing after
  | read {context : LineContext} {line : List Char} (reads : processing.Reads config context line)
      (continues : (processing.session.processLine context line).1.Continues config after) :
      LeavesWith config processing after

/-- **Every step does no more to the session than its line and what follows from that.** -/
theorem leavesWith_of_transition {processing : Processing} {step : Step}
    (leads : Transition config tree processing step) :
    processing.LeavesWith config step.session := by
  have line {session after after' : Session} {path : String} {number base : Nat}
      {line : List Char} {rest : List (List Char)} {outer : List OpenFile}
      {result : Except LineError Flow}
      (outcome : session.processLine ⟨config, lineLocation path number line, base⟩ line =
        (after, result)) (continues : after.Continues config after') :
      LeavesWith config ⟨⟨path, number, line :: rest, base⟩ :: outer, session⟩ after' :=
    .read (.intro session path number base line rest outer) (by rw [outcome]; exact continues)
  cases leads with
  | complete session =>
      refine .unread (fun context line reads => ?_) rfl
      cases reads
  | close ended closed =>
      refine .unread (fun context line reads => ?_) rfl
      cases reads
      cases ended
  | unclosed ended innermost opened =>
      refine .unread (fun context line reads => ?_) rfl
      cases reads
      cases ended
  | failed outcome | next outcome | tooDeep outcome | unreadable outcome =>
      exact line outcome .same
  | exclude outcome | enter outcome => exact line outcome (.reported _ _ _)
  | leave outcome => exact line outcome (.skipped _ _)

/-- Nothing is taken from the output. -/
theorem LeavesWith.prefix_output {processing : Processing} {after : Session}
    (leaves : processing.LeavesWith config after) :
    processing.session.output.toList <+: after.output.toList := by
  cases leaves with
  | unread nothing same => rw [same]
  | @read context line reads continues =>
      obtain ⟨blanks, added⟩ := continues.output
      obtain ⟨entry, _, written⟩ := processing.session.adds_processLine context line
      rw [added, written, List.append_assoc]
      exact List.prefix_append _ _

theorem Reaches.prefix_output {first reached : Processing}
    (reaches : Reaches config tree first reached) :
    first.session.output.toList <+: reached.session.output.toList := by
  induction reaches with
  | refl => exact List.prefix_refl _
  | tail _ leads ih =>
      exact ih.trans (leavesWith_of_transition (transition_of_proceed leads)).prefix_output

/-! ## Lines that write entries -/

/-- In the reading of files from a state on, a line puts an entry into the output, behind so many
others. -/
inductive Writes (config : Config) (tree : FileTree) (first : Processing) (index : Nat)
    (entry line : List Char) : Prop where
  | intro {reached : Processing} {context : LineContext}
      (reaches : Reaches config tree first reached) (reads : reached.Reads config context line)
      (behind : reached.session.output.size = index)
      (written : (reached.session.processLine context line).1.output.toList =
        reached.session.output.toList ++ [entry]) : Writes config tree first index entry line

/-- An entry is written by a line in the way in which lines add entries. -/
theorem Writes.adds {first : Processing} {index : Nat} {entry line : List Char}
    (writes : Writes config tree first index entry line) :
    ∃ (reached : Processing) (context : LineContext), Reaches config tree first reached ∧
      reached.Reads config context line ∧ reached.session.Adds context line (some entry) := by
  obtain ⟨reaches, reads, -, written⟩ := writes
  obtain ⟨added, adds, written'⟩ := Session.adds_processLine _ _ line
  have same : added.toList = [entry] := List.append_cancel_left (written'.symm.trans written)
  cases added with
  | none => cases same
  | some added =>
      cases same
      exact ⟨_, _, reaches, reads, adds⟩

/-- Every entry that is not empty was in the output at first, or was written by a line. -/
theorem LeavesWith.exists_writes {first processing : Processing} {after : Session}
    (leaves : processing.LeavesWith config after) (reaches : Reaches config tree first processing)
    {index : Nat} {entry : List Char} (found : after.output.toList[index]? = some entry)
    (visible : entry ≠ []) :
    processing.session.output.toList[index]? = some entry ∨
      ∃ line, Writes config tree first index entry line := by
  cases leaves with
  | unread nothing same =>
      rw [same] at found
      exact .inl found
  | @read context line reads continues =>
      obtain ⟨blanks, added⟩ := continues.output
      obtain ⟨entries, -, written⟩ := processing.session.adds_processLine context line
      rw [added, written, List.append_assoc] at found
      rcases Nat.lt_or_ge index processing.session.output.toList.length with before | behind
      · rw [List.getElem?_append_left before] at found
        exact .inl found
      rw [List.getElem?_append_right behind] at found
      have padding {offset : Nat}
          (blank : (List.replicate blanks ([] : List Char))[offset]? = some entry) : False := by
        rw [List.getElem?_replicate] at blank
        split at blank
        · exact visible (Option.some.inj blank).symm
        · cases blank
      cases entries with
      | none => exact (padding found).elim
      | some added =>
          cases offset : index - processing.session.output.toList.length with
          | succ offset' =>
              rw [offset] at found
              exact (padding found).elim
          | zero =>
              rw [offset] at found
              obtain rfl : added = entry := Option.some.inj found
              have here : processing.session.output.size = index := by
                have length := processing.session.output.length_toList
                omega
              exact .inr ⟨line, .intro reaches reads here written⟩

/-- **Every entry that is not empty was written by a line**, if the output was empty at first. -/
theorem exists_writes {first reached : Processing} (starts : first.session.output = #[])
    (reaches : Reaches config tree first reached) {index : Nat} {entry : List Char}
    (found : reached.session.output.toList[index]? = some entry) (visible : entry ≠ []) :
    ∃ line, Writes config tree first index entry line := by
  induction reaches with
  | refl =>
      rw [starts] at found
      cases found
  | tail reaches leads ih =>
      rcases (leavesWith_of_transition (transition_of_proceed leads)).exists_writes reaches found
        visible with before | writes
      · exact ih before
      · exact writes

/-- Behind a line that writes an entry, that entry stays in the output. -/
theorem LeavesWith.length_lt {processing : Processing} {after : Session} {context : LineContext}
    {line entry : List Char} (leaves : processing.LeavesWith config after)
    (reads : processing.Reads config context line)
    (written : (processing.session.processLine context line).1.output.toList =
      processing.session.output.toList ++ [entry]) :
    processing.session.output.toList.length < after.output.toList.length := by
  cases leaves with
  | unread nothing => exact absurd reads (nothing context line)
  | read reads' continues =>
      obtain ⟨rfl, rfl⟩ := reads.unique reads'
      obtain ⟨blanks, added⟩ := continues.output
      rw [added, written, List.length_append, List.length_append, List.length_singleton]
      omega

/-- Of two states that read lines which write the same entry, none comes behind the other. -/
theorem Writes.eq_of_reaches {earlier later : Processing} {context context' : LineContext}
    {line line' entry : List Char} (reaches : Reaches config tree earlier later)
    (reads : earlier.Reads config context line)
    (written : (earlier.session.processLine context line).1.output.toList =
      earlier.session.output.toList ++ [entry])
    (reads' : later.Reads config context' line')
    (same : later.session.output.size = earlier.session.output.size) : line = line' := by
  rcases Relation.ReflTransGen.cases_head reaches with rfl | ⟨next, leads, onward⟩
  · exact (reads.unique reads').2
  · have grown := (leavesWith_of_transition (transition_of_proceed leads)).length_lt reads written
    have kept := (Reaches.prefix_output onward).length_le
    rw [Array.length_toList] at grown kept
    simp only [Step.session, Array.length_toList] at grown kept
    omega

/-- **An entry is written by one line only.** -/
theorem Writes.unique {first : Processing} {index : Nat} {entry entry' line line' : List Char}
    (writes : Writes config tree first index entry line)
    (writes' : Writes config tree first index entry' line') : line = line' := by
  obtain ⟨reaches, reads, size, written⟩ := writes
  obtain ⟨reaches', reads', size', written'⟩ := writes'
  rcases reaches.total reaches' with onward | onward
  · exact eq_of_reaches onward reads written reads' (size'.trans size.symm)
  · exact (eq_of_reaches onward reads' written' reads (size.trans size'.symm)).symm

end Processing

/-- A text that is not excluded and does not fail has the output of the state in which no file is
open any more, and a block comment that is open there is reported. -/
theorem Config.exists_end_of_text {config : Config} {tree : FileTree} {globals : Layer}
    {providers : List Provider} {path text output : String}
    (ended : (config.processText tree globals providers path text).outcome = .ok (.text output)) :
    ∃ session : Session,
      Processing.Reaches config tree (Processing.start globals providers path text)
        ⟨[], session⟩ ∧
      config.processText tree globals providers path text =
        ⟨.ok (.text (FileResult.render config text session.output.toList)),
          FileResult.reportOpenComment session⟩ := by
  obtain ⟨reached, reaches, stops⟩ :=
    Processing.exists_last_step config tree (Processing.start globals providers path text)
  rw [processText_eq] at ended ⊢
  obtain ⟨last, ending, ran⟩ : ∃ last ending,
    (Processing.start globals providers path text).run config tree = (last, ending) := ⟨_, _, rfl⟩
  rw [ran] at ended stops ⊢
  cases ending with
  | excluded | failed cause => cases ended
  | complete =>
      cases Processing.transition_of_stop stops with
      | complete session => exact ⟨session, reaches, rfl⟩

/-- A text that has an output is read up to a state in which no file is open any more, and its
output is put together of what was written there. -/
theorem Config.exists_last_of_text {config : Config} {tree : FileTree} {globals : Layer}
    {providers : List Provider} {path text output : String}
    (ended : (config.processText tree globals providers path text).outcome = .ok (.text output)) :
    ∃ session : Session,
      Processing.Reaches config tree (Processing.start globals providers path text)
        ⟨[], session⟩ ∧
      output = FileResult.render config text session.output.toList ∧
      (config.processText tree globals providers path text).session.output = session.output := by
  obtain ⟨session, reaches, result⟩ := Config.exists_end_of_text ended
  rw [result] at ended ⊢
  cases ended
  exact ⟨session, reaches, rfl, FileResult.output_reportOpenComment session⟩

end CommentDirectives
