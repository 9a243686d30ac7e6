import CommentDirectives.Proofs.Comments.Remains
import CommentDirectives.Proofs.Processing.Entries

/-!
# Comments that survive

Where comments are removed, no entry of the output that a line of text wrote holds one, whatever
values were put into the line and whatever was open in front of it.  Only lines to be uncommented
bring comments into the output: the reader of comments does not see what they write, whether it is
taken as it stands or not.  So the output is free of comments, lines apart that are taken as they
stand, just in case the other lines to be uncommented write none (`Config.entries_free`).  A comment
behind the mark of such a line does stand in the output (`Config.entries_not_free`).
-/

namespace CommentDirectives

set_option autoImplicit false

/-- An entry of the output was written by a line to be uncommented, which is taken as it stands or
not. -/
def Processing.Uncommented (config : Config) (tree : FileTree) (first : Processing)
    (verbatim : Bool) (index : Nat) : Prop :=
  ∃ entry line indent text, Writes config tree first index entry line ∧
    LineForm.ofLine config.allowBlanks line = .uncomment indent text verbatim

namespace Processing

variable {config : Config} {tree : FileTree} {first reached : Processing} {index : Nat}

/-- A line to be uncommented is taken as it stands, or it is not. -/
theorem Uncommented.unique {verbatim verbatim' : Bool}
    (uncommented : Uncommented config tree first verbatim index)
    (uncommented' : Uncommented config tree first verbatim' index) : verbatim = verbatim' := by
  obtain ⟨entry, line, indent, text, writes, form⟩ := uncommented
  obtain ⟨entry', line', indent', text', writes', form'⟩ := uncommented'
  rw [writes.unique writes', form'] at form
  exact (LineForm.uncomment.inj form).2.2.symm

/-- Where comments are removed, an entry that is not empty holds none, or was written by a line to
be uncommented. -/
theorem free_or_uncommented (removal : config.keepComments = false)
    (starts : first.session.output = #[]) (reaches : Reaches config tree first reached)
    {entry : List Char} (found : reached.session.output.toList[index]? = some entry)
    (visible : entry ≠ []) :
    Comments.Free entry ∨ ∃ verbatim, Uncommented config tree first verbatim index := by
  obtain ⟨line, writes⟩ := exists_writes starts reaches found visible
  obtain ⟨state, context, -, reads, adds⟩ := writes.adds
  cases reads
  cases adds with
  | blank => exact absurd rfl visible
  | commented active form substituted comments => cases removal.symm.trans comments
  | stripped active form substituted => exact .inl (Comments.free_strip _ _)
  | uncommented active form taken => exact .inr ⟨_, _, line, _, _, writes, form⟩

end Processing

/-- **Which comments survive.**  Where comments are removed and a text has an output, an entry of it
that is not empty and that no line to be uncommented wrote is free of comments.  So all entries are,
but for those that were written by lines that are taken as they stand, if and only if those are that
were written by the other lines to be uncommented. -/
theorem Config.entries_free {config : Config} (removal : config.keepComments = false)
    (tree : FileTree) (globals : Layer) (providers : List Provider) (path text : String)
    {output : String}
    (ended : (config.processText tree globals providers path text).outcome = .ok (.text output)) :
    let uncommented := Processing.Uncommented config tree
      (Processing.start globals providers path text)
    let written := (config.processText tree globals providers path text).session.output
    (∀ index entry, written[index]? = some entry → entry ≠ [] →
      (∀ verbatim, ¬ uncommented verbatim index) → Comments.Free entry) ∧
    ((∀ index entry, written[index]? = some entry → entry ≠ [] →
        ¬ uncommented true index → Comments.Free entry) ↔
      ∀ index entry, written[index]? = some entry → entry ≠ [] →
        uncommented false index → Comments.Free entry) := by
  intro uncommented written
  obtain ⟨session, reaches, -, same⟩ := exists_last_of_text ended
  have origin {index : Nat} {entry : List Char} (found : written[index]? = some entry)
      (visible : entry ≠ []) : Comments.Free entry ∨ ∃ verbatim, uncommented verbatim index := by
    unfold written at found
    rw [same, ← Array.getElem?_toList] at found
    exact Processing.free_or_uncommented removal rfl reaches found visible
  refine ⟨fun index entry found visible other => ?_, fun all index entry found visible wrote => ?_,
    fun free index entry found visible other => ?_⟩
  · rcases origin found visible with free | ⟨verbatim, wrote⟩
    · exact free
    · exact absurd wrote (other verbatim)
  · refine all index entry found visible fun wrote' => ?_
    cases wrote.unique wrote'
  · rcases origin found visible with free | ⟨verbatim, wrote⟩
    · exact free
    · cases verbatim with
      | true => exact absurd wrote other
      | false => exact free index entry found visible wrote

/-- A text with a comment behind its text, and with a line to be uncommented without one. -/
def commentedLineText : String := "x // y\n//$z\n"

/-- The line to be uncommented writes no comment, so that none survives. -/
theorem Config.entries_free_commentedLine :
    let config : Config := {}
    let tree := FileTree.empty []
    let result := config.processText tree Layer.empty [] "a.txt" commentedLineText
    config.keepComments = false ∧ result.outcome = .ok (.text "x\nz\n") ∧
      ∀ (index : Nat) (entry : List Char), result.session.output[index]? = some entry →
        entry ≠ [] →
        ¬ Processing.Uncommented config tree
          (Processing.start Layer.empty [] "a.txt" commentedLineText) true index →
        Comments.Free entry := by
  intro config tree result
  have ended : result.outcome = .ok (.text "x\nz\n") := by
    unfold result config tree
    cbv
  have written : result.session.output = #["x".toList, "z".toList] := by
    unfold result config tree
    cbv
  have removal : config.keepComments = false := rfl
  have survivors := entries_free removal tree Layer.empty [] "a.txt" commentedLineText ended
  have free : ∀ entry ∈ result.session.output.toList, Comments.Free entry := by
    rw [written]
    decide
  refine ⟨removal, ended, survivors.2.mpr fun index entry found visible wrote => ?_⟩
  exact free entry (Array.mem_toList_iff.mpr (Array.mem_of_getElem? found))

/-- A text with a comment behind the mark of a line to be uncommented. -/
def commentedMarkText : String := "//$x // y\n"

/-- **A comment survives** behind the mark of a line to be uncommented that is not taken as it
stands. -/
theorem Config.entries_not_free :
    let config : Config := {}
    let tree := FileTree.empty []
    let result := config.processText tree Layer.empty [] "a.txt" commentedMarkText
    config.keepComments = false ∧ result.outcome = .ok (.text "x // y\n") ∧
      result.session.output[0]? = some "x // y".toList ∧
      ¬ Processing.Uncommented config tree
        (Processing.start Layer.empty [] "a.txt" commentedMarkText) true 0 ∧
      ¬ Comments.Free "x // y".toList := by
  intro config tree result
  have ended : result.outcome = .ok (.text "x // y\n") := by
    unfold result config tree
    cbv
  have written : result.session.output = #["x // y".toList] := by
    unfold result config tree
    cbv
  have wrote : Processing.Uncommented config tree
      (Processing.start Layer.empty [] "a.txt" commentedMarkText) false 0 :=
    ⟨"x // y".toList, "//$x // y".toList, [], "x // y".toList,
      .intro .refl (.intro _ _ _ _ _ _ _) rfl (by cbv), by decide⟩
  refine ⟨rfl, ended, by rw [written]; rfl, fun wrote' => ?_, by decide⟩
  cases wrote.unique wrote'

end CommentDirectives
