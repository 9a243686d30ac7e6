import CommentDirectives.Proofs.Processing.Entries
import CommentDirectives.Proofs.Session.Rendered

/-!
# The last terminator

Where the configuration cares for the last terminator, a text without one has an output without one
behind its last entry.  That entry may be empty, though, and then the terminator in front of it is
what the output ends with.  So the output ends with a line feed if and only if there are several
entries and the last one is empty (`Config.endsWithLineFeed_iff`); it does where a directive on the
last line leaves an empty line (`Config.endsWithLineFeed_closedEnd`).

This needs that no value with a line feed is put into a line.  All other characters of the output
come from lines, and no line holds one.
-/

namespace CommentDirectives

set_option autoImplicit false

namespace Text

/-- No line holds a line feed. -/
theorem not_mem_of_mem_lines {text line : List Char} (inside : line ∈ lines text) :
    '\n' ∉ line := by
  fun_induction lines text generalizing line with
  | case1 => cases inside
  | case2 rest ih | case3 rest ih =>
      rcases List.mem_cons.mp inside with rfl | inside
      · exact List.not_mem_nil
      · exact ih inside
  | case4 character rest apart _ ended ih =>
      obtain rfl := List.mem_singleton.mp inside
      exact fun feed => apart (List.mem_singleton.mp feed).symm
  | case5 character rest apart _ first following split ih =>
      rw [split] at ih
      rcases List.mem_cons.mp inside with rfl | inside
      · intro feed
        rcases List.mem_cons.mp feed with here | feed
        · exact apart here.symm
        · exact ih List.mem_cons_self feed
      · exact ih (List.mem_cons_of_mem _ inside)

/-- The last of several pieces that are joined stands behind a separator. -/
theorem intercalate_concat (separator last : List Char) {front : List (List Char)}
    (several : front ≠ []) :
    separator.intercalate (front ++ [last]) =
      separator.intercalate front ++ (separator ++ last) := by
  induction front with
  | nil => exact absurd rfl several
  | cons first rest ih =>
      cases rest with
      | nil => simp [List.intercalate_cons_cons, List.intercalate_singleton]
      | cons second rest =>
          have onward := ih (List.cons_ne_nil _ _)
          rw [List.cons_append, List.intercalate_cons_of_ne_nil (List.append_ne_nil_of_right_ne_nil _
            (List.cons_ne_nil _ _)), onward, List.intercalate_cons_cons]
          simp only [List.append_assoc]

/-- Entries without line feeds that are joined by line feeds end with one if there are several and
the last one is empty. -/
theorem endsWithLineFeed_intercalate {entries : List (List Char)}
    (unbroken : ∀ entry ∈ entries, '\n' ∉ entry) :
    endsWithLineFeed (['\n'].intercalate entries) = true ↔
      ∃ front, front ≠ [] ∧ entries = front ++ [[]] := by
  rw [endsWithLineFeed, beq_iff_eq]
  rcases List.eq_nil_or_concat entries with rfl | ⟨front, last, rfl⟩
  · refine iff_of_false (Option.some_ne_none _).symm ?_
    rintro ⟨front, several, same⟩
    exact List.append_ne_nil_of_right_ne_nil front (List.cons_ne_nil _ _) same.symm
  rw [List.concat_eq_append] at unbroken ⊢
  have whole : '\n' ∉ last := unbroken last (List.mem_append_right _ List.mem_cons_self)
  have inside : last.getLast? ≠ some '\n' := fun feed => whole (List.mem_of_getLast? feed)
  by_cases several : front = []
  · -- the only entry is the output
    rw [several, List.nil_append, List.intercalate_singleton]
    refine iff_of_false inside ?_
    rintro ⟨front, several', same⟩
    exact several' (List.append_inj_left' same.symm rfl)
  · rw [intercalate_concat _ _ several, List.getLast?_append, List.getLast?_append]
    cases empty : last with
    | nil => exact iff_of_true rfl ⟨front, several, rfl⟩
    | cons first rest =>
        rw [← empty]
        have visible : last ≠ [] := empty ▸ List.cons_ne_nil _ _
        refine iff_of_false ?_ ?_
        · rw [List.getLast?_eq_some_getLast visible] at inside ⊢
          exact inside
        · rintro ⟨front', several', same⟩
          exact visible (List.cons.inj (List.append_inj_right' same rfl)).1

end Text

namespace Processing

variable {config : Config} {tree : FileTree} {globals : Layer} {providers : List Provider}
  {path text : String}

/-- In the reading of files from a state on, a value is put into a line of the output. -/
def Renders (config : Config) (tree : FileTree) (first : Processing) (rendered : List Char) :
    Prop :=
  ∃ reached context line, Reaches config tree first reached ∧
    reached.Reads config context line ∧ reached.session.Renders context line rendered

/-- In the reading of texts without opening marks, no value is put into a line. -/
theorem not_renders_of_unmarked
    (source : ∀ line ∈ Text.lines text.toList, ¬ Substitution.opening <:+: line)
    (included : ∀ path text, tree.readText path = .ok text →
      ∀ line ∈ Text.lines text.toList, ¬ Substitution.opening <:+: line) (rendered : List Char) :
    ¬ Renders config tree (start globals providers path text) rendered := by
  rintro ⟨reached, context, line, reaches, reads, renders⟩
  exact reads.holds source included reaches renders.marked

/-- A text without opening marks that stands alone puts no value into a line. -/
theorem not_renders_of_alone {place : Place}
    (source : ∀ line ∈ Text.lines text.toList, Substitution.cut Substitution.opening line = none)
    (rendered : List Char) :
    ¬ Renders config (FileTree.empty place) (start globals providers path text) rendered := by
  refine not_renders_of_unmarked
    (fun line inside => Substitution.cut_eq_none.mp (source line inside)) ?_ rendered
  intro path text content line inside
  rw [FileTree.lines_of_empty content] at inside
  cases inside

/-- **No entry of the output holds a line feed** if no value with one is put into a line. -/
theorem unbroken_output
    (values : ∀ rendered, Renders config tree (start globals providers path text) rendered →
      '\n' ∉ rendered) {reached : Processing}
    (reaches : Reaches config tree (start globals providers path text) reached) :
    ∀ entry ∈ reached.session.output.toList, '\n' ∉ entry := by
  intro entry member feed
  obtain ⟨index, found⟩ := List.mem_iff_getElem?.mp member
  obtain ⟨line, writes⟩ := exists_writes rfl reaches found (List.ne_nil_of_mem feed)
  obtain ⟨writing, context, before, reads, adds⟩ := writes.adds
  have whole : '\n' ∉ line :=
    reads.holds (fun _ inside => Text.not_mem_of_mem_lines inside)
      (fun _ _ _ _ inside => Text.not_mem_of_mem_lines inside) before
  rcases Session.mem_of_adds adds feed with inLine | blank | ⟨rendered, renders, inside⟩
  · exact whole inLine
  · cases blank
  · exact values rendered ⟨writing, context, line, before, reads, renders⟩ inside

end Processing

/-- **When an output ends with a line feed.**  Where lines are ended by line feeds and the
configuration cares for the last terminator, and no value with a line feed is put into a line, the
output of a text that is not empty and does not end with a line feed ends with one if and only if
there are several entries and the last one is empty. -/
theorem Config.endsWithLineFeed_iff {config : Config} (lineFeed : config.terminator = "\n")
    (cares : config.careForLastTerminator = true) (tree : FileTree) (globals : Layer)
    (providers : List Provider) (path : String) {text output : String}
    (lacks : FileResult.lacksLastTerminator text = true)
    (ended : (config.processText tree globals providers path text).outcome = .ok (.text output))
    (values : ∀ rendered,
      Processing.Renders config tree (Processing.start globals providers path text) rendered →
      '\n' ∉ rendered) :
    let written := (config.processText tree globals providers path text).session.output
    Text.endsWithLineFeed output.toList = true ↔
      ∃ front, front ≠ [] ∧ written.toList = front ++ [[]] := by
  intro written
  obtain ⟨session, reaches, rendered, same⟩ := exists_last_of_text ended
  have unbroken := Processing.unbroken_output values reaches
  have joined : output.toList = ['\n'].intercalate session.output.toList := by
    rw [rendered, FileResult.render, lineFeed, cares, lacks]
    simp
  have written' : written = session.output := same
  rw [joined, written']
  exact Text.endsWithLineFeed_intercalate unbroken

/-- A text that ends with a line of text without a terminator. -/
def bareEndText : String := "a\n\nb // c"

/-- The output of that text has no terminator behind its last entry, which is not empty. -/
theorem Config.endsWithLineFeed_bareEnd :
    let config : Config := { careForLastTerminator := true }
    let tree := FileTree.empty []
    let result := config.processText tree Layer.empty [] "a.txt" bareEndText
    config.terminator = "\n" ∧ config.careForLastTerminator = true ∧
      FileResult.lacksLastTerminator bareEndText = true ∧
      result.outcome = .ok (.text "a\n\nb") ∧
      (∀ rendered, Processing.Renders config tree
        (Processing.start Layer.empty [] "a.txt" bareEndText) rendered → '\n' ∉ rendered) ∧
      ¬ ∃ front, front ≠ [] ∧ result.session.output.toList = front ++ [[]] := by
  intro config tree result
  have lacks : FileResult.lacksLastTerminator bareEndText = true := by decide
  have ended : result.outcome = .ok (.text "a\n\nb") := by
    unfold result config tree
    cbv
  have values : ∀ rendered, Processing.Renders config tree
      (Processing.start Layer.empty [] "a.txt" bareEndText) rendered → '\n' ∉ rendered :=
    fun rendered renders => absurd renders (Processing.not_renders_of_alone (by decide) rendered)
  have condition := endsWithLineFeed_iff rfl rfl tree Layer.empty [] "a.txt" lacks ended values
  exact ⟨rfl, rfl, lacks, ended, values, fun last => absurd (condition.mpr last) (by decide)⟩

/-- A text that ends with a directive without a terminator. -/
def closedEndText : String := "//#if true\na\n//#endif"

/-- **An output ends with a line feed** where lines are kept and a directive stands on the last line
of a text without one, so that the last entry is empty. -/
theorem Config.endsWithLineFeed_closedEnd :
    let config : Config := { careForLastTerminator := true, keepLines := true }
    let tree := FileTree.empty []
    let result := config.processText tree Layer.empty [] "a.txt" closedEndText
    config.terminator = "\n" ∧ config.careForLastTerminator = true ∧
      FileResult.lacksLastTerminator closedEndText = true ∧
      (∀ rendered, Processing.Renders config tree
        (Processing.start Layer.empty [] "a.txt" closedEndText) rendered → '\n' ∉ rendered) ∧
      result.outcome = .ok (.text "\na\n") ∧ Text.endsWithLineFeed "\na\n".toList = true := by
  intro config tree result
  have ended : result.outcome = .ok (.text "\na\n") := by
    unfold result config tree
    cbv
  have values : ∀ rendered, Processing.Renders config tree
      (Processing.start Layer.empty [] "a.txt" closedEndText) rendered → '\n' ∉ rendered :=
    fun rendered renders => absurd renders (Processing.not_renders_of_alone (by decide) rendered)
  exact ⟨rfl, rfl, by decide, values, ended, by decide⟩

end CommentDirectives
