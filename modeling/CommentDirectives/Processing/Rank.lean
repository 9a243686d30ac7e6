import CommentDirectives.Processing

/-!
# Why the reading of files comes to an end

The lines that are left in each open file, from the outermost on, form a number of
as many levels as files can be open, and every step makes it smaller
(`before_of_advance`): it takes a line from a file or closes a file, and what it
opens stands at a deeper level.  The order of such numbers is well founded.
-/

namespace CommentDirectives

set_option autoImplicit false

/-- Numbers of some levels, of which the first counts most. -/
def Rank : Nat → Type
  | 0 => Nat
  | levels + 1 => Nat × Rank levels

namespace Rank

/-- The order of such numbers, which is well founded. -/
@[reducible] def order : (levels : Nat) → WellFoundedRelation (Rank levels)
  | 0 => inferInstanceAs (WellFoundedRelation Nat)
  | levels + 1 =>
    let _ := order levels
    inferInstanceAs (WellFoundedRelation (Nat × Rank levels))

instance (levels : Nat) : WellFoundedRelation (Rank levels) := order levels

/-- The lines that are left in some files together, where each file counts as one more. -/
def linesLeft : List OpenFile → Nat
  | [] => 0
  | file :: others => file.rest.length + 1 + linesLeft others

theorem linesLeft_append (files others : List OpenFile) :
    linesLeft (files ++ others) = linesLeft files + linesLeft others := by
  induction files with
  | nil => simp [linesLeft]
  | cons file files ih => simp only [List.cons_append, linesLeft, ih]; omega

/-- The lines that are left in some files, the outermost first; files beyond the last level count
together. -/
def ofFiles : (levels : Nat) → List OpenFile → Rank levels
  | 0, files => linesLeft files
  | levels + 1, [] => (0, ofFiles levels [])
  | levels + 1, file :: deeper => (file.rest.length + 1, ofFiles levels deeper)

/-- A number gets smaller when the innermost file is closed. -/
theorem ofFiles_lt_of_close (file : OpenFile) (levels : Nat) (outer : List OpenFile) :
    (order levels).rel (ofFiles levels outer) (ofFiles levels (outer ++ [file])) := by
  induction levels generalizing outer with
  | zero =>
    show linesLeft outer < linesLeft (outer ++ [file])
    simp only [linesLeft_append, linesLeft]
    omega
  | succ levels ih =>
    cases outer with
    | nil => exact Prod.Lex.left _ _ (Nat.succ_pos _)
    | cons outermost outer => exact Prod.Lex.right _ (ih outer)

/-- A number gets smaller when the innermost file loses lines, whatever is opened behind it at a
level of its own. -/
theorem ofFiles_lt_of_read {before after : OpenFile} {opened : List OpenFile}
    (fewer : after.rest.length < before.rest.length) (levels : Nat) (outer : List OpenFile)
    (room : opened = [] ∨ outer.length < levels) :
    (order levels).rel (ofFiles levels (outer ++ after :: opened))
      (ofFiles levels (outer ++ [before])) := by
  induction levels generalizing outer with
  | zero =>
    have nothing : opened = [] := room.resolve_right (Nat.not_lt_zero _)
    show linesLeft (outer ++ after :: opened) < linesLeft (outer ++ [before])
    simp only [nothing, linesLeft_append, linesLeft]
    omega
  | succ levels ih =>
    cases outer with
    | nil => exact Prod.Lex.left _ _ (Nat.succ_lt_succ fewer)
    | cons outermost outer =>
      exact Prod.Lex.right _ (ih outer (room.imp id Nat.lt_of_succ_lt_succ))

end Rank

namespace Processing

/-- The lines that are left in the open files. -/
def rank (processing : Processing) : Rank includeLimit :=
  Rank.ofFiles includeLimit processing.files.reverse

/-- One state comes before another when less is left to read. -/
def Before (next processing : Processing) : Prop :=
  (Rank.order includeLimit).rel next.rank processing.rank

theorem before_of_close {session session' : Session} {file : OpenFile} {outer : List OpenFile} :
    Before ⟨outer, session'⟩ ⟨file :: outer, session⟩ := by
  simp only [Before, rank, List.reverse_cons]
  exact Rank.ofFiles_lt_of_close _ _ _

theorem before_of_read {session session' : Session} {before after : OpenFile}
    {outer : List OpenFile} (fewer : after.rest.length < before.rest.length) :
    Before ⟨after :: outer, session'⟩ ⟨before :: outer, session⟩ := by
  simp only [Before, rank, List.reverse_cons]
  exact Rank.ofFiles_lt_of_read fewer _ _ (Or.inl rfl)

theorem before_of_include {session session' : Session} {before after opened : OpenFile}
    {outer : List OpenFile} (fewer : after.rest.length < before.rest.length)
    (room : outer.length < includeLimit) :
    Before ⟨opened :: after :: outer, session'⟩ ⟨before :: outer, session⟩ := by
  simp only [Before, rank, List.reverse_cons, List.append_assoc, List.cons_append, List.nil_append]
  exact Rank.ofFiles_lt_of_read fewer _ _ (Or.inr (by simpa using room))

/-- What leads on from an included file leaves less to read. -/
theorem before_of_includeFile {tree : FileTree} {session session' : Session}
    {location : Location} {target : String} {before after : OpenFile} {outer : List OpenFile}
    {next : Processing} (fewer : after.rest.length < before.rest.length)
    (leads : includeFile tree session location (after :: outer) target = .proceed next) :
    Before next ⟨before :: outer, session'⟩ := by
  unfold includeFile at leads
  split at leads
  · exact absurd leads (by simp)
  · next room =>
    simp only at leads
    split at leads
    · exact absurd leads (by simp)
    · obtain rfl := Step.proceed.inj leads
      refine before_of_include fewer ?_
      simp only [List.length_cons] at room
      omega

/-- **Every step that leads on leaves less to read.** -/
theorem before_of_advance {config : Config} {tree : FileTree} {processing next : Processing}
    (leads : advance config tree processing = .proceed next) : Before next processing := by
  obtain ⟨files, session⟩ := processing
  unfold advance at leads
  split at leads
  · exact absurd leads (by simp)
  · next file outer opened =>
    obtain rfl : files = file :: outer := opened
    split at leads
    · unfold endFile at leads
      split at leads
      · split at leads
        · exact absurd leads (by simp)
        · obtain rfl := Step.proceed.inj leads
          exact before_of_close
      · obtain rfl := Step.proceed.inj leads
        exact before_of_close
    · next line rest left =>
      have fewer : rest.length < file.rest.length := by rw [left]; exact Nat.lt_succ_self _
      unfold readLine at leads
      simp only at leads
      split at leads
      · exact absurd leads (by simp)
      · obtain rfl := Step.proceed.inj leads
        exact before_of_read fewer
      · obtain rfl := Step.proceed.inj leads
        exact before_of_close
      · exact absurd leads (by simp)
      · exact before_of_includeFile fewer leads

end Processing

end CommentDirectives
