import CommentDirectives.Proofs.Comments.Remains
import CommentDirectives.Proofs.Line.Forms
import CommentDirectives.Proofs.Line.MarkedParts
import CommentDirectives.Proofs.Session.Alike
import CommentDirectives.Proofs.Session.Output

/-!
# Where the characters of the output come from

Where lines count, the values of the marked expressions of a line are put into it
(`Session.Renders`).  Every character that a line adds to the output stands in the line or in one of
these values, or it is a blank that stands for a part of a mark (`Session.mem_of_adds`).
-/

namespace CommentDirectives

set_option autoImplicit false

namespace Substitution

variable {ε : Type} {value : List Char → Except ε (List Char)} {text replacement : List Char}

/-- A marked expression of a text is replaced by something. -/
inductive Renders (value : List Char → Except ε (List Char)) : List Char → List Char → Prop where
  | first {text before behind source rest replacement : List Char}
      (opened : cut opening text = some (before, behind))
      (closed : cut closing behind = some (source, rest))
      (rendered : value source = .ok replacement) : Renders value text replacement
  | later {text before behind source rest replacement : List Char}
      (opened : cut opening text = some (before, behind))
      (closed : cut closing behind = some (source, rest))
      (renders : Renders value rest replacement) : Renders value text replacement

/-- In a text without an opening mark, nothing is replaced. -/
theorem Renders.marked (renders : Renders value text replacement) : opening <:+: text := by
  by_contra unmarked
  have unopened := cut_eq_none.mpr unmarked
  cases renders with
  | first opened | later opened => cases unopened.symm.trans opened

/-- A character of a text whose marked expressions were replaced stands in the text or in what one
of them was replaced by. -/
theorem mem_of_apply {result : List Char} {character : Char}
    (applied : apply value text = .ok result) (inside : character ∈ result) :
    character ∈ text ∨ ∃ replacement, Renders value text replacement ∧ character ∈ replacement := by
  induction length : text.length using Nat.strongRecOn generalizing text result with
  | _ length ih =>
    subst length
    cases opened : cut opening text with
    | none =>
        rw [apply_of_unopened value opened] at applied
        cases applied
        exact .inl inside
    | some parts =>
        obtain ⟨before, behind⟩ := parts
        cases closed : cut closing behind with
        | none =>
            rw [apply_of_unclosed value opened closed] at applied
            cases applied
            exact .inl inside
        | some parts =>
            obtain ⟨source, rest⟩ := parts
            have shorter : rest.length < text.length :=
              Nat.lt_of_le_of_lt (length_cut_le closed) (length_cut_lt (by decide) opened)
            have whole : text = before ++ opening ++ (source ++ closing ++ rest) := by
              rw [← eq_of_cut closed]
              exact eq_of_cut opened
            rw [apply_of_closed value opened closed] at applied
            obtain ⟨replacement, rendered, applied⟩ := exists_of_bind_eq_ok applied
            obtain ⟨remainder, applied', applied⟩ := exists_of_bind_eq_ok applied
            cases applied
            rcases List.mem_append.mp inside with inside | inside
            · rcases List.mem_append.mp inside with inside | inside
              · rw [whole]
                exact .inl (by simp [inside])
              · exact .inr ⟨replacement, .first opened closed rendered, inside⟩
            · rcases ih rest.length shorter applied' inside rfl with stays | ⟨value, renders, inside⟩
              · rw [whole]
                exact .inl (by simp [stays])
              · exact .inr ⟨value, .later opened closed renders, inside⟩

end Substitution

namespace Session

/-- A value is put into a text in place of a marked expression. -/
def PutsInto (session : Session) (context : LineContext) (text rendered : List Char) : Prop :=
  Substitution.Renders
    (fun source => ((session.scope context).evaluate (String.ofList source)).map fun value =>
      value.text.toList) text rendered

/-- A value is put into a line that is added to the output. -/
inductive Renders (session : Session) (context : LineContext) (line rendered : List Char) :
    Prop where
  | text (active : session.isActive = true)
      (form : LineForm.ofLine context.config.allowBlanks line = .plain)
      (puts : session.PutsInto context line rendered) : Renders session context line rendered
  | uncommented {indent text : List Char} (active : session.isActive = true)
      (form : LineForm.ofLine context.config.allowBlanks line = .uncomment indent text false)
      (puts : session.PutsInto context text rendered) : Renders session context line rendered

variable {session : Session} {context : LineContext} {line : List Char} {character : Char}

/-- Values are put into lines with marked expressions only. -/
theorem Renders.marked {rendered : List Char} (renders : session.Renders context line rendered) :
    Substitution.opening <:+: line := by
  cases renders with
  | text active form puts => exact puts.marked
  | @uncommented indent text active form puts =>
      have whole := (LineForm.ofLine_eq_uncomment_iff.mp form).written
      rw [whole, ← List.append_assoc]
      exact puts.marked.trans (List.suffix_append _ _).isInfix

theorem mem_of_substitute {text result : List Char}
    (substituted : session.substitute context text = .ok result) (inside : character ∈ result) :
    character ∈ text ∨
      ∃ rendered, session.PutsInto context text rendered ∧ character ∈ rendered :=
  Substitution.mem_of_apply (eq_ok_of_mapError substituted) inside

/-- **A character that a line adds to the output** stands in the line or in a value that is put into
it, or it is a blank. -/
theorem mem_of_adds {entry : List Char} (adds : session.Adds context line (some entry))
    (inside : character ∈ entry) :
    character ∈ line ∨ character = ' ' ∨
      ∃ rendered, session.Renders context line rendered ∧ character ∈ rendered := by
  cases adds with
  | blank kept => cases inside
  | commented active form substituted comments =>
      rcases mem_of_substitute substituted inside with stays | ⟨rendered, puts, inside⟩
      · exact .inl stays
      · exact .inr (.inr ⟨rendered, .text active form puts, inside⟩)
  | stripped active form substituted removal =>
      have kept := (Comments.strip_sublist _ _).subset inside
      rcases mem_of_substitute substituted kept with stays | ⟨rendered, puts, inside⟩
      · exact .inl stays
      · exact .inr (.inr ⟨rendered, .text active form puts, inside⟩)
  | @uncommented indent text body verbatim active form taken =>
      have whole := (LineForm.ofLine_eq_uncomment_iff.mp form).written
      rcases List.mem_append.mp inside with front | inBody
      · rcases List.mem_append.mp front with inIndent | inMark
        · rw [whole]
          exact .inl (by simp [inIndent])
        · unfold markReplacement at inMark
          split at inMark
          · exact .inr (.inl (List.eq_of_mem_replicate inMark))
          · cases inMark
      · cases verbatim with
        | true =>
            cases taken
            rw [whole]
            exact .inl (by simp [inBody])
        | false =>
            rcases mem_of_substitute taken inBody with stays | ⟨rendered, puts, inRendered⟩
            · rw [whole]
              exact .inl (by simp [stays])
            · exact .inr (.inr ⟨rendered, .uncommented active form puts, inRendered⟩)

end Session

end CommentDirectives
