import CommentDirectives.Proofs.Comments.Interiors

/-!
# Where block comments are opened

The reader of comments takes a line piece by piece (`Comments.next?`), and a line opens a block
comment where the reader comes to its mark (`Comments.Opens`).  A block comment is open at the end
of a line if the line opens one that it does not close, or if it was open in front of the line and
the line holds no mark that closes it (`Comments.inBlock_iff`).  A line that is read inside a block
comment has to close that one before it opens another (`Comments.closing_of_leavesOpen`), so it is
never both.
-/

namespace CommentDirectives.Comments

set_option autoImplicit false

/-- What the reader comes to behind the next piece of a line: the mode and the rest of the line.
Nothing follows the end of a line and the mark of a line comment. -/
def next? : Mode → List Char → Option (Mode × List Char)
  | .block, '*' :: '/' :: rest => some (.plain, rest)
  | .block, _ :: rest => some (.block, rest)
  | .quoted mark, '\\' :: _ :: rest => some (.quoted mark, rest)
  | .quoted mark, character :: rest =>
    some (if character = mark then .plain else .quoted mark, rest)
  | .plain, '/' :: '/' :: _ => none
  | .plain, '/' :: '*' :: rest => some (.block, rest)
  | .plain, character :: rest =>
    some (if character = '"' ∨ character = '\'' then .quoted character else .plain, rest)
  | _, [] => none

/-- A line, read from a given mode on, opens a block comment in front of some text. -/
inductive Opens : Mode → List Char → List Char → Prop where
  | mark (interior : List Char) : Opens .plain ('/' :: '*' :: interior) interior
  | behind {mode mode' : Mode} {line rest interior : List Char}
      (reads : next? mode line = some (mode', rest)) (opens : Opens mode' rest interior) :
      Opens mode line interior

/-- A line opens a block comment that is still open at its end. -/
def LeavesOpen (mode : Mode) (line : List Char) : Prop :=
  ∃ interior, Opens mode line interior ∧ ¬ closing <:+: interior

/-- What is open at the end of a line is told by what follows its next piece. -/
theorem inBlock_of_next? {mode mode' : Mode} {line rest : List Char}
    (reads : next? mode line = some (mode', rest)) :
    (scan mode line).inBlock = (scan mode' rest).inBlock := by
  fun_cases scan mode line with
  | case1 | case4 | case7 | case8 => cases reads
  | case2 | case5 | case9 =>
      cases reads
      rfl
  | case3 character rest unclosed =>
      rw [next?.eq_2 _ _ unclosed] at reads
      cases reads
      rfl
  | case6 mark character rest single =>
      rw [next?.eq_4 _ _ _ single] at reads
      cases reads
      rfl
  | case10 character rest line block =>
      rw [next?.eq_7 _ _ line block] at reads
      cases reads
      rfl

/-- A block comment without a mark that closes it is open at the end of the line. -/
theorem inBlock_of_unclosed {interior : List Char} (unclosed : ¬ closing <:+: interior) :
    (scan .block interior).inBlock = true := by
  rw [← scan_outside, outside_of_unclosed unclosed]
  rfl

theorem inBlock_of_leavesOpen {mode : Mode} {line : List Char} (leaves : LeavesOpen mode line) :
    (scan mode line).inBlock = true := by
  obtain ⟨interior, opens, unclosed⟩ := leaves
  induction opens with
  | mark interior => exact inBlock_of_unclosed unclosed
  | behind reads _ ih => exact (inBlock_of_next? reads).trans (ih unclosed)

/-- A block comment that is open at the end of a line was open in front of it, or is opened on
it. -/
theorem unclosed_or_leavesOpen {mode : Mode} {line : List Char}
    (inside : (scan mode line).inBlock = true) :
    mode = .block ∧ ¬ closing <:+: line ∨ LeavesOpen mode line := by
  have onward {mode mode' : Mode} {line rest : List Char}
      (reads : next? mode line = some (mode', rest)) (leaves : LeavesOpen mode' rest) :
      LeavesOpen mode line := leaves.imp fun _ opened => ⟨.behind reads opened.1, opened.2⟩
  fun_induction scan mode line with
  | case1 => exact .inl ⟨rfl, by decide⟩
  | case2 rest ih =>
      rcases ih inside with ⟨isBlock, _⟩ | leaves
      · cases isBlock
      · exact .inr (onward rfl leaves)
  | case3 character rest unclosed ih =>
      rcases ih inside with ⟨_, still⟩ | leaves
      · refine .inl ⟨rfl, ?_⟩
        rw [List.infix_cons_iff, not_or]
        refine ⟨?_, still⟩
        rintro ⟨behind, starts⟩
        cases starts
        exact unclosed behind rfl rfl
      · exact .inr (onward (next?.eq_2 _ _ unclosed) leaves)
  | case4 | case7 | case8 => cases inside
  | case5 mark escaped rest ih =>
      rcases ih inside with ⟨isBlock, _⟩ | leaves
      · cases isBlock
      · exact .inr (onward rfl leaves)
  | case6 mark character rest single ih =>
      rcases ih inside with ⟨isBlock, _⟩ | leaves
      · split at isBlock <;> cases isBlock
      · exact .inr (onward (next?.eq_4 _ _ _ single) leaves)
  | case9 rest ih =>
      rcases ih inside with ⟨_, still⟩ | leaves
      · exact .inr ⟨rest, .mark rest, still⟩
      · exact .inr (onward rfl leaves)
  | case10 character rest line block ih =>
      rcases ih inside with ⟨isBlock, _⟩ | leaves
      · split at isBlock <;> cases isBlock
      · exact .inr (onward (next?.eq_7 _ _ line block) leaves)

/-- **A block comment is open at the end of a line** if and only if the line opens one that it does
not close, or does not close the one in which it starts. -/
theorem inBlock_iff {mode : Mode} {line : List Char} :
    (scan mode line).inBlock = true ↔
      mode = .block ∧ ¬ closing <:+: line ∨ LeavesOpen mode line := by
  refine ⟨unclosed_or_leavesOpen, ?_⟩
  rintro (⟨rfl, unclosed⟩ | leaves)
  · exact inBlock_of_unclosed unclosed
  · exact inBlock_of_leavesOpen leaves

/-- Inside a block comment, the next piece is the mark that closes it or any other character. -/
theorem next?_of_block {mode mode' : Mode} {line rest : List Char} (inside : mode = .block)
    (reads : next? mode line = some (mode', rest)) :
    line = closing ++ rest ∨ mode' = .block ∧ ∃ character, line = character :: rest := by
  fun_cases scan mode line with
  | case1 => cases reads
  | case2 =>
      cases reads
      exact .inl rfl
  | case3 character rest unclosed =>
      rw [next?.eq_2 _ _ unclosed] at reads
      cases reads
      exact .inr ⟨rfl, character, rfl⟩
  | case4 | case5 | case6 | case7 | case8 | case9 | case10 => cases inside

theorem closing_of_opens {mode : Mode} {line interior : List Char}
    (opens : Opens mode line interior) (inside : mode = .block) : closing <:+: line := by
  induction opens with
  | mark interior => cases inside
  | @behind _ _ _ rest _ reads _ ih =>
      rcases next?_of_block inside reads with closes | ⟨still, character, rfl⟩
      · exact closes ▸ ⟨[], rest, rfl⟩
      · exact List.infix_cons (ih still)

/-- A line that opens a block comment inside another one closes that first. -/
theorem closing_of_leavesOpen {line : List Char} (leaves : LeavesOpen .block line) :
    closing <:+: line := by
  obtain ⟨interior, opens, -⟩ := leaves
  exact closing_of_opens opens rfl

end CommentDirectives.Comments
