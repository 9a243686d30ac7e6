import CommentDirectives.Proofs.Comments.Interiors

/-!
# What is left of a line holds no comment

A line is free of comments when the reader of comments takes nothing from it and finds none open at
its end (`Comments.Free`).  What is left of a line without its comments is free of them
(`Comments.free_strip`): a slash that is kept is followed by what followed it in the line, so the
removal of a comment never puts the characters of a mark together.

So it makes no difference to remove comments from the lines of a text a second time
(`Comments.leftOf_again`).
-/

namespace CommentDirectives

set_option autoImplicit false

namespace Text

/-- A text without its trailing blanks is what it starts with. -/
theorem trimEnd_isPrefix (text : List Char) : trimEnd text <+: text :=
  List.rdropWhile_prefix isBlank text

end Text

namespace Comments

/-- Whether the reader of comments, at the start of a text, takes nothing from a line and finds no
comment open at its end. -/
def Free (line : List Char) : Prop := strip false line = (line, false)

instance (line : List Char) : Decidable (Free line) :=
  inferInstanceAs (Decidable (strip false line = (line, false)))

/-- The mode in which what is left of a line is read again. -/
def Mode.again : Mode → Mode
  | .block | .plain => .plain
  | .quoted mark => .quoted mark

theorem Mode.again_of_visible {mode : Mode} (visible : mode ≠ .block) : mode.again = mode := by
  cases mode with
  | block => exact absurd rfl visible
  | plain | quoted mark => rfl

/-! ## What stays -/

/-- A line that loses nothing does not end inside a comment. -/
theorem inBlock_of_not_removed (mode : Mode) (line : List Char)
    (unchanged : (scan mode line).removed = false) : (scan mode line).inBlock = false := by
  fun_induction scan mode line with
  | case1 | case2 | case3 | case8 | case9 => cases unchanged
  | case4 | case7 => rfl
  | case5 mark escaped rest ih => exact ih unchanged
  | case6 mark character rest single ih => exact ih unchanged
  | case10 character rest line block ih => exact ih unchanged

/-- A line from which nothing is removed is free of comments. -/
theorem free_of_not_removed {line : List Char} (unchanged : (scan .plain line).removed = false) :
    Free line := by
  have kept := kept_of_not_removed .plain line unchanged
  have closed := inBlock_of_not_removed .plain line unchanged
  rw [Free, strip, if_neg Bool.false_ne_true]
  simp only [unchanged, kept, closed, if_neg Bool.false_ne_true]

/-- What is kept of a line is a part of it. -/
theorem kept_sublist (mode : Mode) (line : List Char) : (scan mode line).kept.Sublist line := by
  fun_induction scan mode line with
  | case1 | case4 | case7 => exact .slnil
  | case8 rest => exact List.nil_sublist _
  | case2 rest ih | case9 rest ih => exact (ih.cons _).cons _
  | case3 character rest unclosed ih => exact ih.cons _
  | case5 mark escaped rest ih => exact (ih.cons_cons _).cons_cons _
  | case6 mark character rest single ih => exact ih.cons_cons _
  | case10 character rest line block ih => exact ih.cons_cons _

/-- What is left of a line without its comments is the start of what is kept. -/
theorem strip_isPrefix (inBlock : Bool) (line : List Char) :
    (strip inBlock line).1 <+: (scan (Mode.atStart inBlock) line).kept := by
  have left (remains : Remains) :
      (if remains.removed then Text.trimEnd remains.kept else remains.kept) <+: remains.kept := by
    split
    · exact Text.trimEnd_isPrefix _
    · exact List.prefix_refl _
  exact left _

/-- What is left of a line without its comments is a part of it. -/
theorem strip_sublist (inBlock : Bool) (line : List Char) :
    (strip inBlock line).1.Sublist line :=
  (strip_isPrefix inBlock line).sublist.trans (kept_sublist _ line)

/-- What follows a slash that starts no comment is kept behind it. -/
theorem exists_cons_of_kept {rest seen : List Char} {character : Char}
    (line : ∀ behind, rest ≠ '/' :: behind)
    (sees : (scan .plain rest).kept = character :: seen) :
    ∃ behind, rest = character :: behind := by
  cases rest with
  | nil => cases sees
  | cons next rest =>
      have other : next ≠ '/' := fun slash => line rest (by rw [slash])
      rw [scan.eq_10 _ _ (fun _ slash _ => other slash) (fun _ slash _ => other slash)] at sees
      obtain rfl : next = character := (List.cons.inj sees).1
      exact ⟨rest, rfl⟩

/-- **Nothing is removed from what is left of a line.** -/
theorem not_removed_kept (mode : Mode) (line : List Char) :
    (scan mode.again (scan mode line).kept).removed = false := by
  fun_induction scan mode line with
  | case1 | case4 | case7 | case8 => rfl
  | case2 rest ih | case3 character rest unclosed ih | case9 rest ih => exact ih
  | case5 mark escaped rest ih => exact ih
  | case6 mark character rest single ih =>
      have visible : (if character = mark then Mode.plain else .quoted mark) ≠ .block := by
        split <;> simp
      rw [Mode.again_of_visible visible] at ih
      rw [Remains.keep, Mode.again, scan.eq_6]
      · exact ih
      · -- a single backslash is the last character of its line
        intro escaped seen backslash sees
        cases rest with
        | nil => split at sees <;> cases sees
        | cons next rest => exact single next rest backslash rfl
  | case10 character rest line block ih =>
      have visible : (if character = '"' ∨ character = '\'' then Mode.quoted character
          else .plain) ≠ .block := by
        split <;> simp
      rw [Mode.again_of_visible visible] at ih
      -- behind a slash, what is seen next is what follows it in the line
      have follows {next : Char} {seen : List Char} (slash : character = '/')
          (sees : (scan (if character = '"' ∨ character = '\'' then .quoted character
            else .plain) rest).kept = next :: seen) : ∃ behind, rest = next :: behind := by
        subst slash
        exact exists_cons_of_kept (fun behind => line behind rfl) sees
      rw [Remains.keep, Mode.again, scan.eq_10]
      · exact ih
      · intro seen slash sees
        obtain ⟨behind, starts⟩ := follows slash sees
        exact line behind slash starts
      · intro seen slash sees
        obtain ⟨behind, starts⟩ := follows slash sees
        exact block behind slash starts

/-- What a line that loses nothing starts with loses nothing. -/
theorem not_removed_of_prefix (mode : Mode) {line shorter : List Char}
    (unchanged : (scan mode line).removed = false) (starts : shorter <+: line) :
    (scan mode shorter).removed = false := by
  fun_induction scan mode line generalizing shorter with
  | case1 | case2 | case3 | case8 | case9 => cases unchanged
  | case4 | case7 =>
      rw [List.prefix_nil.mp starts]
      rfl
  | case5 mark escaped rest ih =>
      cases shorter with
      | nil => rfl
      | cons first shorter =>
          obtain ⟨rfl, onward⟩ := List.cons_prefix_cons.mp starts
          cases shorter with
          | nil =>
              rw [scan.eq_6 _ _ _ (fun _ _ _ follows => by cases follows)]
              split <;> rfl
          | cons next shorter =>
              obtain ⟨rfl, onward'⟩ := List.cons_prefix_cons.mp onward
              have behind := ih unchanged onward'
              exact behind
  | case6 mark character rest single ih =>
      cases shorter with
      | nil => rfl
      | cons first shorter =>
          obtain ⟨rfl, onward⟩ := List.cons_prefix_cons.mp starts
          rw [scan.eq_6]
          · exact ih unchanged onward
          · rintro escaped seen backslash rfl
            obtain ⟨behind, rfl⟩ := onward
            exact single _ _ backslash rfl
  | case10 character rest line block ih =>
      cases shorter with
      | nil => rfl
      | cons first shorter =>
          obtain ⟨rfl, onward⟩ := List.cons_prefix_cons.mp starts
          rw [scan.eq_10]
          · exact ih unchanged onward
          · rintro seen slash rfl
            obtain ⟨behind, rfl⟩ := onward
            exact line _ slash rfl
          · rintro seen slash rfl
            obtain ⟨behind, rfl⟩ := onward
            exact block _ slash rfl

/-- **What is left of a line without its comments is free of comments.** -/
theorem free_strip (inBlock : Bool) (line : List Char) : Free (strip inBlock line).1 := by
  refine free_of_not_removed ?_
  have kept : (scan .plain (scan (Mode.atStart inBlock) line).kept).removed = false := by
    have again := not_removed_kept (Mode.atStart inBlock) line
    cases inBlock with
    | true | false => exact again
  exact not_removed_of_prefix .plain kept (strip_isPrefix inBlock line)

/-! ## Lines in order -/

/-- Whether a block comment is open behind some lines. -/
def openAfter (inBlock : Bool) (lines : List (List Char)) : Bool :=
  lines.foldl (fun inBlock line => (strip inBlock line).2) inBlock

/-- What is left of some lines. -/
def leftOf (inBlock : Bool) (lines : List (List Char)) : List (List Char) :=
  (stripAll inBlock lines).map Prod.fst

theorem leftOf_cons (inBlock : Bool) (line : List Char) (rest : List (List Char)) :
    leftOf inBlock (line :: rest) = (strip inBlock line).1 :: leftOf (strip inBlock line).2 rest :=
  rfl

/-- Lines further behind are read with what those in front of them left open. -/
theorem leftOf_append (inBlock : Bool) (front rest : List (List Char)) :
    leftOf inBlock (front ++ rest) =
      leftOf inBlock front ++ leftOf (openAfter inBlock front) rest := by
  induction front generalizing inBlock with
  | nil => rfl
  | cons line front ih =>
      rw [List.cons_append, leftOf_cons, ih, leftOf_cons]
      rfl

theorem length_leftOf (inBlock : Bool) (lines : List (List Char)) :
    (leftOf inBlock lines).length = lines.length := by
  induction lines generalizing inBlock with
  | nil => rfl
  | cons line rest ih => rw [leftOf_cons, List.length_cons, List.length_cons, ih]

/-- What is left of each line is free of comments. -/
theorem free_of_mem_leftOf {inBlock : Bool} {lines : List (List Char)} {line : List Char}
    (inside : line ∈ leftOf inBlock lines) : Free line := by
  induction lines generalizing inBlock with
  | nil => cases inside
  | cons first rest ih =>
      rw [leftOf_cons] at inside
      rcases List.mem_cons.mp inside with rfl | behind
      · exact free_strip inBlock first
      · exact ih behind

/-- Lines that are free of comments stay as they are, and open none. -/
theorem stripAll_of_free {lines : List (List Char)} (free : ∀ line ∈ lines, Free line) :
    stripAll false lines = lines.map fun line => (line, false) := by
  induction lines with
  | nil => rfl
  | cons line rest ih =>
      obtain ⟨first, others⟩ := List.forall_mem_cons.mp free
      rw [stripAll, List.map_cons, first, ih others]

/-- Not more is kept of a line than it has. -/
theorem kept_ne_of_longer {mode : Mode} {line longer : List Char}
    (longerLine : line.length < longer.length) : (scan mode line).kept ≠ longer := by
  rintro rfl
  exact Nat.not_lt.mpr (kept_sublist mode line).length_le longerLine

/-- Where all characters of a line are kept, nothing was removed; behind an open comment only an
empty line is like that. -/
theorem not_removed_of_kept {mode : Mode} {line : List Char} (kept : (scan mode line).kept = line) :
    (scan mode line).removed = false ∨ line = [] := by
  fun_induction scan mode line with
  | case1 => exact .inr rfl
  | case4 | case7 => exact .inl rfl
  | case8 rest => cases kept
  | case2 rest ih | case9 rest ih =>
      exact absurd kept (kept_ne_of_longer (Nat.lt_add_of_pos_right Nat.two_pos))
  | case3 character rest unclosed ih =>
      exact absurd kept (kept_ne_of_longer (Nat.lt_succ_self rest.length))
  | case5 mark escaped rest ih =>
      rcases ih (List.cons.inj (List.cons.inj kept).2).2 with unchanged | rfl
      · exact .inl unchanged
      · exact .inl rfl
  | case6 mark character rest single ih =>
      rcases ih (List.cons.inj kept).2 with unchanged | rfl
      · exact .inl unchanged
      · left
        split <;> rfl
  | case10 character rest line block ih =>
      rcases ih (List.cons.inj kept).2 with unchanged | rfl
      · exact .inl unchanged
      · left
        split <;> rfl

/-- A line of which all characters are kept comes back as it was. -/
theorem strip_of_kept {inBlock : Bool} {line : List Char}
    (kept : (scan (Mode.atStart inBlock) line).kept = line) : (strip inBlock line).1 = line := by
  rw [Mode.atStart] at kept
  rcases not_removed_of_kept kept with unchanged | rfl
  · simp only [strip, unchanged, kept, if_neg Bool.false_ne_true]
  · cases inBlock <;> rfl

/-- **Removing comments again removes nothing.**  Of lines that are read in order, outside or inside
a block comment, each that is left is free of comments, so that all of them stay as they are when
they are read in order again; and a line of which all characters are kept comes back as it was. -/
theorem leftOf_again (inBlock : Bool) (lines : List (List Char)) :
    (leftOf inBlock lines).length = lines.length ∧
      (∀ line ∈ leftOf inBlock lines, strip false line = (line, false)) ∧
      stripAll false (leftOf inBlock lines) =
        (leftOf inBlock lines).map (fun line => (line, false)) ∧
      ∀ front line rest, lines = front ++ line :: rest →
        (scan (Mode.atStart (openAfter inBlock front)) line).kept = line →
        (leftOf inBlock lines)[front.length]? = some line := by
  refine ⟨length_leftOf inBlock lines, fun line => free_of_mem_leftOf,
    stripAll_of_free fun line => free_of_mem_leftOf, ?_⟩
  rintro front line rest rfl kept
  rw [leftOf_append, leftOf_cons, strip_of_kept kept,
    List.getElem?_append_right (length_leftOf _ _).le, length_leftOf, Nat.sub_self]
  rfl

/-- A comment over two lines, and a line that looks like a comment only inside quotes. -/
theorem leftOf_again_quotedMark :
    leftOf false ["a /* b".toList, "// */ c // d".toList, "'//".toList] =
        ["a".toList, " c".toList, "'//".toList] ∧
      (leftOf false ["a /* b".toList, "// */ c // d".toList, "'//".toList])[2]? =
        some "'//".toList ∧
      stripAll false ["a".toList, " c".toList, "'//".toList] =
        [("a".toList, false), (" c".toList, false), ("'//".toList, false)] := by
  have left : leftOf false ["a /* b".toList, "// */ c // d".toList, "'//".toList] =
      ["a".toList, " c".toList, "'//".toList] := by decide
  obtain ⟨-, -, again, unchanged⟩ :=
    leftOf_again false ["a /* b".toList, "// */ c // d".toList, "'//".toList]
  refine ⟨left, ?_, ?_⟩
  · exact unchanged ["a /* b".toList, "// */ c // d".toList] "'//".toList [] rfl (by decide)
  · rw [left] at again
    exact again

end Comments

end CommentDirectives
