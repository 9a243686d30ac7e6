import CommentDirectives.Directive
import CommentDirectives.Line.Form

/-!
# Keywords of conditional blocks

The lines of conditional blocks give a sequence of parts, one for each line that opens a block,
starts another branch or closes a block.  The grammar of balanced sequences has blocks in blocks,
alternatives in any number and at most one last branch behind them (`BlockPart.Balanced`).  What
stands between the opening of a block and the place where it may be closed is a grammar of its own
(`BlockPart.Inside`).

A stack with one truth value for each open block, which says whether its last branch has started,
reads such a sequence part by part (`BlockPart.admit?`).  On a balanced sequence it comes back to
where it started (`BlockPart.Balanced.follow?`), and so a sequence at which it gets stuck is not the
beginning of a balanced one (`BlockPart.not_extensible_of_refused`).
-/

namespace CommentDirectives

set_option autoImplicit false

/-- The part that a line plays in conditional blocks. -/
inductive BlockPart where
  /-- It opens a block. -/
  | opening
  /-- It starts a branch with a condition. -/
  | elseIf
  /-- It starts the last branch. -/
  | otherwise
  /-- It closes a block. -/
  | close
  deriving DecidableEq, Repr

/-- The part that a directive plays in conditional blocks, if it belongs to them. -/
def Directive.blockPart? : Directive → Option BlockPart
  | .openIf | .openIfDefined | .openIfUndefined => some .opening
  | .elseIf => some .elseIf
  | .otherwise => some .otherwise
  | .close => some .close
  | _ => none

/-- The part that a line plays in conditional blocks, by its form. -/
def LineForm.blockPart? : LineForm → Option BlockPart
  | .directive keyword _ => (Directive.withKeyword? keyword).bind Directive.blockPart?
  | _ => none

namespace BlockPart

/-- The parts that some lines play in conditional blocks, whether or not the lines count. -/
def ofLines (allowBlanks : Bool) (lines : List (List Char)) : List BlockPart :=
  lines.filterMap fun line => (LineForm.ofLine allowBlanks line).blockPart?

theorem ofLines_append (allowBlanks : Bool) (front back : List (List Char)) :
    ofLines allowBlanks (front ++ back) = ofLines allowBlanks front ++ ofLines allowBlanks back :=
  List.filterMap_append

/-- The parts of lines up to one that plays a part. -/
theorem ofLines_concat {allowBlanks : Bool} {line : List Char} {part : BlockPart}
    (plays : (LineForm.ofLine allowBlanks line).blockPart? = some part)
    (front : List (List Char)) :
    ofLines allowBlanks (front ++ [line]) = ofLines allowBlanks front ++ [part] := by
  rw [ofLines_append]
  congr 1
  exact List.filterMap_cons_some plays

/-! ## The grammar -/

mutual
/-- Sequences in which every block is closed. -/
inductive Balanced : List BlockPart → Prop where
  | empty : Balanced []
  | block {lastSeen : Bool} {inside rest : List BlockPart} (branches : Inside lastSeen inside)
      (behind : Balanced rest) : Balanced (.opening :: (inside ++ .close :: rest))

/-- Sequences of branches inside one block, up to a place where it may be closed, by whether the
last branch has started. -/
inductive Inside : Bool → List BlockPart → Prop where
  | first {body : List BlockPart} (balanced : Balanced body) : Inside false body
  | elseIf {front body : List BlockPart} (branches : Inside false front)
      (balanced : Balanced body) : Inside false (front ++ .elseIf :: body)
  | otherwise {front body : List BlockPart} (branches : Inside false front)
      (balanced : Balanced body) : Inside true (front ++ .otherwise :: body)
end

/-- Sequences that some balanced sequence starts with. -/
def Extensible (parts : List BlockPart) : Prop := ∃ suffix, Balanced (parts ++ suffix)

/-- A balanced sequence behind another. -/
theorem Balanced.append {front back : List BlockPart} :
    Balanced front → Balanced back → Balanced (front ++ back)
  | .empty, balanced => balanced
  | .block branches behind, balanced => by
      have whole := Balanced.block branches (behind.append balanced)
      simpa only [List.cons_append, List.append_assoc] using whole

/-- A balanced sequence in the branch where one stands. -/
theorem Inside.append {lastSeen : Bool} {front back : List BlockPart}
    (branches : Inside lastSeen front) (balanced : Balanced back) :
    Inside lastSeen (front ++ back) := by
  cases branches with
  | first body => exact .first (body.append balanced)
  | elseIf branches body =>
      rw [List.append_assoc, List.cons_append]
      exact .elseIf branches (body.append balanced)
  | otherwise branches body =>
      rw [List.append_assoc, List.cons_append]
      exact .otherwise branches (body.append balanced)

/-- One block. -/
theorem Inside.closed {lastSeen : Bool} {inside : List BlockPart}
    (branches : Inside lastSeen inside) : Balanced (.opening :: (inside ++ [.close])) :=
  .block branches .empty

theorem Balanced.extensible {parts : List BlockPart} (balanced : Balanced parts) :
    Extensible parts :=
  ⟨[], by rwa [List.append_nil]⟩

/-- What an extensible sequence starts with is extensible. -/
theorem Extensible.front {front back : List BlockPart} (extensible : Extensible (front ++ back)) :
    Extensible front := by
  obtain ⟨suffix, balanced⟩ := extensible
  exact ⟨back ++ suffix, by rwa [← List.append_assoc]⟩

/-! ## Reading part by part -/

/-- The open blocks behind a part, each by whether its last branch has started; empty where the
part fits none of them. -/
def admit? : List Bool → BlockPart → Option (List Bool)
  | stack, .opening => some (false :: stack)
  | false :: outer, .elseIf => some (false :: outer)
  | false :: outer, .otherwise => some (true :: outer)
  | _ :: outer, .close => some outer
  | _, _ => none

/-- The open blocks behind some parts. -/
def follow? (stack : List Bool) (parts : List BlockPart) : Option (List Bool) :=
  parts.foldlM admit? stack

theorem follow?_append (stack : List Bool) (front back : List BlockPart) :
    follow? stack (front ++ back) = (follow? stack front).bind fun stack => follow? stack back :=
  List.foldlM_append

theorem follow?_cons (stack : List Bool) (part : BlockPart) (rest : List BlockPart) :
    follow? stack (part :: rest) = (admit? stack part).bind fun stack => follow? stack rest :=
  List.foldlM_cons

mutual
/-- A balanced sequence leaves the open blocks as they were. -/
theorem Balanced.follow? {parts : List BlockPart} :
    Balanced parts → ∀ stack, follow? stack parts = some stack
  | .empty, _ => rfl
  | .block branches behind, stack => by
      rw [follow?_cons, admit?, Option.bind_some, follow?_append, branches.follow? stack,
        Option.bind_some, follow?_cons, admit?, Option.bind_some, behind.follow? stack]

/-- The branches of a block leave the blocks around it as they were. -/
theorem Inside.follow? {lastSeen : Bool} {parts : List BlockPart} :
    Inside lastSeen parts → ∀ outer, follow? (false :: outer) parts = some (lastSeen :: outer)
  | .first balanced, outer => balanced.follow? (false :: outer)
  | .elseIf branches balanced, outer => by
      rw [follow?_append, branches.follow? outer, Option.bind_some, follow?_cons, admit?,
        Option.bind_some, balanced.follow? (false :: outer)]
  | .otherwise branches balanced, outer => by
      rw [follow?_append, branches.follow? outer, Option.bind_some, follow?_cons, admit?,
        Option.bind_some, balanced.follow? (true :: outer)]
end

/-- **A part that fits no open block ends every hope of balance.** -/
theorem not_extensible_of_refused {parts : List BlockPart} {part : BlockPart} {stack : List Bool}
    (followed : follow? [] parts = some stack) (refused : admit? stack part = none) :
    ¬Extensible (parts ++ [part]) := by
  rintro ⟨suffix, balanced⟩
  have whole := balanced.follow? []
  rw [List.append_assoc, follow?_append, followed, Option.bind_some, List.singleton_append,
    follow?_cons, refused] at whole
  cases whole

/-- **A sequence behind which blocks are open is not balanced.** -/
theorem not_balanced_of_open {parts : List BlockPart} {lastSeen : Bool} {outer : List Bool}
    (followed : follow? [] parts = some (lastSeen :: outer)) : ¬Balanced parts := by
  intro balanced
  cases followed.symm.trans (balanced.follow? [])

end BlockPart

end CommentDirectives
