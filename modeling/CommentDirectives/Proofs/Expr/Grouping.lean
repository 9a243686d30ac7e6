import CommentDirectives.Proofs.Expr.Grammar

/-!
# Grouping by tiers follows the grammar

While a chain of operands is read, operations wait for their right operands in a
list.  Their tiers rise towards the innermost one, and each of them has a left
operand of its own layer (`Waiting`).  Closing the operations down to a tier keeps
this, so that what a chain becomes is a tree of the grammar (`Waiting.closeDownTo`,
`Waiting.pushOperator`).

Conversely every tree of a layer is what a chain of tighter operands becomes,
whatever looser operations wait in front of it (`Chain`): seen from an operation of
its own tier or of a looser one, the chain is as good as the tree.
-/

namespace CommentDirectives.Expr

set_option autoImplicit false

open Grammar

/-! ## Closing operations -/

/-- Closing down to the loosest tier closes all operations. -/
theorem closeDownTo_logical (pending : List Pending) (operand : Expr) :
    closeDownTo .logical pending operand = ([], closeAll pending operand) := by
  induction pending generalizing operand with
  | nil => rfl
  | cons innermost outer ih => exact (if_pos (Nat.zero_le _)).trans (ih _)

theorem closeDownTo_of_le {tier : Tier} {innermost : Pending}
    (tight : tier.rank ≤ innermost.operator.tier.rank) (outer : List Pending) (operand : Expr) :
    closeDownTo tier (innermost :: outer) operand =
      closeDownTo tier outer (innermost.close operand) :=
  if_pos tight

/-- Operations that bind less tightly than a tier stay open. -/
theorem closeDownTo_of_lt {tier : Tier} {pending : List Pending}
    (loose : ∀ waiting ∈ pending, waiting.operator.tier.rank < tier.rank) (operand : Expr) :
    closeDownTo tier pending operand = (pending, operand) := by
  cases pending with
  | nil => rfl
  | cons innermost outer =>
      exact if_neg (Nat.not_le.mpr (loose innermost List.mem_cons_self))

/-! ## What becomes of a chain is in the grammar -/

/-- Operations that wait for their right operands and bind less tightly than a layer, the looser
ones further outside, with the tokens from which they were read. -/
inductive Waiting : Nat → List Pending → List Lexeme → Prop where
  | none {layer : Nat} : Waiting layer [] []
  | operation {layer : Nat} {innermost : Pending} {outer : List Pending}
      {before lexemes : List Lexeme} : Waiting innermost.operator.tier.rank outer before →
      Derives innermost.operator.tier.rank lexemes innermost.left →
      innermost.operator.tier.rank < layer →
      Waiting layer (innermost :: outer)
        (before ++ (lexemes ++ [⟨.operator innermost.operator, innermost.offset⟩]))

/-- **Closing operations down to a tier keeps to the grammar.**  The same tokens stand for the
operations that still wait and for an operand of the tier. -/
theorem Waiting.closeDownTo (tier : Tier) {layer : Nat} {pending : List Pending}
    {before lexemes : List Lexeme} {operand : Expr} (waiting : Waiting layer pending before)
    (derives : Derives layer lexemes operand) (looser : tier.rank ≤ layer) :
    ∃ before' lexemes', before ++ lexemes = before' ++ lexemes' ∧
      Waiting tier.rank (closeDownTo tier pending operand).1 before' ∧
      Derives tier.rank lexemes' (closeDownTo tier pending operand).2 := by
  induction waiting generalizing lexemes operand with
  | none => exact ⟨[], lexemes, rfl, .none, derives.downTo looser⟩
  | @operation layer innermost outer before taken waiting left within ih =>
      by_cases tight : tier.rank ≤ innermost.operator.tier.rank
      · obtain ⟨operators, inTier, member⟩ := innermost.operator.mem_tier
        have closed : Derives innermost.operator.tier.rank
            (taken ++ ⟨.operator innermost.operator, innermost.offset⟩ :: lexemes)
            (innermost.close operand) :=
          .binary innermost.offset inTier member left (derives.downTo within)
        rw [closeDownTo_of_le tight]
        obtain ⟨before', lexemes', same, onward⟩ := ih closed tight
        refine ⟨before', lexemes', ?_, onward⟩
        rw [← same]
        simp only [List.append_assoc, List.cons_append, List.nil_append]
      · have loose : innermost.operator.tier.rank < tier.rank := Nat.lt_of_not_le tight
        have stays : Expr.closeDownTo tier (innermost :: outer) operand =
            (innermost :: outer, operand) := if_neg tight
        rw [stays]
        exact ⟨_, lexemes, rfl, .operation waiting left loose, derives.downTo looser⟩

/-- An operator behind an operand joins the operations that wait. -/
theorem Waiting.pushOperator {pending : List Pending} {before lexemes : List Lexeme}
    {operand : Expr} (waiting : Waiting prefixLayer pending before)
    (derives : Derives prefixLayer lexemes operand) (operator : BinaryOperator) (offset : Nat) :
    Waiting prefixLayer (pushOperator pending operand operator offset)
      (before ++ (lexemes ++ [⟨.operator operator, offset⟩])) := by
  have within := operator.rank_lt
  obtain ⟨before', lexemes', same, waiting', left⟩ :=
    waiting.closeDownTo operator.tier derives (Nat.le_of_lt within)
  rw [← List.append_assoc, same, List.append_assoc]
  exact .operation waiting' left within

/-- What all operations together become is a tree of the loosest layer. -/
theorem Waiting.closeAll {pending : List Pending} {before lexemes : List Lexeme} {operand : Expr}
    (waiting : Waiting prefixLayer pending before)
    (derives : Derives prefixLayer lexemes operand) :
    Derives 0 (before ++ lexemes) (closeAll pending operand) := by
  obtain ⟨before', lexemes', same, waiting', closed⟩ :=
    waiting.closeDownTo .logical derives (Nat.zero_le _)
  rw [closeDownTo_logical] at waiting' closed
  cases waiting' with
  | none => rw [same]; exact closed

/-! ## Every tree of the grammar is what a chain becomes -/

/-- A binary operator with its right operand, and the tokens of that. -/
structure Link where
  operator : BinaryOperator
  offset : Nat
  operand : Expr
  lexemes : List Lexeme

/-- The tokens of some links. -/
def linkLexemes : List Link → List Lexeme
  | [] => []
  | link :: links =>
    ⟨.operator link.operator, link.offset⟩ :: (link.lexemes ++ linkLexemes links)

/-- The operations that wait behind an operand and some links, and the last operand. -/
def joinLinks (pending : List Pending) (operand : Expr) : List Link → List Pending × Expr
  | [] => (pending, operand)
  | link :: links =>
    joinLinks (pushOperator pending operand link.operator link.offset) link.operand links

theorem linkLexemes_append (links links' : List Link) :
    linkLexemes (links ++ links') = linkLexemes links ++ linkLexemes links' := by
  induction links with
  | nil => rfl
  | cons link links ih => simp only [List.cons_append, linkLexemes, ih, List.append_assoc]

theorem joinLinks_append (pending : List Pending) (operand : Expr) (links links' : List Link) :
    joinLinks pending operand (links ++ links') =
      joinLinks (joinLinks pending operand links).1 (joinLinks pending operand links).2 links' := by
  induction links generalizing pending operand with
  | nil => rfl
  | cons link links ih => exact ih _ _

/-- A chain of operands, each of them read in a given way, that becomes a tree of a layer, whatever
looser operations wait in front of it. -/
inductive Chain (reads : List Lexeme → Expr → Prop) (layer : Nat) (lexemes : List Lexeme)
    (expr : Expr) : Prop where
  | intro (first : Expr) (start : List Lexeme) (links : List Link)
      (written : lexemes = start ++ linkLexemes links) (readsFirst : reads start first)
      (readsLinks : ∀ link ∈ links, reads link.lexemes link.operand)
      (tight : ∀ link ∈ links, layer ≤ link.operator.tier.rank)
      (becomes : ∀ pending : List Pending,
        (∀ waiting ∈ pending, waiting.operator.tier.rank < layer) →
        ∀ tier : Tier, tier.rank ≤ layer →
          closeDownTo tier (joinLinks pending first links).1 (joinLinks pending first links).2 =
            closeDownTo tier pending expr)

namespace Chain

variable {reads : List Lexeme → Expr → Prop} {layer : Nat} {lexemes before behind : List Lexeme}
  {expr left right : Expr}

/-- An operand alone. -/
theorem single (read : reads lexemes expr) : Chain reads layer lexemes expr :=
  .intro expr lexemes [] (List.append_nil lexemes).symm read nofun nofun fun _ _ _ _ => rfl

/-- A chain of one layer is one of the next looser layer. -/
theorem looser (chain : Chain reads (layer + 1) lexemes expr) : Chain reads layer lexemes expr := by
  obtain ⟨first, start, links, written, readsFirst, readsLinks, tight, becomes⟩ := chain
  refine .intro first start links written readsFirst readsLinks
    (fun link member => Nat.le_of_succ_le (tight link member)) ?_
  intro pending loose tier looser
  exact becomes pending (fun waiting member => Nat.lt_succ_of_lt (loose waiting member)) tier
    (Nat.le_succ_of_le looser)

/-- **Two chains with an operator between them.**  The operator closes what is open of the left
chain, and whatever is looser than it closes the right chain before the operator. -/
theorem binary {operator : BinaryOperator} (offset : Nat)
    (chainLeft : Chain reads operator.tier.rank before left)
    (chainRight : Chain reads (operator.tier.rank + 1) behind right) :
    Chain reads operator.tier.rank (before ++ ⟨.operator operator, offset⟩ :: behind)
      (.binary operator left right offset) := by
  obtain ⟨first, start, links, written, readsFirst, readsLinks, tight, becomes⟩ := chainLeft
  obtain ⟨next, start', links', written', readsNext, readsLinks', tight', becomes'⟩ := chainRight
  let link : Link := ⟨operator, offset, next, start'⟩
  refine .intro first start (links ++ link :: links') ?_ readsFirst ?_ ?_ ?_
  · rw [written, written', linkLexemes_append, linkLexemes, List.append_assoc]
  · intro other member
    rcases List.mem_append.mp member with member | member
    · exact readsLinks other member
    · rcases List.mem_cons.mp member with rfl | member
      · exact readsNext
      · exact readsLinks' other member
  · intro other member
    rcases List.mem_append.mp member with member | member
    · exact tight other member
    · rcases List.mem_cons.mp member with rfl | member
      · exact Nat.le_refl _
      · exact Nat.le_of_succ_le (tight' other member)
  · intro pending loose tier looser
    -- the operator finds the operations of the left chain closed to its left operand
    have pushed : pushOperator (joinLinks pending first links).1 (joinLinks pending first links).2
        operator offset = ⟨left, operator, offset⟩ :: pending := by
      rw [pushOperator, becomes pending loose operator.tier (Nat.le_refl _),
        closeDownTo_of_lt loose]
    have looseBehind : ∀ waiting ∈ (⟨left, operator, offset⟩ :: pending : List Pending),
        waiting.operator.tier.rank < operator.tier.rank + 1 := by
      intro waiting member
      rcases List.mem_cons.mp member with rfl | member
      · exact Nat.lt_succ_self _
      · exact Nat.lt_succ_of_lt (loose waiting member)
    rw [joinLinks_append, joinLinks, pushed]
    calc closeDownTo tier (joinLinks (⟨left, operator, offset⟩ :: pending) next links').1
          (joinLinks (⟨left, operator, offset⟩ :: pending) next links').2
        = closeDownTo tier (⟨left, operator, offset⟩ :: pending) right :=
          becomes' _ looseBehind tier (Nat.le_succ_of_le looser)
      _ = closeDownTo tier pending (.binary operator left right offset) :=
          closeDownTo_of_le looser pending right

/-- A chain of the layers above the binary operators is an operand alone. -/
theorem read_of_prefixLayer (chain : Chain reads prefixLayer lexemes expr) :
    reads lexemes expr := by
  obtain ⟨first, start, links, written, readsFirst, _, tight, becomes⟩ := chain
  cases links with
  | nil =>
      have same := becomes [] nofun .logical (Nat.zero_le _)
      obtain rfl : first = expr := congrArg Prod.snd same
      rw [written, linkLexemes, List.append_nil]
      exact readsFirst
  | cons link links =>
      exact absurd (tight link List.mem_cons_self) (Nat.not_le.mpr link.operator.rank_lt)

end Chain

end CommentDirectives.Expr
