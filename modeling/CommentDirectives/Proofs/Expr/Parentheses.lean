import CommentDirectives.Proofs.Expr.Grammar

/-!
# Parentheses in pairs

Tokens are balanced if every parenthesis among them has its partner there.  What the grammar has a
tree for is balanced (`Balanced.of_derives`), so that reading goes on behind an expression with
all parentheses closed that were opened within it.

Whether an opening parenthesis has a partner is told of the tokens behind it (`Closed`): there are
balanced ones and then a closing parenthesis.  Balanced tokens do not close what was opened in front
of them (`Balanced.not_closed`), and leave nothing open themselves (`Balanced.allClosed`).
-/

namespace CommentDirectives.Expr

set_option autoImplicit false

open Grammar

/-- Tokens in which every parenthesis has its partner. -/
inductive Balanced : List Lexeme → Prop where
  | nil : Balanced []
  | other {lexeme : Lexeme} {rest : List Lexeme} : lexeme.token ≠ .openParen →
      lexeme.token ≠ .closeParen → Balanced rest → Balanced (lexeme :: rest)
  | group (opened closed : Nat) {inner rest : List Lexeme} : Balanced inner → Balanced rest →
      Balanced (⟨.openParen, opened⟩ :: (inner ++ ⟨.closeParen, closed⟩ :: rest))

/-- The tokens behind an opening parenthesis that has its partner among them. -/
def Closed (behind : List Lexeme) : Prop :=
  ∃ inner closed rest, behind = inner ++ ⟨.closeParen, closed⟩ :: rest ∧ Balanced inner

/-- Tokens in which every opening parenthesis has its partner. -/
def AllClosed (lexemes : List Lexeme) : Prop :=
  ∀ before opened behind, lexemes = before ++ ⟨.openParen, opened⟩ :: behind → Closed behind

variable {lexemes lexemes' : List Lexeme}

theorem Balanced.append (first : Balanced lexemes) (second : Balanced lexemes') :
    Balanced (lexemes ++ lexemes') := by
  induction first with
  | nil => exact second
  | other notOpened notClosed _ ih => exact .other notOpened notClosed ih
  | group opened closed inner _ _ ih =>
      rw [List.cons_append, List.append_assoc, List.cons_append]
      exact .group opened closed inner ih

theorem Balanced.comma (offset : Nat) (balanced : Balanced lexemes) :
    Balanced (⟨.comma, offset⟩ :: lexemes) :=
  .other nofun nofun balanced

theorem Balanced.enclosed (opened closed : Nat) (balanced : Balanced lexemes) :
    Balanced (⟨.openParen, opened⟩ :: (lexemes ++ [⟨.closeParen, closed⟩])) :=
  .group opened closed balanced .nil

/-! ## Depth -/

/-- How many more parentheses are opened than closed. -/
def depth : List Lexeme → Int
  | [] => 0
  | lexeme :: rest =>
    (if lexeme.token = .openParen then 1 else if lexeme.token = .closeParen then -1 else 0) +
      depth rest

theorem depth_append (lexemes lexemes' : List Lexeme) :
    depth (lexemes ++ lexemes') = depth lexemes + depth lexemes' := by
  induction lexemes with
  | nil => rw [List.nil_append, depth, Int.zero_add]
  | cons lexeme rest ih => rw [List.cons_append, depth, ih, depth, Int.add_assoc]

theorem depth_closeParen (offset : Nat) (rest : List Lexeme) :
    depth (⟨.closeParen, offset⟩ :: rest) = depth rest - 1 := by
  rw [depth, if_neg nofun, if_pos rfl]
  omega

theorem depth_openParen (offset : Nat) (rest : List Lexeme) :
    depth (⟨.openParen, offset⟩ :: rest) = depth rest + 1 := by
  rw [depth, if_pos rfl]
  omega

theorem Balanced.depth_eq (balanced : Balanced lexemes) : depth lexemes = 0 := by
  induction balanced with
  | nil => rfl
  | other notOpened notClosed _ ih => rw [depth, if_neg notOpened, if_neg notClosed, ih]; rfl
  | group opened closed _ _ ihInner ihRest =>
      rw [depth_openParen, depth_append, depth_closeParen, ihInner, ihRest]
      rfl

/-- Within balanced tokens nothing is closed that was opened in front of them. -/
theorem Balanced.depth_nonneg (balanced : Balanced lexemes) :
    ∀ front, front <+: lexemes → 0 ≤ depth front := by
  induction balanced with
  | nil =>
      intro front starts
      rw [List.prefix_nil.mp starts]
      exact Int.le_refl 0
  | other notOpened notClosed _ ih =>
      intro front starts
      rcases List.prefix_cons_iff.mp starts with rfl | ⟨further, rfl, onward⟩
      · exact Int.le_refl 0
      · rw [depth, if_neg notOpened, if_neg notClosed, Int.zero_add]
        exact ih further onward
  | @group opened closed inner rest balanced _ ihInner ihRest =>
      intro front starts
      rcases List.prefix_cons_iff.mp starts with rfl | ⟨onward, rfl, within⟩
      · exact Int.le_refl 0
      rw [depth_openParen]
      rcases List.prefix_or_prefix_of_prefix within (List.prefix_append inner _) with
        inside | ⟨beyond, rfl⟩
      · have := ihInner onward inside
        omega
      · rw [depth_append, balanced.depth_eq]
        rcases List.prefix_cons_iff.mp ((List.prefix_append_right_inj inner).mp within) with
          rfl | ⟨further, rfl, onward⟩
        · exact Int.le_of_lt Int.one_pos
        · rw [depth_closeParen]
          have := ihRest further onward
          omega

/-- **Balanced tokens close nothing that was opened in front of them.** -/
theorem Balanced.not_closed (balanced : Balanced lexemes) : ¬ Closed lexemes := by
  rintro ⟨inner, closed, rest, rfl, balanced'⟩
  have front : inner ++ [⟨.closeParen, closed⟩] <+: inner ++ ⟨.closeParen, closed⟩ :: rest :=
    ⟨rest, by rw [List.append_assoc, List.singleton_append]⟩
  have nonneg := balanced.depth_nonneg _ front
  rw [depth_append, depth_closeParen, balanced'.depth_eq] at nonneg
  exact absurd nonneg (by decide)

theorem Closed.append (closes : Closed lexemes) (lexemes' : List Lexeme) :
    Closed (lexemes ++ lexemes') := by
  obtain ⟨inner, closed, rest, rfl, balanced⟩ := closes
  exact ⟨inner, closed, rest ++ lexemes', by rw [List.append_assoc, List.cons_append], balanced⟩

/-- **Balanced tokens leave nothing open.** -/
theorem Balanced.allClosed (balanced : Balanced lexemes) : AllClosed lexemes := by
  induction balanced with
  | nil =>
      intro before opened behind same
      exact absurd same.symm (List.append_ne_nil_of_right_ne_nil _ nofun)
  | other notOpened _ _ ih =>
      intro before opened behind same
      rcases List.cons_eq_append_iff.mp same with ⟨rfl, first⟩ | ⟨before, rfl, onward⟩
      · obtain ⟨rfl, rfl⟩ := List.cons.inj first
        exact absurd rfl notOpened
      · exact ih before opened behind onward
  | @group opened closed inner rest balanced _ ihInner ihRest =>
      intro before opened' behind same
      rcases List.cons_eq_append_iff.mp same with ⟨rfl, first⟩ | ⟨before, rfl, onward⟩
      · rw [(List.cons.inj first).2]
        exact ⟨inner, closed, rest, rfl, balanced⟩
      -- the parenthesis stands within the group or behind the one that closes it
      rcases List.append_eq_append_iff.mp onward with
        ⟨further, rfl, outside⟩ | ⟨further, within, outside⟩
      · rcases List.cons_eq_append_iff.mp outside with ⟨-, first⟩ | ⟨beyond, rfl, behindGroup⟩
        · cases first
        · exact ihRest beyond opened' behind behindGroup
      · rcases List.cons_eq_append_iff.mp outside with ⟨rfl, first⟩ | ⟨beyond, rfl, behindGroup⟩
        · cases first
        · rw [behindGroup]
          exact (ihInner before opened' beyond within).append _

/-! ## Trees -/

theorem Balanced.of_separated {parts : List (List Lexeme)} (separated : Separated parts lexemes)
    (each : ∀ part ∈ parts, Balanced part) : Balanced lexemes := by
  induction separated with
  | none => exact .nil
  | one part => exact each part (.head _)
  | more part offset _ ih =>
      exact (each part (.head _)).append
        (.comma offset (ih fun other member => each other (.tail _ member)))

/-- **What has a tree is balanced.** -/
theorem Balanced.of_derives {layer : Nat} {expr : Expr} (derives : Derives layer lexemes expr) :
    Balanced lexemes := by
  induction derives with
  | looser _ ih => exact ih
  | binary offset _ _ _ _ left right =>
      exact left.append (.other nofun nofun right)
  | unary operator offset _ ih =>
      refine .other ?_ ?_ ih <;> cases operator <;> exact nofun
  | literal value offset =>
      refine .other ?_ ?_ .nil <;> cases value <;> exact nofun
  | «variable» name offset => exact .other nofun nofun .nil
  | call _ offset opened closed _ _ separated _ ih =>
      refine .other nofun nofun (.enclosed opened closed ?_)
      refine .of_separated separated fun part member => ?_
      obtain ⟨pair, isPart, rfl⟩ := List.mem_map.mp member
      exact ih pair isPart
  | group opened closed _ ih => exact .enclosed opened closed ih

end CommentDirectives.Expr
