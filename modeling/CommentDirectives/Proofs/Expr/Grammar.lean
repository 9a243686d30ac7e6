import CommentDirectives.Expr.Parser

/-!
# The grammar of expressions

Expressions in layers: five tiers of binary operators that group to the left, above
them the operators in front of an operand, and above these literals, variables,
calls and groups.  A derivation says which tokens a tree stands for, without any
order in which tokens are read; a tree of one layer is one of every looser layer.
No rule puts a group directly behind a name, so that a name in front of an opening
parenthesis is always that of a function.
-/

namespace CommentDirectives

set_option autoImplicit false

/-! ## Words of the grammar -/

/-- The token of a literal. -/
def Literal.token : Literal → Token
  | .int number => .int number
  | .float number => .float number
  | .string text => .string text
  | .bool truth => .bool truth

/-- The token of an operator in front of an operand. -/
def UnaryOperator.token : UnaryOperator → Token
  | .not => .bang
  | .negate => .operator .subtract
  | .plus => .operator .add

namespace Grammar

/-- The tiers of binary operators, from the loosest to the tightest. -/
def binaryTiers : List (List BinaryOperator) :=
  [[.or, .and, .xor],
   [.equal, .notEqual],
   [.less, .lessEqual, .greater, .greaterEqual],
   [.add, .subtract],
   [.multiply, .divide, .remainder]]

/-- The layer of the operators in front of an operand. -/
def prefixLayer : Nat := 5

/-- The layer of literals, variables, calls and groups. -/
def primaryLayer : Nat := 6

/-- Parts with commas between them. -/
inductive Separated : List (List Lexeme) → List Lexeme → Prop where
  | none : Separated [] []
  | one (part : List Lexeme) : Separated [part] part
  | more (part : List Lexeme) (offset : Nat) {next : List Lexeme} {parts : List (List Lexeme)}
      {lexemes : List Lexeme} : Separated (next :: parts) lexemes →
      Separated (part :: next :: parts) (part ++ ⟨.comma, offset⟩ :: lexemes)

/-- A tree that some tokens stand for in a layer.  Each node carries the offset of its literal, its
name or its operator. -/
inductive Derives : Nat → List Lexeme → Expr → Prop where
  | looser {layer : Nat} {lexemes : List Lexeme} {expr : Expr} :
      Derives (layer + 1) lexemes expr → Derives layer lexemes expr
  | binary {layer : Nat} {operators : List BinaryOperator} {operator : BinaryOperator}
      (offset : Nat) {left right : Expr} {before behind : List Lexeme} :
      binaryTiers[layer]? = some operators → operator ∈ operators →
      Derives layer before left → Derives (layer + 1) behind right →
      Derives layer (before ++ ⟨.operator operator, offset⟩ :: behind)
        (.binary operator left right offset)
  | unary (operator : UnaryOperator) (offset : Nat) {operand : Expr} {lexemes : List Lexeme} :
      Derives prefixLayer lexemes operand →
      Derives prefixLayer (⟨operator.token, offset⟩ :: lexemes) (.unary operator operand offset)
  | literal (value : Literal) (offset : Nat) :
      Derives primaryLayer [⟨value.token, offset⟩] (.literal value offset)
  | variable (name : String) (offset : Nat) :
      Derives primaryLayer [⟨.identifier name, offset⟩] (.variable name offset)
  | call (builtin : Builtin) {name : String} (offset opened closed : Nat)
      {parts : List (List Lexeme × Expr)} {lexemes : List Lexeme} :
      Text.sameAsciiCase builtin.name.toList name.toList = true →
      builtin.arity.accepts parts.length = true →
      Separated (parts.map Prod.fst) lexemes →
      (∀ part ∈ parts, Derives 0 part.1 part.2) →
      Derives primaryLayer
        (⟨.identifier name, offset⟩ :: ⟨.openParen, opened⟩ :: (lexemes ++ [⟨.closeParen, closed⟩]))
        (.call builtin.name (parts.map Prod.snd) offset)
  | group (opened closed : Nat) {expr : Expr} {lexemes : List Lexeme} :
      Derives 0 lexemes expr →
      Derives primaryLayer (⟨.openParen, opened⟩ :: (lexemes ++ [⟨.closeParen, closed⟩])) expr

/-- A tree of one layer is one of every looser layer. -/
theorem Derives.downTo {layer layer' : Nat} {lexemes : List Lexeme} {expr : Expr}
    (derives : Derives layer lexemes expr) (looser : layer' ≤ layer) :
    Derives layer' lexemes expr := by
  induction looser with
  | refl => exact derives
  | step _ ih => exact ih derives.looser

end Grammar

/-! ## Words and tokens -/

theorem Literal.ofToken?_eq_some {token : Token} {value : Literal} :
    Literal.ofToken? token = some value ↔ token = value.token := by
  cases value <;> cases token <;> simp [Literal.ofToken?, Literal.token]

theorem Token.unary?_eq_some {token : Token} {operator : UnaryOperator} :
    token.unary? = some operator ↔ token = operator.token := by
  constructor
  · intro found
    unfold Token.unary? at found
    split at found <;> cases found <;> rfl
  · rintro rfl
    cases operator <;> rfl

theorem Token.binary?_eq_some {token : Token} {operator : BinaryOperator} :
    token.binary? = some operator ↔ token = .operator operator := by
  cases token <;> simp [Token.binary?]

/-- The layer of a binary operator is the place of its tier. -/
theorem Grammar.mem_binaryTiers {layer : Nat} {operators : List BinaryOperator}
    {operator : BinaryOperator} (tier : Grammar.binaryTiers[layer]? = some operators)
    (member : operator ∈ operators) : layer = operator.tier.rank := by
  match layer with
  | 0 | 1 | 2 | 3 | 4 =>
    obtain rfl := (Option.some.inj tier).symm
    revert operator
    decide
  | layer + 5 => cases tier

/-- Every binary operator stands in the tier of its layer. -/
theorem BinaryOperator.mem_tier (operator : BinaryOperator) :
    ∃ operators, Grammar.binaryTiers[operator.tier.rank]? = some operators ∧
      operator ∈ operators := by
  cases operator <;> exact ⟨_, rfl, by decide⟩

/-- Binary operators bind less tightly than operators in front of an operand. -/
theorem BinaryOperator.rank_lt (operator : BinaryOperator) :
    operator.tier.rank < Grammar.prefixLayer := by
  cases operator <;> decide

/-! ## Names of functions -/

theorem Builtin.mem_all (builtin : Builtin) : builtin ∈ Builtin.all := by
  cases builtin <;> decide

/-- No two functions have names that differ in nothing but case. -/
theorem Builtin.eq_of_sameAsciiCase {builtin builtin' : Builtin}
    (same : Text.sameAsciiCase builtin.name.toList builtin'.name.toList = true) :
    builtin = builtin' := by
  have distinct : ∀ builtin ∈ Builtin.all, ∀ builtin' ∈ Builtin.all,
      Text.sameAsciiCase builtin.name.toList builtin'.name.toList = true → builtin = builtin' := by
    decide
  exact distinct builtin builtin.mem_all builtin' builtin'.mem_all same

theorem Builtin.sameAsciiCase_of_named? {name : String} {builtin : Builtin}
    (found : Builtin.named? name = some builtin) :
    Text.sameAsciiCase builtin.name.toList name.toList = true := by
  rw [Builtin.named?] at found
  simpa using List.find?_some found

/-- A function is found by its name in any case, and by no other name. -/
theorem Builtin.named?_eq_some {name : String} {builtin : Builtin} :
    Builtin.named? name = some builtin ↔
      Text.sameAsciiCase builtin.name.toList name.toList = true := by
  constructor
  · exact Builtin.sameAsciiCase_of_named?
  · intro same
    cases found : Builtin.named? name with
    | none => exact absurd same (List.find?_eq_none.mp found builtin builtin.mem_all)
    | some other =>
        have sameOther := Builtin.sameAsciiCase_of_named? found
        simp only [Text.sameAsciiCase, beq_iff_eq] at same sameOther
        rw [Builtin.eq_of_sameAsciiCase (beq_iff_eq.mpr (sameOther.trans same.symm))]

end CommentDirectives
