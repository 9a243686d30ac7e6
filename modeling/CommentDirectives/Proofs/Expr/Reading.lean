import CommentDirectives.Proofs.Expr.Grouping

/-!
# What is read is in the grammar

Each reading function takes tokens off the front for which the grammar has a tree,
and answers with that tree.  For a primary, a list and the items of a list it is
said first in which ways they are read at all (`readPrimary_cases`,
`readList_cases`, `readItems_cases`); the derivations follow the descent of the
functions into each other, and a chain of operands keeps the operations that wait
within the grammar (`derives_of_readChain`).
-/

namespace CommentDirectives.Expr

set_option autoImplicit false

open Grammar

/-! ## Lists of expressions -/

/-- What stands behind a list of expressions, and what is left when its end is taken. -/
inductive Closing.Closes : Closing → List Lexeme → List Lexeme → Prop where
  | endOfText : Closes .endOfText [] []
  | paren (closed : Nat) (rest : List Lexeme) : Closes .paren (⟨.closeParen, closed⟩ :: rest) rest

/-- Some expressions between commas, with the tokens of each. -/
def DerivesItems (lexemes : List Lexeme) (items : List Expr) : Prop :=
  ∃ parts : List (List Lexeme × Expr), Separated (parts.map Prod.fst) lexemes ∧
    (∀ part ∈ parts, Derives 0 part.1 part.2) ∧ parts.map Prod.snd = items

theorem DerivesItems.none : DerivesItems [] [] := ⟨[], .none, nofun, rfl⟩

theorem DerivesItems.one {lexemes : List Lexeme} {item : Expr} (derives : Derives 0 lexemes item) :
    DerivesItems lexemes [item] := by
  refine ⟨[(lexemes, item)], .one lexemes, ?_, rfl⟩
  intro part member
  rw [List.mem_singleton.mp member]
  exact derives

theorem DerivesItems.more {lexemes others : List Lexeme} {item : Expr} {items : List Expr}
    (derives : Derives 0 lexemes item) (offset : Nat) (list : DerivesItems others items)
    (further : items ≠ []) :
    DerivesItems (lexemes ++ ⟨.comma, offset⟩ :: others) (item :: items) := by
  obtain ⟨parts, separated, each, same⟩ := list
  cases parts with
  | nil => exact absurd same.symm further
  | cons next parts =>
      refine ⟨(lexemes, item) :: next :: parts, .more lexemes offset separated, ?_, by
        rw [List.map_cons, same]⟩
      intro part member
      rcases List.mem_cons.mp member with rfl | member
      · exact derives
      · exact each part member

variable {stop : Nat}

/-! ## Ways of reading -/

/-- The ways in which a primary is read: as a literal, a variable, a call or a group. -/
theorem readPrimary_cases {lexeme : Lexeme} {rest : List Lexeme} {read : Read Expr (lexeme :: rest)}
    (succeeds : readPrimary stop lexeme rest = .ok read) :
    (∃ value, lexeme = ⟨value.token, lexeme.offset⟩ ∧ read.rest = rest ∧
      read.value = .literal value lexeme.offset) ∨
    (∃ name, lexeme = ⟨.identifier name, lexeme.offset⟩ ∧ read.rest = rest ∧
      read.value = .variable name lexeme.offset) ∨
    (∃ name opened rest' builtin, ∃ list : MayRead (List Expr) rest',
      lexeme = ⟨.identifier name, lexeme.offset⟩ ∧ rest = ⟨.openParen, opened⟩ :: rest' ∧
      Builtin.named? name = some builtin ∧ readList stop .paren rest' = .ok list ∧
      builtin.arity.accepts list.value.length = true ∧ read.rest = list.rest ∧
      read.value = .call builtin.name list.value lexeme.offset) ∨
    (∃ closed, ∃ inner : Read Expr rest, lexeme = ⟨.openParen, lexeme.offset⟩ ∧
      readExpression stop rest = .ok inner ∧ inner.rest = ⟨.closeParen, closed⟩ :: read.rest ∧
      read.value = inner.value) := by
  obtain ⟨token, offset⟩ := lexeme
  rw [readPrimary] at succeeds
  split at succeeds
  · next value isLiteral =>
    cases succeeds
    exact .inl ⟨value, by rw [← Literal.ofToken?_eq_some.mp isLiteral], rfl, rfl⟩
  · cases token with
    | identifier name =>
        cases rest with
        | nil =>
            cases succeeds
            exact .inr (.inl ⟨name, rfl, rfl, rfl⟩)
        | cons next rest' =>
            obtain ⟨nextToken, opened⟩ := next
            cases nextToken with
            | openParen =>
                simp only at succeeds
                split at succeeds
                · cases succeeds
                next builtin named =>
                split at succeeds
                · cases succeeds
                next list listRead =>
                split at succeeds
                · next accepted =>
                  cases succeeds
                  exact .inr (.inr (.inl ⟨name, opened, rest', builtin, _, rfl, rfl, named,
                    listRead, accepted, rfl, rfl⟩))
                · cases succeeds
            | float | int | bool | string | identifier | operator | bang | closeParen | comma =>
                cases succeeds
                exact .inr (.inl ⟨name, rfl, rfl, rfl⟩)
    | openParen =>
        simp only at succeeds
        split at succeeds
        · cases succeeds
        next inner shorter innerRead =>
        split at succeeds
        · cases succeeds
        next next rest'' fewer =>
        obtain ⟨nextToken, closed⟩ := next
        cases nextToken with
        | closeParen =>
            obtain rfl := Except.ok.inj succeeds
            exact .inr (.inr (.inr ⟨closed, _, rfl, innerRead, rfl, rfl⟩))
        | openParen | float | int | bool | string | identifier | operator | bang | comma =>
            cases succeeds
    | float | int | bool | string | operator | bang | closeParen | comma => cases succeeds

/-- A list is empty, or its items are read one after the other. -/
theorem readList_cases {closing : Closing} {tokens : List Lexeme}
    {read : MayRead (List Expr) tokens} (succeeds : readList stop closing tokens = .ok read) :
    (closing.Closes tokens read.rest ∧ read.value = []) ∨
      readItems stop closing tokens = .ok read := by
  cases tokens with
  | nil =>
      rw [readList.eq_def] at succeeds
      cases closing with
      | endOfText =>
          cases succeeds
          exact .inl ⟨.endOfText, rfl⟩
      | paren => exact .inr succeeds
  | cons lexeme rest =>
      rw [readList.eq_def] at succeeds
      cases closing with
      | endOfText => exact .inr succeeds
      | paren =>
          simp only at succeeds
          split at succeeds
          · next closes =>
            cases succeeds
            obtain ⟨token, offset⟩ := lexeme
            obtain rfl : token = .closeParen := closes
            exact .inl ⟨.paren offset rest, rfl⟩
          · exact .inr succeeds

/-- The items of a list that is not empty: one that the list ends behind, or one and others
behind a comma. -/
theorem readItems_cases {closing : Closing} {tokens : List Lexeme}
    {read : MayRead (List Expr) tokens} (succeeds : readItems stop closing tokens = .ok read) :
    ∃ item : Read Expr tokens, readExpression stop tokens = .ok item ∧
      ((closing.Closes item.rest read.rest ∧ read.value = [item.value]) ∨
       ∃ offset rest', ∃ others : MayRead (List Expr) rest',
         item.rest = ⟨.comma, offset⟩ :: rest' ∧ readItems stop closing rest' = .ok others ∧
         read.rest = others.rest ∧ read.value = item.value :: others.value) := by
  rw [readItems.eq_def] at succeeds
  split at succeeds
  · cases succeeds
  split at succeeds
  · cases succeeds
  next item rest shorter itemRead =>
  refine ⟨_, itemRead, ?_⟩
  cases rest with
  | nil =>
      cases closing with
      | endOfText =>
          cases succeeds
          exact .inl ⟨.endOfText, rfl⟩
      | paren => cases succeeds
  | cons next rest' =>
      obtain ⟨token, offset⟩ := next
      cases token with
      | comma =>
          simp only at succeeds
          split at succeeds
          · cases succeeds
          next others rest'' noLonger othersRead =>
          cases succeeds
          exact .inr ⟨offset, rest', _, rfl, othersRead, rfl, rfl⟩
      | closeParen =>
          cases closing with
          | paren =>
              cases succeeds
              exact .inl ⟨.paren offset rest', rfl⟩
          | endOfText => cases succeeds
      | openParen | float | int | bool | string | identifier | operator | bang =>
          cases closing <;> cases succeeds

/-! ## Derivations -/

mutual
/-- What is read as an expression is a tree of the loosest layer. -/
theorem derives_of_readExpression (tokens : List Lexeme) (read : Read Expr tokens)
    (succeeds : readExpression stop tokens = .ok read) :
    ∃ taken, tokens = taken ++ read.rest ∧ Derives 0 taken read.value := by
  rw [readExpression] at succeeds
  split at succeeds
  · cases succeeds
  next first rest shorter operandRead =>
  split at succeeds
  · cases succeeds
  next expr rest' noLonger chainRead =>
  cases succeeds
  obtain ⟨taken, written, derives⟩ := derives_of_readOperand tokens _ operandRead
  obtain ⟨onward, writtenChain, derivesChain⟩ :=
    derives_of_readChain .none derives rest _ chainRead
  refine ⟨taken ++ onward, ?_, derivesChain⟩
  rw [List.append_assoc]
  exact written.trans (congrArg (taken ++ ·) writtenChain)
termination_by 5 * tokens.length + 2
decreasing_by all_goals omega

/-- What becomes of operations that wait and of the chain behind them is a tree of the loosest
layer. -/
theorem derives_of_readChain {before lexemes : List Lexeme} {pending : List Pending}
    {operand : Expr} (waiting : Waiting prefixLayer pending before)
    (derives : Derives prefixLayer lexemes operand) :
    ∀ (tokens : List Lexeme) (read : MayRead Expr tokens),
      readChain stop pending operand tokens = .ok read →
      ∃ taken, tokens = taken ++ read.rest ∧
        Derives 0 (before ++ (lexemes ++ taken)) read.value
  | [], read, succeeds => by
      rw [readChain] at succeeds
      cases succeeds
      refine ⟨[], rfl, ?_⟩
      rw [List.append_nil]
      exact waiting.closeAll derives
  | lexeme :: rest, read, succeeds => by
      rw [readChain] at succeeds
      split at succeeds
      · cases succeeds
        refine ⟨[], rfl, ?_⟩
        rw [List.append_nil]
        exact waiting.closeAll derives
      next operator isOperator =>
      split at succeeds
      · cases succeeds
      split at succeeds
      · cases succeeds
      next next rest' shorter operandRead =>
      split at succeeds
      · cases succeeds
      next expr rest'' noLonger chainRead =>
      cases succeeds
      obtain ⟨taken, written, derivesNext⟩ := derives_of_readOperand rest _ operandRead
      obtain ⟨onward, writtenChain, derivesChain⟩ := derives_of_readChain
        (waiting.pushOperator derives operator lexeme.offset) derivesNext rest' _ chainRead
      have word : lexeme = ⟨.operator operator, lexeme.offset⟩ := by
        rw [← Token.binary?_eq_some.mp isOperator]
      refine ⟨lexeme :: (taken ++ onward), ?_, ?_⟩
      · rw [List.cons_append, List.append_assoc]
        exact congrArg (lexeme :: ·) (written.trans (congrArg (taken ++ ·) writtenChain))
      · rw [word]
        simpa only [List.append_assoc, List.cons_append, List.nil_append] using derivesChain
termination_by tokens => 5 * tokens.length + 2
decreasing_by all_goals (simp only [List.length_cons]; omega)

/-- What is read as an operand is a tree of the layer of operators in front of operands. -/
theorem derives_of_readOperand : ∀ (tokens : List Lexeme) (read : Read Expr tokens),
    readOperand stop tokens = .ok read →
    ∃ taken, tokens = taken ++ read.rest ∧ Derives prefixLayer taken read.value
  | [], read, succeeds => by
      rw [readOperand] at succeeds
      cases succeeds
  | lexeme :: rest, read, succeeds => by
      rw [readOperand] at succeeds
      split at succeeds
      · next operator isOperator =>
        split at succeeds
        · cases succeeds
        next operand rest' shorter operandRead =>
        cases succeeds
        obtain ⟨taken, written, derives⟩ := derives_of_readOperand rest _ operandRead
        have word : lexeme = ⟨operator.token, lexeme.offset⟩ := by
          rw [← Token.unary?_eq_some.mp isOperator]
        refine ⟨lexeme :: taken, congrArg (lexeme :: ·) written, ?_⟩
        rw [word]
        exact .unary operator lexeme.offset derives
      · obtain ⟨taken, written, derives⟩ := derives_of_readPrimary lexeme rest read succeeds
        exact ⟨taken, written, derives.looser⟩
termination_by tokens => 5 * tokens.length + 1
decreasing_by all_goals (simp only [List.length_cons]; omega)

/-- What is read as a primary is a tree of the tightest layer. -/
theorem derives_of_readPrimary (lexeme : Lexeme) (rest : List Lexeme)
    (read : Read Expr (lexeme :: rest)) (succeeds : readPrimary stop lexeme rest = .ok read) :
    ∃ taken, lexeme :: rest = taken ++ read.rest ∧ Derives primaryLayer taken read.value := by
  rcases readPrimary_cases succeeds with ⟨value, word, left, tree⟩ | ⟨name, word, left, tree⟩ |
    ⟨name, opened, rest', builtin, list, word, behind, named, listRead, accepted, left, tree⟩ |
    ⟨closed, inner, word, innerRead, behind, tree⟩
  · rw [left, tree]
    refine ⟨[lexeme], rfl, ?_⟩
    rw [word]
    exact .literal value lexeme.offset
  · rw [left, tree]
    refine ⟨[lexeme], rfl, ?_⟩
    rw [word]
    exact .variable name lexeme.offset
  · have fewer : rest'.length < rest.length := by
      rw [behind]
      exact Nat.lt_succ_self _
    obtain ⟨lexemes, tail, written, closes, parts, separated, each, same⟩ :=
      derives_of_readList .paren rest' list listRead
    rw [left, tree, behind, ← same]
    cases closes with
    | paren closed _ =>
        refine ⟨lexeme :: ⟨.openParen, opened⟩ :: (lexemes ++ [⟨.closeParen, closed⟩]), ?_, ?_⟩
        · simp only [List.cons_append, List.append_assoc, List.nil_append]
          exact congrArg (fun behind => lexeme :: ⟨.openParen, opened⟩ :: behind) written
        · rw [← same, List.length_map] at accepted
          rw [word]
          exact .call builtin lexeme.offset opened closed (Builtin.named?_eq_some.mp named)
            accepted separated each
  · obtain ⟨taken, written, derives⟩ := derives_of_readExpression rest inner innerRead
    rw [tree]
    refine ⟨lexeme :: (taken ++ [⟨.closeParen, closed⟩]), ?_, ?_⟩
    · simp only [List.cons_append, List.append_assoc, List.nil_append]
      rw [← behind]
      exact congrArg (lexeme :: ·) written
    · rw [word]
      exact .group lexeme.offset closed derives
termination_by 5 * (rest.length + 1)
decreasing_by all_goals omega

/-- What is read as a list of expressions is one. -/
theorem derives_of_readList (closing : Closing) (tokens : List Lexeme)
    (read : MayRead (List Expr) tokens) (succeeds : readList stop closing tokens = .ok read) :
    ∃ lexemes tail, tokens = lexemes ++ tail ∧ closing.Closes tail read.rest ∧
      DerivesItems lexemes read.value := by
  rcases readList_cases succeeds with ⟨closes, empty⟩ | itemsRead
  · rw [empty]
    exact ⟨[], tokens, rfl, closes, .none⟩
  · obtain ⟨lexemes, tail, written, closes, items, _⟩ :=
      derives_of_readItems closing tokens read itemsRead
    exact ⟨lexemes, tail, written, closes, items⟩
termination_by 5 * tokens.length + 4
decreasing_by all_goals omega

/-- What is read as a list of one or more expressions is one. -/
theorem derives_of_readItems (closing : Closing) (tokens : List Lexeme)
    (read : MayRead (List Expr) tokens) (succeeds : readItems stop closing tokens = .ok read) :
    ∃ lexemes tail, tokens = lexemes ++ tail ∧ closing.Closes tail read.rest ∧
      DerivesItems lexemes read.value ∧ read.value ≠ [] := by
  obtain ⟨item, itemRead, ends | more⟩ := readItems_cases succeeds
  · obtain ⟨taken, written, derives⟩ := derives_of_readExpression tokens item itemRead
    rw [ends.2]
    exact ⟨taken, item.rest, written, ends.1, .one derives, nofun⟩
  · obtain ⟨offset, rest', others, behind, othersRead, left, items⟩ := more
    have fewer : rest'.length < tokens.length := by
      have shorter := item.shorter
      rw [behind, List.length_cons] at shorter
      omega
    obtain ⟨taken, written, derives⟩ := derives_of_readExpression tokens item itemRead
    obtain ⟨lexemes, tail, writtenOthers, closes, list, further⟩ :=
      derives_of_readItems closing rest' others othersRead
    rw [left, items]
    refine ⟨taken ++ ⟨.comma, offset⟩ :: lexemes, tail, ?_, closes,
      .more derives offset list further, nofun⟩
    rw [written, behind, writtenOthers, List.append_assoc, List.cons_append]
termination_by 5 * tokens.length + 3
decreasing_by all_goals omega
end

end CommentDirectives.Expr
