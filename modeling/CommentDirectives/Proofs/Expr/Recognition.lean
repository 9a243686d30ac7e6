import CommentDirectives.Proofs.Expr.Reading

/-!
# Exactly the grammar is read

A text is read as an expression if and only if it is cut into tokens for which the
grammar has a tree, and then that tree is what is read (`parse_eq_ok`); in the same
way for lists of expressions (`parseList_eq_ok`).  So the grammar has at most one
tree for the tokens of a text.

What remains to be shown is that every derivation is followed.  A derivation of any
layer is a chain of operands that can be read in front of anything but an opening
parenthesis, since a name in front of one is read as a call (`chain_of_derives`);
the chain of an expression is read up to where no operand can follow.
-/

namespace CommentDirectives.Expr

set_option autoImplicit false

open Grammar

/-! ## Readings -/

/-- An operand is read off the front of some tokens. -/
def ReadsOperand (stop : Nat) (tokens : List Lexeme) (operand : Expr) (rest : List Lexeme) : Prop :=
  ∃ read : Read Expr tokens, readOperand stop tokens = .ok read ∧ read.value = operand ∧
    read.rest = rest

/-- An expression is read off the front of some tokens. -/
def ReadsExpression (stop : Nat) (tokens : List Lexeme) (expr : Expr) (rest : List Lexeme) : Prop :=
  ∃ read : Read Expr tokens, readExpression stop tokens = .ok read ∧ read.value = expr ∧
    read.rest = rest

/-- What operations that wait become with an operand and the chain behind it. -/
def ReadsChain (stop : Nat) (pending : List Pending) (operand : Expr) (tokens : List Lexeme)
    (expr : Expr) (rest : List Lexeme) : Prop :=
  ∃ read : MayRead Expr tokens, readChain stop pending operand tokens = .ok read ∧
    read.value = expr ∧ read.rest = rest

/-- A list of one or more expressions is read off the front of some tokens. -/
def ReadsItems (stop : Nat) (closing : Closing) (tokens : List Lexeme) (items : List Expr)
    (rest : List Lexeme) : Prop :=
  ∃ read : MayRead (List Expr) tokens, readItems stop closing tokens = .ok read ∧
    read.value = items ∧ read.rest = rest

/-- A list of expressions is read off the front of some tokens. -/
def ReadsList (stop : Nat) (closing : Closing) (tokens : List Lexeme) (items : List Expr)
    (rest : List Lexeme) : Prop :=
  ∃ read : MayRead (List Expr) tokens, readList stop closing tokens = .ok read ∧
    read.value = items ∧ read.rest = rest

/-- Tokens in front of which a name is not called. -/
def NoCall (rest : List Lexeme) : Prop := ∀ next ∈ rest.head?, next.token ≠ .openParen

variable {stop : Nat} {tokens rest rest' : List Lexeme} {expr operand : Expr}
  {items : List Expr}

/-- Where no operand can follow, a name is not called either. -/
theorem NoCall.of_lacksOperand (ends : lacksOperand rest = true) : NoCall rest := by
  intro next first calls
  cases rest with
  | nil => cases first
  | cons lexeme others =>
      obtain rfl : lexeme = next := Option.some.inj first
      simp [lacksOperand, calls] at ends

/-! ### Operands -/

theorem readsOperand_of_primary (lexeme : Lexeme) (plain : lexeme.token.unary? = none)
    (read : Read Expr (lexeme :: tokens))
    (succeeds : readPrimary stop lexeme tokens = .ok read) :
    ReadsOperand stop (lexeme :: tokens) read.value read.rest := by
  refine ⟨read, ?_, rfl, rfl⟩
  rw [readOperand]
  split
  · next found => exact absurd (found.symm.trans plain) (Option.some_ne_none _)
  · exact succeeds

/-- An operator in front of an operand. -/
theorem ReadsOperand.unary (operator : UnaryOperator) (offset : Nat)
    (reads : ReadsOperand stop tokens operand rest) :
    ReadsOperand stop (⟨operator.token, offset⟩ :: tokens) (.unary operator operand offset)
      rest := by
  obtain ⟨read, succeeds, rfl, rfl⟩ := reads
  have found : operator.token.unary? = some operator := Token.unary?_eq_some.mpr rfl
  refine ⟨⟨.unary operator read.value offset, read.rest, ?_⟩, ?_, rfl, rfl⟩
  · exact Nat.lt_succ_of_lt read.shorter
  · rw [readOperand]
    split
    · next other found' =>
      obtain rfl := Option.some.inj (found.symm.trans found')
      rw [succeeds]
    · next missing => exact absurd (found.symm.trans missing) (Option.some_ne_none _)

theorem readsOperand_literal (value : Literal) (offset : Nat) (rest : List Lexeme) :
    ReadsOperand stop (⟨value.token, offset⟩ :: rest) (.literal value offset) rest := by
  have plain : value.token.unary? = none := by cases value <;> rfl
  refine readsOperand_of_primary ⟨value.token, offset⟩ plain
    ⟨.literal value offset, rest, Nat.lt_succ_self _⟩ ?_
  rw [readPrimary]
  cases value <;> rfl

theorem readsOperand_variable (name : String) (offset : Nat) (noCall : NoCall rest) :
    ReadsOperand stop (⟨.identifier name, offset⟩ :: rest) (.variable name offset) rest := by
  refine readsOperand_of_primary ⟨.identifier name, offset⟩ rfl
    ⟨.variable name offset, rest, Nat.lt_succ_self _⟩ ?_
  rw [readPrimary]
  cases rest with
  | nil => rfl
  | cons next others =>
      have uncalled := noCall next rfl
      obtain ⟨token, opened⟩ := next
      cases token with
      | openParen => exact absurd rfl uncalled
      | float | int | bool | string | identifier | operator | bang | closeParen | comma => rfl

/-- A function with arguments that it takes. -/
theorem ReadsList.call {builtin : Builtin} {name : String} (offset opened : Nat)
    (named : Builtin.named? name = some builtin)
    (accepted : builtin.arity.accepts items.length = true)
    (reads : ReadsList stop .paren tokens items rest) :
    ReadsOperand stop (⟨.identifier name, offset⟩ :: ⟨.openParen, opened⟩ :: tokens)
      (.call builtin.name items offset) rest := by
  obtain ⟨read, succeeds, rfl, rfl⟩ := reads
  have shorter : read.rest.length <
      (⟨.identifier name, offset⟩ :: ⟨.openParen, opened⟩ :: tokens : List Lexeme).length :=
    Nat.lt_succ_of_lt (Nat.lt_succ_of_le read.noLonger)
  refine readsOperand_of_primary ⟨.identifier name, offset⟩ rfl
    ⟨.call builtin.name read.value offset, read.rest, shorter⟩ ?_
  rw [readPrimary]
  simp only [Literal.ofToken?, named, succeeds, accepted, if_true]

/-- An expression in parentheses. -/
theorem ReadsExpression.group (opened : Nat) {closed : Nat}
    (reads : ReadsExpression stop tokens expr (⟨.closeParen, closed⟩ :: rest)) :
    ReadsOperand stop (⟨.openParen, opened⟩ :: tokens) expr rest := by
  obtain ⟨⟨value, left, shorter⟩, succeeds, rfl, same⟩ := reads
  simp only at same
  subst same
  have fewer : rest.length < tokens.length + 1 := by
    rw [List.length_cons] at shorter
    omega
  refine readsOperand_of_primary ⟨.openParen, opened⟩ rfl ⟨value, rest, fewer⟩ ?_
  rw [readPrimary]
  simp only [Literal.ofToken?, succeeds]

/-! ### Chains -/

/-- Where an operand is read, one can follow. -/
theorem ReadsOperand.lacksOperand_eq (reads : ReadsOperand stop tokens operand rest) :
    lacksOperand tokens = false := by
  obtain ⟨read, succeeds, _⟩ := reads
  cases tokens with
  | nil =>
      rw [readOperand] at succeeds
      cases succeeds
  | cons lexeme others =>
      obtain ⟨token, offset⟩ := lexeme
      cases token with
      | closeParen | comma =>
          rw [readOperand] at succeeds
          simp only [Token.unary?] at succeeds
          rw [readPrimary] at succeeds
          cases succeeds
      | openParen | float | int | bool | string | identifier | operator | bang => rfl

/-- A chain ends where no operand can follow. -/
theorem readsChain_end (pending : List Pending) (operand : Expr)
    (ends : lacksOperand rest = true) :
    ReadsChain stop pending operand rest (closeAll pending operand) rest := by
  refine ⟨⟨closeAll pending operand, rest, Nat.le_refl _⟩, ?_, rfl, rfl⟩
  cases rest with
  | nil => rw [readChain]
  | cons lexeme others =>
      obtain ⟨token, offset⟩ := lexeme
      rw [readChain]
      cases token with
      | closeParen | comma => rfl
      | openParen | float | int | bool | string | identifier | operator | bang => cases ends

/-- A chain goes on with an operator and its right operand. -/
theorem ReadsChain.link {pending : List Pending} {operator : BinaryOperator} {offset : Nat}
    {next : Expr} (reads : ReadsOperand stop tokens next rest)
    (onward : ReadsChain stop (pushOperator pending operand operator offset) next rest expr rest') :
    ReadsChain stop pending operand (⟨.operator operator, offset⟩ :: tokens) expr rest' := by
  have follows := reads.lacksOperand_eq
  obtain ⟨⟨value, left, shorter⟩, succeeds, rfl, rfl⟩ := reads
  obtain ⟨⟨value', left', noLonger⟩, succeedsChain, rfl, rfl⟩ := onward
  have fewer : left'.length ≤ tokens.length + 1 := by
    simp only at noLonger
    omega
  refine ⟨⟨value', left', fewer⟩, ?_, rfl, rfl⟩
  rw [readChain]
  simp only [Token.binary?, follows, succeeds, succeedsChain, if_false, Bool.false_eq_true]

/-- An expression is a chain behind its first operand. -/
theorem ReadsExpression.chain {first : Expr} (reads : ReadsOperand stop tokens first rest)
    (onward : ReadsChain stop [] first rest expr rest') :
    ReadsExpression stop tokens expr rest' := by
  obtain ⟨⟨value, left, shorter⟩, succeeds, rfl, rfl⟩ := reads
  obtain ⟨⟨value', left', noLonger⟩, succeedsChain, rfl, rfl⟩ := onward
  have fewer : left'.length < tokens.length := by
    simp only at noLonger
    omega
  refine ⟨⟨value', left', fewer⟩, ?_, rfl, rfl⟩
  rw [readExpression]
  simp only [succeeds, succeedsChain]

theorem ReadsExpression.lacksOperand_eq (reads : ReadsExpression stop tokens expr rest) :
    lacksOperand tokens = false := by
  obtain ⟨read, succeeds, _⟩ := reads
  rw [readExpression] at succeeds
  split at succeeds
  · cases succeeds
  next first left shorter operandRead =>
  exact ReadsOperand.lacksOperand_eq ⟨_, operandRead, rfl, rfl⟩

/-! ### Lists -/

/-- Behind the end of a list no operand can follow. -/
theorem Closing.Closes.lacksOperand_eq {closing : Closing} (closes : closing.Closes tokens rest) :
    lacksOperand tokens = true := by
  cases closes with
  | endOfText | paren => rfl

/-- Where an expression starts, no list item is missing. -/
theorem missingItem?_eq_none (stop : Nat) (closing : Closing)
    (follows : lacksOperand tokens = false) :
    missingItem? stop closing tokens = none := by
  cases tokens with
  | nil => cases follows
  | cons lexeme others =>
      obtain ⟨token, offset⟩ := lexeme
      cases token with
      | closeParen | comma => cases follows
      | openParen | float | int | bool | string | identifier | operator | bang =>
          simp [missingItem?]

/-- The last item of a list. -/
theorem ReadsItems.one {closing : Closing} {item : Expr}
    (reads : ReadsExpression stop tokens item rest) (closes : closing.Closes rest rest') :
    ReadsItems stop closing tokens [item] rest' := by
  have present := missingItem?_eq_none stop closing reads.lacksOperand_eq
  obtain ⟨⟨value, left, shorter⟩, succeeds, rfl, rfl⟩ := reads
  cases closes with
  | endOfText =>
      refine ⟨⟨[value], [], Nat.zero_le _⟩, ?_, rfl, rfl⟩
      rw [readItems.eq_def]
      simp only [present, succeeds]
  | paren closed _ =>
      have fewer : rest'.length ≤ tokens.length := by
        simp only [List.length_cons] at shorter
        omega
      refine ⟨⟨[value], rest', fewer⟩, ?_, rfl, rfl⟩
      rw [readItems.eq_def]
      simp only [present, succeeds]

/-- An item of a list with others behind a comma. -/
theorem ReadsItems.more {closing : Closing} {item : Expr} {offset : Nat}
    (reads : ReadsExpression stop tokens item (⟨.comma, offset⟩ :: rest))
    (others : ReadsItems stop closing rest items rest') :
    ReadsItems stop closing tokens (item :: items) rest' := by
  have present := missingItem?_eq_none stop closing reads.lacksOperand_eq
  obtain ⟨⟨value, left, shorter⟩, succeeds, rfl, same⟩ := reads
  obtain ⟨⟨values, left', noLonger⟩, succeedsOthers, rfl, rfl⟩ := others
  simp only at same
  subst same
  have fewer : left'.length ≤ tokens.length := by
    simp only [List.length_cons] at shorter
    omega
  refine ⟨⟨value :: values, left', fewer⟩, ?_, rfl, rfl⟩
  rw [readItems.eq_def]
  simp only [present, succeeds, succeedsOthers]

/-- An empty list is read at its end. -/
theorem ReadsList.none {closing : Closing} (closes : closing.Closes tokens rest) :
    ReadsList stop closing tokens [] rest := by
  cases closes with
  | endOfText => exact ⟨⟨[], [], Nat.le_refl _⟩, readList.eq_def .., rfl, rfl⟩
  | paren closed _ => exact ⟨⟨[], rest, Nat.le_succ _⟩, readList.eq_def .., rfl, rfl⟩

/-- A list that is not empty is read by its items. -/
theorem ReadsItems.list {closing : Closing} (reads : ReadsItems stop closing tokens items rest) :
    ReadsList stop closing tokens items rest := by
  obtain ⟨read, succeeds, rfl, rfl⟩ := reads
  refine ⟨read, ?_, rfl, rfl⟩
  obtain ⟨item, itemRead, _⟩ := readItems_cases succeeds
  have follows : lacksOperand tokens = false :=
    ReadsExpression.lacksOperand_eq ⟨item, itemRead, rfl, rfl⟩
  rw [readList.eq_def]
  cases tokens with
  | nil => cases follows
  | cons lexeme others =>
      obtain ⟨token, offset⟩ := lexeme
      cases closing with
      | endOfText => exact succeeds
      | paren =>
          cases token with
          | closeParen => cases follows
          | openParen | float | int | bool | string | identifier | operator | bang | comma =>
              exact succeeds

/-! ## Derivations are followed -/

/-- Tokens of an operand that can be read in front of anything but an opening parenthesis. -/
def Readable (stop : Nat) (lexemes : List Lexeme) (operand : Expr) : Prop :=
  ∀ rest, NoCall rest → ReadsOperand stop (lexemes ++ rest) operand rest

/-- A name in front of links, or of the end of a chain, is not called. -/
theorem NoCall.of_links (ends : lacksOperand rest = true) (links : List Link) :
    NoCall (linkLexemes links ++ rest) := by
  cases links with
  | nil => exact .of_lacksOperand ends
  | cons link links =>
      intro lexeme first
      cases first
      nofun

/-- Links are read up to where no operand can follow. -/
theorem readsChain_of_links (ends : lacksOperand rest = true) (pending : List Pending)
    (operand : Expr) (links : List Link)
    (readable : ∀ link ∈ links, Readable stop link.lexemes link.operand) :
    ReadsChain stop pending operand (linkLexemes links ++ rest)
      (closeAll (joinLinks pending operand links).1 (joinLinks pending operand links).2) rest := by
  induction links generalizing pending operand with
  | nil => exact readsChain_end pending operand ends
  | cons link links ih =>
      have onward := ih (pushOperator pending operand link.operator link.offset) link.operand
        fun other member => readable other (List.mem_cons_of_mem _ member)
      have next := readable link List.mem_cons_self _ (.of_links ends links)
      rw [linkLexemes, List.cons_append, List.append_assoc]
      exact ReadsChain.link next onward

/-- A chain of the loosest layer is read up to where no operand can follow. -/
theorem readsExpression_of_chain {lexemes : List Lexeme}
    (chain : Chain (Readable stop) 0 lexemes expr) (ends : lacksOperand rest = true) :
    ReadsExpression stop (lexemes ++ rest) expr rest := by
  obtain ⟨first, start, links, written, readsFirst, readsLinks, _, becomes⟩ := chain
  have same := becomes [] nofun .logical (Nat.zero_le _)
  rw [closeDownTo_logical, closeDownTo_logical] at same
  have closed : closeAll (joinLinks [] first links).1 (joinLinks [] first links).2 = expr :=
    congrArg Prod.snd same
  have onward := readsChain_of_links ends [] first links readsLinks
  rw [closed] at onward
  rw [written, List.append_assoc]
  exact ReadsExpression.chain (readsFirst _ (.of_links ends links)) onward

/-- Parts with commas between them are read up to the end of their list. -/
theorem readsItems_of_parts {closing : Closing} {part : List Lexeme × Expr}
    {parts : List (List Lexeme × Expr)} {lexemes : List Lexeme}
    (separated : Separated ((part :: parts).map Prod.fst) lexemes)
    (chains : ∀ part' ∈ part :: parts, Chain (Readable stop) 0 part'.1 part'.2)
    (closes : closing.Closes rest rest') :
    ReadsItems stop closing (lexemes ++ rest) ((part :: parts).map Prod.snd) rest' := by
  have chain := chains part List.mem_cons_self
  induction parts generalizing part lexemes with
  | nil =>
      cases separated with
      | one _ =>
          exact .one (readsExpression_of_chain chain closes.lacksOperand_eq) closes
  | cons next parts ih =>
      cases separated with
      | more _ offset separated =>
          have later : ∀ part' ∈ next :: parts, Chain (Readable stop) 0 part'.1 part'.2 :=
            fun part' member => chains part' (List.mem_cons_of_mem _ member)
          rw [List.append_assoc, List.cons_append]
          exact .more (readsExpression_of_chain chain rfl)
            (ih separated later (later next List.mem_cons_self))

/-- Parts with commas between them, if there are any, are read up to the end of their list. -/
theorem readsList_of_parts {closing : Closing} {parts : List (List Lexeme × Expr)}
    {lexemes : List Lexeme} (separated : Separated (parts.map Prod.fst) lexemes)
    (chains : ∀ part ∈ parts, Chain (Readable stop) 0 part.1 part.2)
    (closes : closing.Closes rest rest') :
    ReadsList stop closing (lexemes ++ rest) (parts.map Prod.snd) rest' := by
  cases parts with
  | nil =>
      cases separated with
      | none => exact .none closes
  | cons part parts => exact (readsItems_of_parts separated chains closes).list

/-- **Every derivation is a chain of operands that can be read.** -/
theorem chain_of_derives {layer : Nat} {lexemes : List Lexeme}
    (derives : Derives layer lexemes expr) : Chain (Readable stop) layer lexemes expr := by
  induction derives with
  | looser _ ih => exact ih.looser
  | binary offset inTier member _ _ left right =>
      obtain rfl := mem_binaryTiers inTier member
      exact left.binary offset right
  | unary operator offset _ ih =>
      refine .single fun rest uncalled => ?_
      exact (ih.read_of_prefixLayer rest uncalled).unary operator offset
  | literal value offset => exact .single fun rest _ => readsOperand_literal value offset rest
  | «variable» name offset =>
      exact .single fun rest uncalled => readsOperand_variable name offset uncalled
  | @call builtin name offset opened closed parts lexemes same accepted separated _ ih =>
      refine .single fun rest _ => ?_
      have list := readsList_of_parts separated ih (.paren closed rest)
      have taken : builtin.arity.accepts (parts.map Prod.snd).length = true := by
        rw [List.length_map]
        exact accepted
      simp only [List.cons_append, List.append_assoc, List.nil_append]
      exact list.call offset opened (Builtin.named?_eq_some.mpr same) taken
  | group opened closed _ ih =>
      refine .single fun rest _ => ?_
      simp only [List.cons_append, List.append_assoc, List.nil_append]
      exact (readsExpression_of_chain ih rfl).group opened

/-! ## Texts -/

/-- A text is read as an expression if all its tokens are. -/
theorem parse_of_readsExpression {source : String} (cut : Token.sequence source = .ok ⟨tokens, stop⟩)
    (reads : ReadsExpression stop tokens expr []) : parse source = .ok expr := by
  have follows := reads.lacksOperand_eq
  obtain ⟨⟨value, left, shorter⟩, succeeds, rfl, same⟩ := reads
  simp only at same
  subst same
  rw [parse, cut]
  cases tokens with
  | nil => cases follows
  | cons lexeme others => simp only [succeeds]

/-- **Exactly the grammar is read.**  A text is read as an expression if and only if it can be cut
into tokens and the grammar has this tree for them. -/
theorem parse_eq_ok (source : String) (expr : Expr) :
    parse source = .ok expr ↔
      ∃ sequence, Token.sequence source = .ok sequence ∧ Derives 0 sequence.lexemes expr := by
  constructor
  · intro succeeds
    rw [parse] at succeeds
    split at succeeds
    · cases succeeds
    · cases succeeds
    next lexemes stop _ cut =>
    split at succeeds
    · cases succeeds
    next value rest shorter expressionRead =>
    obtain ⟨taken, written, derives⟩ := derives_of_readExpression lexemes _ expressionRead
    split at succeeds
    · cases succeeds
      refine ⟨_, cut, ?_⟩
      rw [written, List.append_nil]
      exact derives
    · split at succeeds
      · cases succeeds
      · cases succeeds
  · rintro ⟨⟨lexemes, stop⟩, cut, derives⟩
    have reads : ReadsExpression stop (lexemes ++ []) expr [] :=
      readsExpression_of_chain (chain_of_derives derives) rfl
    rw [List.append_nil] at reads
    have follows := reads.lacksOperand_eq
    obtain ⟨⟨value, rest, shorter⟩, succeeds, rfl, same⟩ := reads
    simp only at same
    subst same
    rw [parse, cut]
    cases lexemes with
    | nil => cases follows
    | cons lexeme others => simp only [succeeds]

/-- **Lists of expressions in exactly the grammar are read.**  A text is read as a list of
expressions if and only if it can be cut into tokens, and these into parts between commas for
which the grammar has these trees. -/
theorem parseList_eq_ok (source : String) (items : List Expr) :
    parseList source = .ok items ↔
      ∃ sequence, Token.sequence source = .ok sequence ∧ DerivesItems sequence.lexemes items := by
  constructor
  · intro succeeds
    rw [parseList] at succeeds
    split at succeeds
    · cases succeeds
    next lexemes stop cut =>
    split at succeeds
    · cases succeeds
    next values rest shorter listRead =>
    cases succeeds
    obtain ⟨taken, tail, written, closes, list⟩ := derives_of_readList .endOfText lexemes _ listRead
    simp only at closes list
    cases closes with
    | endOfText =>
        refine ⟨_, cut, ?_⟩
        rw [written, List.append_nil]
        exact list
  · rintro ⟨⟨lexemes, stop⟩, cut, parts, separated, each, rfl⟩
    have reads : ReadsList stop .endOfText (lexemes ++ []) (parts.map Prod.snd) [] :=
      readsList_of_parts separated (fun part member => chain_of_derives (each part member))
        .endOfText
    rw [List.append_nil] at reads
    obtain ⟨read, succeeds, same, _⟩ := reads
    rw [parseList, cut]
    simp only [succeeds, same]

end CommentDirectives.Expr
