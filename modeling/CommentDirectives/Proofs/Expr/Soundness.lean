import CommentDirectives.Proofs.Evaluation.Callable
import CommentDirectives.Proofs.Expr.Refusals
import CommentDirectives.Proofs.Expr.Stacks
import Mathlib

/-!
# What reading promises

Whoever reads and evaluates an expression may rely on this (`StackReader.reading_sound`): the calls
of a tree that was read fit the table of functions, a text fails as an empty one only if it has no
token, a list never does, and a text that ends too early is reported at its end.  The reader may be
the one over two stacks, in which each of these could go wrong.

Two invariants keep it from going wrong.  The stacks of a chain hold one operand more than operators
(`StackReader.Stacks.Level.push`), so that there is a result in the end
(`StackReader.Stacks.Level.exists_result`); they are the stacks of some operations that wait and of
an operand behind them, and reducing them is closing these operations
(`StackReader.Stacks.reduceWhile_holding`).  And the words that are left go up to the mark for the
end, which nobody takes but the reader of a list that it closes, so that no reader starts without
words (`StackReader.readExpression_upTo` and the lemmas beside it).  So the reader over two stacks
gives the results of the descent over the tokens alone (`StackReader.parse_eq`,
`StackReader.parseList_eq`), for which the failures are known.
-/

namespace CommentDirectives

set_option autoImplicit false

/-! ## Tokens up to the end -/

namespace Entry

variable {stop : Nat}

theorem upTo_nil : upTo stop [] = [⟨.stop, stop⟩] := rfl

theorem upTo_cons (lexeme : Lexeme) (lexemes : List Lexeme) :
    upTo stop (lexeme :: lexemes) = ⟨.token lexeme.token, lexeme.offset⟩ :: upTo stop lexemes :=
  rfl

@[simp] theorem length_upTo (lexemes : List Lexeme) :
    (upTo stop lexemes).length = lexemes.length + 1 := by
  rw [upTo, List.length_append, List.length_map, List.length_singleton]

end Entry

namespace StackReader

open CommentDirectives.Expr (Read MayRead Pending Closing)

variable {stop : Nat}

/-- The word that closes a list. -/
def terminal : Closing → Terminal
  | .endOfText => .stop
  | .paren => .token .closeParen

/-- What has been read off some tokens, with the end behind the tokens that are left. -/
def readUpTo {tokens : List Lexeme} (stop : Nat) (read : Read Expr tokens) :
    Read Expr (Entry.upTo stop tokens) where
  value := read.value
  rest := Entry.upTo stop read.rest
  shorter := by simpa using read.shorter

/-- A chain that has been read off some tokens, with the end behind the tokens that are left. -/
def chainUpTo {tokens : List Lexeme} (stop : Nat) (read : MayRead Expr tokens) :
    MayRead Expr (Entry.upTo stop tokens) where
  value := read.value
  rest := Entry.upTo stop read.rest
  noLonger := by simpa using read.noLonger

/-- A list that has been read, and the words left behind the one that closes it. -/
def listUpTo {tokens : List Lexeme} (stop : Nat) : (closing : Closing) →
    MayRead (List Expr) tokens → MayRead (List Expr) (Entry.upTo stop tokens)
  | .endOfText, read => ⟨read.value, [], Nat.zero_le _⟩
  | .paren, read => ⟨read.value, Entry.upTo stop read.rest, by simpa using read.noLonger⟩

/-! ## Reducing is closing -/

namespace Stacks

/-- The stacks that hold some operations that wait for their right operands, and an operand behind
them. -/
def holding (pending : List Pending) (operand : Expr) : Stacks :=
  ⟨operand :: pending.map (·.left), pending.map fun waiting => (waiting.operator, waiting.offset)⟩

theorem reduceWhile_cons {closes : BinaryOperator → Bool} {innermost : Pending}
    (outer : List Pending) (operand : Expr) :
    (holding (innermost :: outer) operand).reduceWhile closes =
      if closes innermost.operator then
        (holding outer (innermost.close operand)).reduceWhile closes
      else holding (innermost :: outer) operand := by
  rw [holding, List.map_cons, List.map_cons, reduceWhile]
  rfl

/-- Reducing the stacks down to a tier closes the operations that they hold. -/
theorem reduceWhile_holding (tier : Tier) (pending : List Pending) (operand : Expr) :
    ((holding pending operand).reduceWhile fun last => tier.rank ≤ last.tier.rank) =
      holding (Expr.closeDownTo tier pending operand).1
        (Expr.closeDownTo tier pending operand).2 := by
  induction pending generalizing operand with
  | nil =>
      rw [holding, List.map_nil, List.map_nil, reduceWhile]
      rfl
  | cons innermost outer ih =>
      rw [reduceWhile_cons, Expr.closeDownTo]
      by_cases tight : tier.rank ≤ innermost.operator.tier.rank
      · rw [if_pos (decide_eq_true tight), if_pos tight, ih]
      · rw [if_neg (by simpa using tight), if_neg tight]

theorem result_holding (pending : List Pending) (operand : Expr) :
    (holding pending operand).result = .ok (Expr.closeAll pending operand) := by
  have closes : (fun _ : BinaryOperator => true) =
      fun last => decide (Tier.logical.rank ≤ last.tier.rank) :=
    funext fun last => (decide_eq_true (Nat.zero_le _)).symm
  rw [result, closes, reduceWhile_holding, Expr.closeDownTo_logical]
  rfl

theorem pushOperator_holding (pending : List Pending) (operand : Expr)
    (operator : BinaryOperator) (offset : Nat) (next : Expr) :
    ((holding pending operand).pushOperator operator offset).pushOperand next =
      holding (Expr.pushOperator pending operand operator offset) next := by
  rw [pushOperator, reduceWhile_holding]
  rfl

/-! ## One operand more than operators -/

/-- One operand more than operators. -/
def Level (held : Stacks) : Prop := held.operands.length = held.pending.length + 1

/-- Level stacks are those of some operations that wait and of an operand behind them. -/
theorem level_iff {held : Stacks} :
    held.Level ↔ ∃ pending operand, held = holding pending operand := by
  constructor
  · obtain ⟨operands, waiting⟩ := held
    intro level
    induction waiting generalizing operands with
    | nil =>
        obtain ⟨operand, rfl⟩ := List.length_eq_one_iff.mp level
        exact ⟨[], operand, rfl⟩
    | cons last waiting ih =>
        cases operands with
        | nil => cases level
        | cons operand operands =>
            obtain ⟨outer, left, same⟩ := ih operands (Nat.succ.inj level)
            obtain ⟨rfl, rfl⟩ := Stacks.mk.inj same
            exact ⟨⟨left, last.1, last.2⟩ :: outer, operand, rfl⟩
  · rintro ⟨pending, operand, rfl⟩
    rw [Level, holding, List.length_cons, List.length_map, List.length_map]

/-- **The stacks of a chain stay level** when an operator and the operand behind it are read. -/
theorem Level.push {held : Stacks} (level : held.Level) (operator : BinaryOperator)
    (offset : Nat) (next : Expr) :
    ((held.pushOperator operator offset).pushOperand next).Level := by
  obtain ⟨pending, operand, rfl⟩ := level_iff.mp level
  exact level_iff.mpr ⟨_, next, pushOperator_holding pending operand operator offset next⟩

/-- **A chain whose stacks are level has a result.** -/
theorem Level.exists_result {held : Stacks} (level : held.Level) :
    ∃ expr, held.result = .ok expr := by
  obtain ⟨pending, operand, rfl⟩ := level_iff.mp level
  exact ⟨_, result_holding pending operand⟩

end Stacks

/-! ## The end is not passed -/

/-- No operand starts at the end, as none starts where no token is left. -/
theorem lacksOperand_upTo (tokens : List Lexeme) :
    lacksOperand (Entry.upTo stop tokens) = Expr.lacksOperand tokens := by
  cases tokens with
  | nil => rfl
  | cons lexeme rest =>
      rw [Entry.upTo_cons, lacksOperand, Expr.lacksOperand]
      cases lexeme.token <;> rfl

/-- A list item is missing at the same word. -/
theorem missingItem?_upTo (closing : Closing) (tokens : List Lexeme) :
    missingItem? (terminal closing) (Entry.upTo stop tokens) =
      Expr.missingItem? stop closing tokens := by
  cases tokens with
  | nil => cases closing <;> rfl
  | cons lexeme rest =>
      rw [Entry.upTo_cons, missingItem?, Expr.missingItem?]
      cases closing <;> simp [terminal]

mutual
/-- **Each reader does in front of the end what the descent does over the tokens alone.** -/
theorem readExpression_upTo (tokens : List Lexeme) :
    readExpression (Entry.upTo stop tokens) =
      (Expr.readExpression stop tokens).map (readUpTo stop) := by
  rw [readExpression, readOperand_upTo tokens, Expr.readExpression]
  cases Expr.readOperand stop tokens with
  | error failure => rfl
  | ok first =>
      obtain ⟨first, rest, shorter⟩ := first
      simp only [Except.map, readUpTo]
      rw [show Stacks.start first = .holding [] first from rfl, readChain_upTo rest [] first]
      cases Expr.readChain stop [] first rest <;> rfl
termination_by 5 * tokens.length + 2
decreasing_by all_goals omega

theorem readChain_upTo : ∀ (tokens : List Lexeme) (pending : List Pending) (operand : Expr),
    readChain (.holding pending operand) (Entry.upTo stop tokens) =
      (Expr.readChain stop pending operand tokens).map (chainUpTo stop)
  | [], pending, operand => by
      change readChain _ [⟨.stop, stop⟩] = _
      rw [readChain, Expr.readChain]
      simp only [Terminal.binary?, Stacks.result_holding]
      rfl
  | lexeme :: rest, pending, operand => by
      change readChain _ (⟨.token lexeme.token, lexeme.offset⟩ :: Entry.upTo stop rest) = _
      rw [readChain, Expr.readChain]
      simp only [Terminal.binary?]
      cases lexeme.token.binary? with
      | none =>
          simp only [Stacks.result_holding]
          rfl
      | some operator =>
          simp only [lacksOperand_upTo]
          split
          · rfl
          rw [readOperand_upTo rest]
          cases Expr.readOperand stop rest with
          | error failure => rfl
          | ok next =>
              obtain ⟨next, rest', shorter⟩ := next
              simp only [Except.map, readUpTo]
              rw [Stacks.pushOperator_holding, readChain_upTo rest' _ next]
              cases Expr.readChain stop _ next rest' <;> rfl
termination_by tokens => 5 * tokens.length + 2
decreasing_by all_goals (simp only [List.length_cons]; omega)

theorem readOperand_upTo : ∀ tokens : List Lexeme,
    readOperand (Entry.upTo stop tokens) = (Expr.readOperand stop tokens).map (readUpTo stop)
  | [] => by
      change readOperand [⟨.stop, stop⟩] = _
      rw [readOperand, Expr.readOperand]
      simp only [Terminal.unary?]
      rw [readPrimary]
      rfl
  | lexeme :: rest => by
      change readOperand (⟨.token lexeme.token, lexeme.offset⟩ :: Entry.upTo stop rest) = _
      rw [readOperand, Expr.readOperand]
      simp only [Terminal.unary?]
      cases lexeme.token.unary? with
      | none => exact readPrimary_upTo lexeme rest
      | some operator =>
          simp only
          rw [readOperand_upTo rest]
          cases Expr.readOperand stop rest <;> rfl
termination_by tokens => 5 * tokens.length + 1
decreasing_by all_goals (simp only [List.length_cons]; omega)

theorem readPrimary_upTo (lexeme : Lexeme) (rest : List Lexeme) :
    readPrimary (Entry.upTo stop (lexeme :: rest)) =
      (Expr.readPrimary stop lexeme rest).map (readUpTo stop) := by
  obtain ⟨token, offset⟩ := lexeme
  change readPrimary (⟨.token token, offset⟩ :: Entry.upTo stop rest) = _
  rw [readPrimary.eq_def, Expr.readPrimary]
  simp only
  cases Literal.ofToken? token with
  | some value => rfl
  | none =>
  cases token with
  | identifier name =>
      cases rest with
      | nil => rfl
      | cons next rest' =>
          obtain ⟨nextToken, opened⟩ := next
          cases nextToken with
          | openParen =>
              -- The words behind a call end where those behind its list of arguments do.
              simp only [Entry.upTo_cons]
              rw [readCall]
              cases Builtin.named? name with
              | none => rfl
              | some builtin =>
                  simp only
                  rw [show Terminal.token .closeParen = terminal .paren from rfl,
                    readList_upTo .paren rest']
                  cases Expr.readList stop .paren rest' with
                  | error failure => rfl
                  | ok arguments =>
                      simp only [Except.map, listUpTo]
                      by_cases fits : builtin.arity.accepts arguments.value.length = true
                      · rw [if_pos fits, if_pos fits]
                        rfl
                      · rw [if_neg fits, if_neg fits]
          | float | int | bool | string | identifier | operator | bang | closeParen | comma => rfl
  | openParen =>
      simp only
      rw [readGroup, readExpression_upTo rest]
      cases Expr.readExpression stop rest with
      | error failure => rfl
      | ok inner =>
          obtain ⟨expr, rest', shorter⟩ := inner
          cases rest' with
          | nil => rfl
          | cons next rest'' =>
              obtain ⟨nextToken, closed⟩ := next
              cases nextToken <;> rfl
  | float | int | bool | string | operator | bang | closeParen | comma => rfl
termination_by 5 * (rest.length + 1)
decreasing_by all_goals (subst_vars; simp_wf; omega)

theorem readList_upTo (closing : Closing) (tokens : List Lexeme) :
    readList (terminal closing) (Entry.upTo stop tokens) =
      (Expr.readList stop closing tokens).map (listUpTo stop closing) := by
  have items := readItems_upTo closing tokens
  cases tokens with
  | nil =>
      change readList _ [⟨.stop, stop⟩] = _
      rw [readList, Expr.readList.eq_def]
      cases closing with
      | endOfText => rfl
      | paren => exact items
  | cons lexeme rest =>
      obtain ⟨token, offset⟩ := lexeme
      change readList _ (⟨.token token, offset⟩ :: Entry.upTo stop rest) = _
      rw [readList, Expr.readList.eq_def]
      cases closing with
      | endOfText => exact items
      | paren =>
          cases token with
          | closeParen => rfl
          | float | int | bool | string | identifier | operator | bang | openParen | comma =>
              exact items
termination_by 5 * tokens.length + 4
decreasing_by all_goals omega

theorem readItems_upTo (closing : Closing) (tokens : List Lexeme) :
    readItems (terminal closing) (Entry.upTo stop tokens) =
      (Expr.readItems stop closing tokens).map (listUpTo stop closing) := by
  rw [readItems, missingItem?_upTo, Expr.readItems.eq_def]
  cases Expr.missingItem? stop closing tokens with
  | some offset => rfl
  | none =>
  simp only
  rw [readExpression_upTo tokens]
  cases Expr.readExpression stop tokens with
  | error failure => rfl
  | ok item =>
  obtain ⟨item, rest, shorter⟩ := item
  cases rest with
  | nil => cases closing <;> rfl
  | cons next rest' =>
      have fewer : rest'.length < tokens.length := by
        rw [List.length_cons] at shorter
        omega
      obtain ⟨token, offset⟩ := next
      cases token with
      | comma =>
          simp only [Except.map, readUpTo, Entry.upTo_cons, reduceIte]
          rw [readItems_upTo closing rest']
          cases Expr.readItems stop closing rest' <;> cases closing <;> rfl
      | closeParen => cases closing <;> rfl
      | openParen | float | int | bool | string | identifier | operator | bang =>
          cases closing <;> rfl
termination_by 5 * tokens.length + 3
decreasing_by all_goals omega
end

/-! ## Whole texts -/

/-- **Both readers read the same expression.** -/
theorem parse_eq (source : String) : parse source = Expr.parse source := by
  rw [parse, Token.stream, Expr.parse]
  cases Token.sequence source with
  | error failure => rfl
  | ok sequence =>
  obtain ⟨lexemes, stop⟩ := sequence
  cases lexemes with
  | nil => rfl
  | cons lexeme rest =>
      have whole : readExpression (⟨.token lexeme.token, lexeme.offset⟩ :: Entry.upTo stop rest) =
          (Expr.readExpression stop (lexeme :: rest)).map (readUpTo stop) :=
        readExpression_upTo (lexeme :: rest)
      simp only [Entry.upTo_cons]
      rw [whole]
      cases Expr.readExpression stop (lexeme :: rest) with
      | error failure => rfl
      | ok read =>
          obtain ⟨expr, rest', shorter⟩ := read
          cases rest' with
          | nil => rfl
          | cons next rest'' =>
              obtain ⟨token, offset⟩ := next
              cases token <;> rfl

/-- **Both readers read the same list.** -/
theorem parseList_eq (source : String) : parseList source = Expr.parseList source := by
  rw [parseList, Token.stream, Expr.parseList]
  cases Token.sequence source with
  | error failure => rfl
  | ok sequence =>
      obtain ⟨lexemes, stop⟩ := sequence
      have list : readList .stop (Entry.upTo stop lexemes) =
          (Expr.readList stop .endOfText lexemes).map (listUpTo stop .endOfText) :=
        readList_upTo .endOfText lexemes
      simp only
      rw [list]
      cases Expr.readList stop .endOfText lexemes <;> rfl

variable {source : String} {entries : List Entry}

/-- The words of a text are its tokens, and the end behind its last byte. -/
theorem sequence_of_stream (cut : Token.stream source = .ok entries) :
    ∃ lexemes, Token.sequence source = .ok ⟨lexemes, source.utf8ByteSize⟩ ∧
      entries = Entry.upTo source.utf8ByteSize lexemes := by
  rw [Token.stream] at cut
  cases sequence : Token.sequence source with
  | error failure =>
      rw [sequence] at cut
      cases cut
  | ok found =>
      obtain ⟨lexemes, stop⟩ := found
      obtain rfl : stop = source.utf8ByteSize := Expr.stop_of_sequence sequence
      rw [sequence] at cut
      cases cut
      exact ⟨lexemes, rfl, rfl⟩

/-- Only the end is left of a text without tokens. -/
theorem upTo_eq_stop {lexemes : List Lexeme} :
    Entry.upTo stop lexemes = [⟨.stop, stop⟩] ↔ lexemes = [] := by
  constructor
  · intro same
    have length := congrArg List.length same
    rw [Entry.length_upTo, List.length_singleton] at length
    exact List.length_eq_zero_iff.mp (Nat.succ.inj length)
  · rintro rfl
    exact Entry.upTo_nil

/-- **What reading promises.**  The value of a tree that was read never fails for an unknown
function or a wrong number of arguments; a text that can be cut into words fails as an empty
expression just if there are none but the end, never as a list; and where it ends too early, that is
reported at its end.  The reader over two stacks, and the descent over the tokens alone, give the
same results. -/
theorem reading_sound (source : String) :
    (∀ expr, parse source = .ok expr → ∀ scope cause, expr.eval scope = .error cause →
      ¬ cause.IsMiscall) ∧
    (∀ items, parseList source = .ok items → ∀ item ∈ items, ∀ scope cause,
      item.eval scope = .error cause → ¬ cause.IsMiscall) ∧
    (∀ entries, Token.stream source = .ok entries →
      (parse source = .error .emptyExpression ↔ entries = [⟨.stop, source.utf8ByteSize⟩]) ∧
      parseList source ≠ .error .emptyExpression ∧
      ∀ offset, parse source = .error (.unexpectedEnd offset) ∨
        parseList source = .error (.unexpectedEnd offset) → offset = source.utf8ByteSize) ∧
    parse source = Expr.parse source ∧ parseList source = Expr.parseList source := by
  refine ⟨?_, ?_, ?_, parse_eq source, parseList_eq source⟩
  · intro expr succeeds scope cause failed
    rw [parse_eq] at succeeds
    exact (Expr.callable_of_parse succeeds).not_miscall scope expr failed
  · intro items succeeds item member scope cause failed
    rw [parseList_eq] at succeeds
    exact (Expr.callable_of_parseList succeeds item member).not_miscall scope item failed
  · intro entries cut
    obtain ⟨lexemes, sequence, rfl⟩ := sequence_of_stream cut
    rw [parse_eq, parseList_eq, upTo_eq_stop]
    refine ⟨⟨fun fails => ?_, ?_⟩, fun fails => Expr.inside_of_parseList sequence fails, ?_⟩
    · exact (Expr.inside_of_parse sequence fails).resolve_right id
    · rintro rfl
      exact Expr.parse_of_nil sequence
    · rintro offset (fails | fails)
      · rcases Expr.inside_of_parse sequence fails with rfl | inside
        · cases (Expr.parse_of_nil sequence).symm.trans fails
        · exact inside
      · exact Expr.inside_of_parseList sequence fails

/-- A call that is read, a list of calls, and a call that ends too early. -/
theorem reading_sound_calls :
    (∃ expr, parse "abs(n)" = .ok expr ∧ ∀ scope cause, expr.eval scope = .error cause →
      ¬ cause.IsMiscall) ∧
    (∃ item rest, parseList "set(), abs(n)" = .ok (item :: rest) ∧ ∀ scope cause,
      item.eval scope = .error cause → ¬ cause.IsMiscall) ∧
    ∃ entries, Token.stream "set(" = .ok entries ∧
      parse "set(" = .error (.unexpectedEnd 4) ∧ 4 = "set(".utf8ByteSize := by
  have read : ∃ expr, parse "abs(n)" = .ok expr := ⟨_, by cbv⟩
  have readAll : ∃ item rest, parseList "set(), abs(n)" = .ok (item :: rest) := ⟨_, _, by cbv⟩
  have cut : ∃ entries, Token.stream "set(" = .ok entries := ⟨_, by cbv⟩
  have fails : parse "set(" = .error (.unexpectedEnd 4) := by cbv
  obtain ⟨expr, read⟩ := read
  obtain ⟨item, rest, readAll⟩ := readAll
  obtain ⟨entries, cut⟩ := cut
  exact ⟨⟨expr, read, (reading_sound "abs(n)").1 expr read⟩,
    ⟨item, rest, readAll,
      (reading_sound "set(), abs(n)").2.1 _ readAll item List.mem_cons_self⟩,
    entries, cut, fails, ((reading_sound "set(").2.2.1 entries cut).2.2 4 (.inl fails)⟩

end StackReader

end CommentDirectives
