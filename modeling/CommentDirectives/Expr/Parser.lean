import CommentDirectives.Expr
import CommentDirectives.Token.Lexer

/-!
# Reading expressions

Recursive descent over the tokens of a text.  A chain of operands and binary
operators is grouped while it is read: the operations that wait for their right
operand are kept in a list, innermost first, and an operator closes those of its
own tier and of the tighter ones before it joins them.

Every reading function answers with the tokens it has left and the fact that
there are fewer of them, which is what makes the descent end.  It is told at which
offset the text ends, so that no mark for the end has to stand behind the tokens.
-/

namespace CommentDirectives

set_option autoImplicit false

/-- The literal that a token is. -/
def Literal.ofToken? : Token → Option Literal
  | .int number => some (.int number)
  | .float number => some (.float number)
  | .string text => some (.string text)
  | .bool truth => some (.bool truth)
  | _ => none

namespace Expr

/-! ## Grouping by tiers -/

/-- A binary operation that has its left operand and waits for its right one. -/
structure Pending where
  left : Expr
  operator : BinaryOperator
  offset : Nat

/-- Closes an operation with its right operand. -/
def Pending.close (pending : Pending) (right : Expr) : Expr :=
  .binary pending.operator pending.left right pending.offset

/-- Closes the innermost operations down to those that bind less tightly than a tier, and answers
with those that still wait and with the expression that the others have become. -/
def closeDownTo (tier : Tier) : List Pending → Expr → List Pending × Expr
  | [], operand => ([], operand)
  | innermost :: outer, operand =>
    if tier.rank ≤ innermost.operator.tier.rank then
      closeDownTo tier outer (innermost.close operand)
    else (innermost :: outer, operand)

/-- Closes all operations. -/
def closeAll (pending : List Pending) (operand : Expr) : Expr :=
  pending.foldl (fun right innermost => innermost.close right) operand

/-- Adds an operator behind an operand to the operations that wait. -/
def pushOperator (pending : List Pending) (operand : Expr) (operator : BinaryOperator)
    (offset : Nat) : List Pending :=
  let (outer, left) := closeDownTo operator.tier pending operand
  ⟨left, operator, offset⟩ :: outer

/-! ## Results of reading -/

/-- Something read off the front of some words, and the words left. -/
structure Read (α : Type) {Word : Type} (words : List Word) where
  value : α
  rest : List Word
  shorter : rest.length < words.length

/-- Something read off the front of some words, perhaps without taking any. -/
structure MayRead (α : Type) {Word : Type} (words : List Word) where
  value : α
  rest : List Word
  noLonger : rest.length ≤ words.length

/-- What ends a list of expressions: the end of the text, or a closing parenthesis. -/
inductive Closing where
  | endOfText
  | paren
  deriving DecidableEq

/-- Whether no operand can follow: at the end, at a closing parenthesis and at a comma. -/
def lacksOperand : List Lexeme → Bool
  | [] => true
  | lexeme :: _ => lexeme.token == .closeParen || lexeme.token == .comma

/-- Where a list item is missing: at a comma, or where the list is closed. -/
def missingItem? (stop : Nat) (closing : Closing) : List Lexeme → Option Nat
  | [] => if closing = .endOfText then some stop else none
  | lexeme :: _ =>
    if lexeme.token = .comma then some lexeme.offset
    else if closing = .paren ∧ lexeme.token = .closeParen then some lexeme.offset
    else none

/-! ## Reading -/

mutual
/-- Reads a chain of operands and binary operators. -/
def readExpression (stop : Nat) (tokens : List Lexeme) :
    Except ParseError (Read Expr tokens) :=
  match readOperand stop tokens with
  | .error failure => .error failure
  | .ok ⟨first, rest, shorter⟩ =>
    match readChain stop [] first rest with
    | .error failure => .error failure
    | .ok ⟨expr, rest', noLonger⟩ => .ok ⟨expr, rest', by omega⟩
termination_by 5 * tokens.length + 2
decreasing_by all_goals omega

/-- Reads on behind an operand: a binary operator and its right operand, again and again. -/
def readChain (stop : Nat) (pending : List Pending) (operand : Expr) (tokens : List Lexeme) :
    Except ParseError (MayRead Expr tokens) :=
  match tokens with
  | [] => .ok ⟨closeAll pending operand, [], by simp⟩
  | lexeme :: rest =>
    match lexeme.token.binary? with
    | none => .ok ⟨closeAll pending operand, lexeme :: rest, by simp⟩
    | some operator =>
      if lacksOperand rest then .error (.danglingOperator operator lexeme.offset)
      else
        match readOperand stop rest with
        | .error failure => .error failure
        | .ok ⟨next, rest', shorter⟩ =>
          match readChain stop (pushOperator pending operand operator lexeme.offset) next rest' with
          | .error failure => .error failure
          | .ok ⟨expr, rest'', noLonger⟩ => .ok ⟨expr, rest'', by simp; omega⟩
termination_by 5 * tokens.length + 2
decreasing_by all_goals (simp only [List.length_cons]; omega)

/-- Reads unary operators and the operand behind them. -/
def readOperand (stop : Nat) (tokens : List Lexeme) : Except ParseError (Read Expr tokens) :=
  match tokens with
  | [] => .error (.unexpectedEnd stop)
  | lexeme :: rest =>
    match lexeme.token.unary? with
    | some operator =>
      match readOperand stop rest with
      | .error failure => .error failure
      | .ok ⟨operand, rest', shorter⟩ =>
        .ok ⟨.unary operator operand lexeme.offset, rest', by simp; omega⟩
    | none => readPrimary stop lexeme rest
termination_by 5 * tokens.length + 1
decreasing_by all_goals (simp only [List.length_cons]; omega)

/-- Reads a literal, a variable, a call or a group from a token and those behind it. -/
def readPrimary (stop : Nat) (lexeme : Lexeme) (rest : List Lexeme) :
    Except ParseError (Read Expr (lexeme :: rest)) :=
  match Literal.ofToken? lexeme.token with
  | some value => .ok ⟨.literal value lexeme.offset, rest, by simp⟩
  | none =>
    match lexeme.token with
    | .identifier name =>
      match rest with
      | [] => .ok ⟨.variable name lexeme.offset, [], by simp⟩
      | next :: rest' =>
        match next.token with
        | .openParen =>
          match Builtin.named? name with
          | none => .error (.unknownFunction name lexeme.offset)
          | some builtin =>
            match readList stop .paren rest' with
            | .error failure => .error failure
            | .ok ⟨arguments, rest'', noLonger⟩ =>
              if builtin.arity.accepts arguments.length then
                .ok ⟨.call builtin.name arguments lexeme.offset, rest'', by simp; omega⟩
              else
                .error
                  (.argumentCount builtin.name builtin.arity arguments.length lexeme.offset)
        | _ => .ok ⟨.variable name lexeme.offset, next :: rest', by simp⟩
    | .openParen =>
      match readExpression stop rest with
      | .error failure => .error failure
      | .ok ⟨expr, rest', shorter⟩ =>
        match rest' with
        | [] => .error (.expectedClosing lexeme.offset)
        | next :: rest'' =>
          match next.token with
          | .closeParen => .ok ⟨expr, rest'', by simp at shorter ⊢; omega⟩
          | token => .error (.unexpectedToken token next.offset)
    | .closeParen => .error (.unmatchedClosing lexeme.offset)
    | token => .error (.unexpectedToken token lexeme.offset)
termination_by 5 * (rest.length + 1)
decreasing_by
  · simp only [List.length_cons]; omega
  · omega

/-- Reads a list of expressions between commas up to its end, and takes a closing parenthesis
with it. -/
def readList (stop : Nat) (closing : Closing) (tokens : List Lexeme) :
    Except ParseError (MayRead (List Expr) tokens) :=
  match closing, tokens with
  | .endOfText, [] => .ok ⟨[], [], by simp⟩
  | .paren, lexeme :: rest =>
    match lexeme.token with
    | .closeParen => .ok ⟨[], rest, by simp⟩
    | _ => readItems stop .paren (lexeme :: rest)
  | closing, tokens => readItems stop closing tokens
termination_by 5 * tokens.length + 4
decreasing_by all_goals omega

/-- Reads one or more expressions between commas up to the end of their list. -/
def readItems (stop : Nat) (closing : Closing) (tokens : List Lexeme) :
    Except ParseError (MayRead (List Expr) tokens) :=
  match missingItem? stop closing tokens with
  | some offset => .error (.emptyArgument offset)
  | none =>
    match readExpression stop tokens with
    | .error failure => .error failure
    | .ok ⟨item, rest, shorter⟩ =>
      match closing, rest with
      | .endOfText, [] => .ok ⟨[item], [], by simp⟩
      | .paren, [] => .error (.expectedClosing stop)
      | closing, next :: rest' =>
        have fewer : rest'.length < tokens.length := by simp at shorter; omega
        match next.token, closing with
        | .comma, closing =>
          match readItems stop closing rest' with
          | .error failure => .error failure
          | .ok ⟨items, rest'', noLonger⟩ =>
            .ok ⟨item :: items, rest'', by omega⟩
        | .closeParen, .paren => .ok ⟨[item], rest', by omega⟩
        | .closeParen, .endOfText => .error (.unmatchedClosing next.offset)
        | token, _ => .error (.unexpectedToken token next.offset)
termination_by 5 * tokens.length + 3
decreasing_by all_goals omega
end

/-- Reads a text that is one expression. -/
def parse (source : String) : Except ParseError Expr :=
  match Token.sequence source with
  | .error failure => .error failure
  | .ok ⟨[], _⟩ => .error .emptyExpression
  | .ok ⟨lexemes, stop⟩ =>
    match readExpression stop lexemes with
    | .error failure => .error failure
    | .ok ⟨expr, rest, _⟩ =>
      match rest with
      | [] => .ok expr
      | next :: _ =>
        match next.token with
        | .closeParen => .error (.unmatchedClosing next.offset)
        | token => .error (.unexpectedToken token next.offset)

/-- Reads a text that is a list of expressions between commas, perhaps an empty one. -/
def parseList (source : String) : Except ParseError (List Expr) :=
  match Token.sequence source with
  | .error failure => .error failure
  | .ok ⟨lexemes, stop⟩ =>
    match readList stop .endOfText lexemes with
    | .error failure => .error failure
    | .ok ⟨items, _, _⟩ => .ok items

end Expr

end CommentDirectives
