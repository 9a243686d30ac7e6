import CommentDirectives.Expr.Parser

/-!
# Reading expressions over two stacks

The reading of expressions with nothing left out that could go wrong in it.  The words of a text
end with a mark for its end, which is a word like the others, and each reader may be called where
no word is left.  A chain has a stack of operands and a stack of operators, and nothing in their
types says that there is an operand to be found: an operation that lacks one loses the other, and a
chain whose stack of operands is empty is reported as an empty expression.

None of this ever happens, and what is read is what the descent over the tokens alone reads
(`StackReader.parse_eq`, `StackReader.parseList_eq`).
-/

namespace CommentDirectives

set_option autoImplicit false

/-! ## Words up to the end -/

/-- What a word of a text is: a token, or the mark for the end of the text. -/
inductive Terminal where
  | token (token : Token)
  | stop
  deriving DecidableEq

/-- The binary operator that a word stands for between two operands. -/
def Terminal.binary? : Terminal → Option BinaryOperator
  | .token inner => inner.binary?
  | .stop => none

/-- The unary operator that a word stands for in front of an operand. -/
def Terminal.unary? : Terminal → Option UnaryOperator
  | .token inner => inner.unary?
  | .stop => none

/-- A word with the offset of its first byte. -/
structure Entry where
  terminal : Terminal
  offset : Nat
  deriving DecidableEq

/-- Tokens in front of the mark for the end, which stands at an offset. -/
def Entry.upTo (stop : Nat) (lexemes : List Lexeme) : List Entry :=
  lexemes.map (fun lexeme => ⟨.token lexeme.token, lexeme.offset⟩) ++ [⟨.stop, stop⟩]

/-- The words of a text, of which the last one marks its end. -/
def Token.stream (source : String) : Except ParseError (List Entry) :=
  match sequence source with
  | .error failure => .error failure
  | .ok ⟨lexemes, stop⟩ => .ok (Entry.upTo stop lexemes)

namespace StackReader

open CommentDirectives.Expr (Read MayRead)

/-! ## The two stacks -/

/-- The operands and the operators of a chain that is being read, the last ones first. -/
structure Stacks where
  operands : List Expr
  pending : List (BinaryOperator × Nat)

namespace Stacks

/-- The stacks of a chain of which the first operand has been read. -/
def start (operand : Expr) : Stacks := ⟨[operand], []⟩

/-- Takes the last operator and two operands off the stacks, and puts their operation on the stack
of operands.  What has been taken stays away if an operand is missing. -/
def reduce : Stacks → Stacks
  | ⟨operands, []⟩ => ⟨operands, []⟩
  | ⟨right :: left :: operands, (operator, offset) :: pending⟩ =>
    ⟨.binary operator left right offset :: operands, pending⟩
  | ⟨[_], _ :: pending⟩ => ⟨[], pending⟩
  | ⟨[], _ :: pending⟩ => ⟨[], pending⟩

theorem pending_reduce (held : Stacks) : held.reduce.pending = held.pending.tail := by
  obtain ⟨operands, pending⟩ := held
  cases pending with
  | nil => rfl
  | cons last pending =>
      cases operands with
      | nil => rfl
      | cons right operands => cases operands <;> rfl

/-- Reduces the stacks as long as there is a last operator and it is to be reduced. -/
def reduceWhile (closes : BinaryOperator → Bool) : Stacks → Stacks
  | ⟨operands, []⟩ => ⟨operands, []⟩
  | ⟨operands, (operator, offset) :: pending⟩ =>
    let held : Stacks := ⟨operands, (operator, offset) :: pending⟩
    if closes operator then held.reduce.reduceWhile closes else held
termination_by held => held.pending.length
decreasing_by
  rw [pending_reduce]
  exact Nat.lt_succ_self _

/-- Puts an operator on the stack of operators, once those that bind at least as tightly have been
reduced. -/
def pushOperator (held : Stacks) (operator : BinaryOperator) (offset : Nat) : Stacks :=
  let reduced := held.reduceWhile fun last => operator.tier.rank ≤ last.tier.rank
  ⟨reduced.operands, (operator, offset) :: reduced.pending⟩

/-- Puts an operand on the stack of operands. -/
def pushOperand (held : Stacks) (operand : Expr) : Stacks :=
  ⟨operand :: held.operands, held.pending⟩

/-- The last operand, once all operators have been reduced. -/
def result (held : Stacks) : Except ParseError Expr :=
  match (held.reduceWhile fun _ => true).operands with
  | [] => .error .emptyExpression
  | operand :: _ => .ok operand

end Stacks

/-! ## Reading -/

/-- Whether a word is there that no operand starts with: the end, a closing parenthesis or a
comma. -/
def lacksOperand : List Entry → Bool
  | [] => false
  | entry :: _ =>
    entry.terminal == .stop || entry.terminal == .token .closeParen ||
      entry.terminal == .token .comma

/-- Where a list item is missing: at a comma, or at the word that closes the list. -/
def missingItem? (closing : Terminal) : List Entry → Option Nat
  | [] => none
  | entry :: _ =>
    if entry.terminal = .token .comma then some entry.offset
    else if entry.terminal = closing then some entry.offset
    else none

mutual
/-- Reads a chain of operands and binary operators. -/
def readExpression (entries : List Entry) : Except ParseError (Read Expr entries) :=
  match readOperand entries with
  | .error failure => .error failure
  | .ok ⟨first, rest, shorter⟩ =>
    match readChain (.start first) rest with
    | .error failure => .error failure
    | .ok ⟨expr, rest', noLonger⟩ => .ok ⟨expr, rest', Nat.lt_of_le_of_lt noLonger shorter⟩
termination_by 6 * entries.length + 2
decreasing_by all_goals omega

/-- Reads on behind an operand: a binary operator and its right operand, again and again. -/
def readChain (held : Stacks) (entries : List Entry) :
    Except ParseError (MayRead Expr entries) :=
  match entries with
  | [] =>
    match held.result with
    | .error failure => .error failure
    | .ok expr => .ok ⟨expr, [], Nat.le_refl _⟩
  | entry :: rest =>
    match entry.terminal.binary? with
    | none =>
      match held.result with
      | .error failure => .error failure
      | .ok expr => .ok ⟨expr, entry :: rest, Nat.le_refl _⟩
    | some operator =>
      if lacksOperand rest then .error (.danglingOperator operator entry.offset)
      else
        match readOperand rest with
        | .error failure => .error failure
        | .ok ⟨next, rest', shorter⟩ =>
          match readChain ((held.pushOperator operator entry.offset).pushOperand next) rest' with
          | .error failure => .error failure
          | .ok ⟨expr, rest'', noLonger⟩ =>
            .ok ⟨expr, rest'', Nat.le_succ_of_le (Nat.le_trans noLonger (Nat.le_of_lt shorter))⟩
termination_by 6 * entries.length + 2
decreasing_by all_goals (simp only [List.length_cons]; omega)

/-- Reads unary operators and the operand behind them. -/
def readOperand (entries : List Entry) : Except ParseError (Read Expr entries) :=
  match entries with
  | [] => readPrimary []
  | entry :: rest =>
    match entry.terminal.unary? with
    | some operator =>
      match readOperand rest with
      | .error failure => .error failure
      | .ok ⟨operand, rest', shorter⟩ =>
        .ok ⟨.unary operator operand entry.offset, rest', Nat.lt_succ_of_lt shorter⟩
    | none => readPrimary (entry :: rest)
termination_by 6 * entries.length + 1
decreasing_by all_goals (simp only [List.length_cons, List.length_nil]; omega)

/-- Reads a literal, a variable, a call or a group. -/
def readPrimary (entries : List Entry) : Except ParseError (Read Expr entries) :=
  match entries with
  | [] => .error (.unexpectedEnd 0)
  | ⟨.stop, offset⟩ :: _ => .error (.unexpectedEnd offset)
  | ⟨.token token, offset⟩ :: rest =>
    match Literal.ofToken? token with
    | some value => .ok ⟨.literal value offset, rest, Nat.lt_succ_self _⟩
    | none =>
      match token with
      | .identifier name =>
        match rest with
        | ⟨.token .openParen, _⟩ :: rest' =>
          match readCall name offset rest' with
          | .error failure => .error failure
          | .ok ⟨expr, rest'', noLonger⟩ =>
            .ok ⟨expr, rest'', Nat.lt_succ_of_lt (Nat.lt_succ_of_le noLonger)⟩
        | rest => .ok ⟨.variable name offset, rest, Nat.lt_succ_self _⟩
      | .openParen =>
        match readGroup offset rest with
        | .error failure => .error failure
        | .ok ⟨expr, rest', shorter⟩ => .ok ⟨expr, rest', Nat.lt_succ_of_lt shorter⟩
      | .closeParen => .error (.unmatchedClosing offset)
      | token => .error (.unexpectedToken token offset)
termination_by 6 * entries.length
decreasing_by all_goals (simp only [List.length_cons]; omega)

/-- Reads an expression and the parenthesis that closes it, behind an open one. -/
def readGroup (opened : Nat) (entries : List Entry) : Except ParseError (Read Expr entries) :=
  match readExpression entries with
  | .error failure => .error failure
  | .ok ⟨expr, rest, shorter⟩ =>
    match rest with
    | [] => .error (.expectedClosing opened)
    | next :: rest' =>
      match next.terminal with
      | .token .closeParen => .ok ⟨expr, rest', Nat.lt_of_succ_lt shorter⟩
      | .stop => .error (.expectedClosing opened)
      | .token token => .error (.unexpectedToken token next.offset)
termination_by 6 * entries.length + 3
decreasing_by omega

/-- Reads the arguments of a function behind an open parenthesis. -/
def readCall (name : String) (offset : Nat) (entries : List Entry) :
    Except ParseError (MayRead Expr entries) :=
  match Builtin.named? name with
  | none => .error (.unknownFunction name offset)
  | some builtin =>
    match readList (.token .closeParen) entries with
    | .error failure => .error failure
    | .ok ⟨arguments, rest, noLonger⟩ =>
      if builtin.arity.accepts arguments.length then
        .ok ⟨.call builtin.name arguments offset, rest, noLonger⟩
      else .error (.argumentCount builtin.name builtin.arity arguments.length offset)
termination_by 6 * entries.length + 5
decreasing_by omega

/-- Reads a list of expressions between commas up to the word that closes it, and takes this word
with it. -/
def readList (closing : Terminal) (entries : List Entry) :
    Except ParseError (MayRead (List Expr) entries) :=
  match entries with
  | [] => readItems closing []
  | entry :: rest =>
    if entry.terminal = closing then .ok ⟨[], rest, Nat.le_succ _⟩
    else readItems closing (entry :: rest)
termination_by 6 * entries.length + 4
decreasing_by all_goals omega

/-- Reads one or more expressions between commas up to the word that closes their list. -/
def readItems (closing : Terminal) (entries : List Entry) :
    Except ParseError (MayRead (List Expr) entries) :=
  match missingItem? closing entries with
  | some offset => .error (.emptyArgument offset)
  | none =>
    match readExpression entries with
    | .error failure => .error failure
    | .ok ⟨item, rest, shorter⟩ =>
      match rest with
      | [] => .error (.unexpectedEnd 0)
      | next :: rest' =>
        have fewer : rest'.length < entries.length := Nat.lt_of_succ_lt shorter
        if next.terminal = .token .comma then
          match readItems closing rest' with
          | .error failure => .error failure
          | .ok ⟨items, rest'', noLonger⟩ =>
            .ok ⟨item :: items, rest'', Nat.le_trans noLonger (Nat.le_of_lt fewer)⟩
        else if next.terminal = closing then .ok ⟨[item], rest', Nat.le_of_lt fewer⟩
        else
          match next.terminal with
          | .stop => .error (.expectedClosing next.offset)
          | .token .closeParen => .error (.unmatchedClosing next.offset)
          | .token token => .error (.unexpectedToken token next.offset)
termination_by 6 * entries.length + 3
decreasing_by all_goals omega
end

/-- Reads a text that is one expression. -/
def parse (source : String) : Except ParseError Expr :=
  match Token.stream source with
  | .error failure => .error failure
  | .ok (⟨.stop, _⟩ :: _) => .error .emptyExpression
  | .ok entries =>
    match readExpression entries with
    | .error failure => .error failure
    | .ok ⟨expr, rest, _⟩ =>
      match rest with
      | [] => .ok expr
      | next :: _ =>
        match next.terminal with
        | .stop => .ok expr
        | .token .closeParen => .error (.unmatchedClosing next.offset)
        | .token token => .error (.unexpectedToken token next.offset)

/-- Reads a text that is a list of expressions between commas, perhaps an empty one. -/
def parseList (source : String) : Except ParseError (List Expr) :=
  match Token.stream source with
  | .error failure => .error failure
  | .ok entries =>
    match readList .stop entries with
    | .error failure => .error failure
    | .ok ⟨items, _, _⟩ => .ok items

end StackReader

end CommentDirectives
