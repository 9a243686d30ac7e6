import CommentDirectives.Proofs.Expr.Recognition
import CommentDirectives.Proofs.Token.Cutting

/-!
# The text of an expression is read back

The text of a tree is an expression, and the tree that is read from it is the same but for offsets
(`parse_text`).  The text must be one of the language (`Printable`): a tree can hold numbers, names
and characters that no text of an expression has, and a number below zero is read as an operator in
front of a number.

The tree is followed constructor by constructor, in front of anything that goes on neither a name
nor a number.  Binary operations are in parentheses, so that how tightly operators bind plays no
role in what the text stands for; what matters is that pieces which stand side by side are not cut
as one.
-/

namespace CommentDirectives

set_option autoImplicit false

namespace Expr

open Grammar
open Token (CutAs Ends IsName cut_text)

/-! ## Texts of trees -/

/-- A tree whose text is one of the language. -/
inductive Printable : Expr → Prop where
  | literal {value : Literal} (offset : Nat) : value.token.Printable →
      Printable (.literal value offset)
  | variable {name : String} (offset : Nat) : IsName name.toList →
      Printable (.variable name offset)
  | unary (operator : UnaryOperator) (offset : Nat) {operand : Expr} : Printable operand →
      Printable (.unary operator operand offset)
  | binary (operator : BinaryOperator) (offset : Nat) {left right : Expr} : Printable left →
      Printable right → Printable (.binary operator left right offset)
  | call (builtin : Builtin) (offset : Nat) {arguments : List Expr} :
      builtin.arity.accepts arguments.length = true →
      (∀ argument ∈ arguments, Printable argument) →
      Printable (.call builtin.name arguments offset)

mutual
/-- The tree with the same nodes, none of which carries an offset. -/
def withoutOffsets : Expr → Expr
  | .literal value _ => .literal value 0
  | .variable name _ => .variable name 0
  | .unary operator operand _ => .unary operator (withoutOffsets operand) 0
  | .binary operator left right _ =>
    .binary operator (withoutOffsets left) (withoutOffsets right) 0
  | .call function arguments _ => .call function (argumentsWithoutOffsets arguments) 0

/-- The arguments of a call without offsets. -/
def argumentsWithoutOffsets : List Expr → List Expr
  | [] => []
  | argument :: rest => withoutOffsets argument :: argumentsWithoutOffsets rest
end

theorem argumentsWithoutOffsets_eq_map (arguments : List Expr) :
    argumentsWithoutOffsets arguments = arguments.map withoutOffsets := by
  induction arguments with
  | nil => rfl
  | cons argument arguments ih => rw [argumentsWithoutOffsets, ih, List.map_cons]

/-- Tokens that stand in a layer for a tree, but for the offsets that it carries. -/
def StandsFor (layer : Nat) (expr : Expr) (lexemes : List Lexeme) : Prop :=
  ∃ read, Derives layer lexemes read ∧ read.withoutOffsets = expr.withoutOffsets

/-- Tokens that stand for a list of trees between commas. -/
def StandForAll (arguments : List Expr) (lexemes : List Lexeme) : Prop :=
  ∃ parts : List (List Lexeme × Expr), Separated (parts.map Prod.fst) lexemes ∧
    (∀ part ∈ parts, Derives 0 part.1 part.2) ∧
    parts.map (fun part => part.2.withoutOffsets) = arguments.map withoutOffsets

/-- A tree whose text is cut into tokens that stand for it. -/
def ReadsBack (expr : Expr) : Prop :=
  ∀ rest, Ends rest → CutAs (StandsFor prefixLayer expr) expr.text.toList rest

theorem ReadsBack.of_token {expr : Expr} (token : Token) (text : expr.text = token.text)
    (printable : token.Printable) (apart : ∀ rest, Ends rest → token.Apart rest)
    (derives : ∀ offset, StandsFor prefixLayer expr [⟨token, offset⟩]) : ReadsBack expr := by
  intro rest ends offset
  rw [text]
  exact ⟨_, cut_text token printable (apart rest ends) offset, derives offset⟩

theorem readsBack_literal {value : Literal} (offset : Nat) (printable : value.token.Printable) :
    ReadsBack (.literal value offset) := by
  refine .of_token value.token ?_ printable ?_ fun place => ?_
  · cases value <;> rfl
  · intro rest ends
    cases value <;> first | exact ends | trivial
  · exact ⟨.literal value place, (Derives.literal value place).downTo (by decide), rfl⟩

theorem readsBack_variable {name : String} (offset : Nat) (isName : IsName name.toList) :
    ReadsBack (.variable name offset) :=
  .of_token (.identifier name) rfl isName (fun _ ends => ends) fun place =>
    ⟨.variable name place, (Derives.variable name place).downTo (by decide), rfl⟩

/-! ## Operations and calls -/

theorem toList_text_unary (operator : UnaryOperator) (operand : Expr) (offset : Nat) :
    (Expr.unary operator operand offset).text.toList =
      operator.token.text.toList ++ operand.text.toList := by
  rw [Expr.text, String.toList_append]
  cases operator <;> rfl

/-- A binary operation is written in parentheses, with blanks around its operator. -/
theorem toList_text_binary (operator : BinaryOperator) (left right : Expr) (offset : Nat) :
    (Expr.binary operator left right offset).text.toList =
      '(' :: (left.text.toList ++ (' ' :: ((Token.operator operator).text.toList ++
        (' ' :: right.text.toList))) ++ [')']) := by
  simp [Expr.text, Token.text]

theorem toList_text_call (function : String) (arguments : List Expr) (offset : Nat) :
    (Expr.call function arguments offset).text.toList =
      (Token.identifier function).text.toList ++
        '(' :: ((", ".intercalate (argumentTexts arguments)).toList ++ [')']) := by
  simp [Expr.text, Token.text]

/-- The names of the functions are names of the language. -/
theorem printable_name (builtin : Builtin) : (Token.identifier builtin.name).Printable := by
  have isName : IsName builtin.name.toList := by cases builtin <;> decide
  exact isName

/-- The text of a tree starts with something that does not go on a symbol. -/
theorem Printable.exists_first {expr : Expr} (printable : Printable expr) :
    ∃ first tail, expr.text.toList = first :: tail ∧ first ≠ '=' := by
  cases printable with
  | @literal value offset printable =>
      have text : (Expr.literal value offset).text = value.token.text := by cases value <;> rfl
      rw [text]
      exact Token.exists_first_text printable (by cases value <;> nofun)
  | @«variable» name offset isName =>
      have printable : (Token.identifier name).Printable := isName
      exact Token.exists_first_text printable nofun
  | @unary operator offset operand _ =>
      rw [toList_text_unary]
      cases operator <;> exact ⟨_, _, rfl, by decide⟩
  | binary operator offset _ _ => exact ⟨_, _, toList_text_binary .., by decide⟩
  | @call builtin offset arguments _ _ =>
      obtain ⟨first, tail, written, other⟩ :=
        Token.exists_first_text (printable_name builtin) nofun
      rw [toList_text_call, written, List.cons_append]
      exact ⟨first, _, rfl, other⟩

theorem ReadsBack.unary (operator : UnaryOperator) (offset : Nat) {operand : Expr}
    (starts : ∃ first tail, operand.text.toList = first :: tail ∧ first ≠ '=')
    (reads : ReadsBack operand) : ReadsBack (.unary operator operand offset) := by
  intro rest ends
  have apart : operator.token.Apart (operand.text.toList ++ rest) := by
    obtain ⟨first, tail, starts, other⟩ := starts
    rw [starts, List.cons_append]
    cases operator <;> rintro next ⟨⟩ <;> exact other
  have printable : operator.token.Printable := by cases operator <;> trivial
  rw [toList_text_unary]
  refine (CutAs.cons operator.token printable apart (reads rest ends)).mono ?_
  rintro _ ⟨place, lexemes, rfl, read, derives, same⟩
  exact ⟨.unary operator read place, .unary operator place derives, by
    rw [withoutOffsets, withoutOffsets, same]⟩

theorem ReadsBack.binary (operator : BinaryOperator) (offset : Nat) {left right : Expr}
    (readsLeft : ReadsBack left) (readsRight : ReadsBack right) :
    ReadsBack (.binary operator left right offset) := by
  intro rest ends
  have apart : (Token.operator operator).Apart (' ' :: right.text.toList ++ ')' :: rest) := by
    rintro next ⟨⟩
    decide
  have behind := CutAs.cons (.operator operator) trivial apart
    (readsRight _ (Token.ends_cons rfl rest)).behindBlank
  rw [toList_text_binary]
  refine ((readsLeft _ (Token.ends_cons rfl _)).append behind.behindBlank).parens.mono ?_
  rintro _ ⟨opened, _, closed, rfl, before, _, rfl, ⟨left', derivesLeft, sameLeft⟩, place, behind,
    rfl, right', derivesRight, sameRight⟩
  obtain ⟨operators, inTier, member⟩ := operator.mem_tier
  have within := operator.rank_lt
  have derives : Derives operator.tier.rank (before ++ ⟨.operator operator, place⟩ :: behind)
      (.binary operator left' right' place) :=
    .binary place inTier member (derivesLeft.downTo (Nat.le_of_lt within))
      (derivesRight.downTo within)
  refine ⟨.binary operator left' right' place, ?_, by
    simp only [withoutOffsets, sameLeft, sameRight]⟩
  exact (Derives.group opened closed (derives.downTo (Nat.zero_le _))).downTo (by decide)

/-- The arguments of a call are cut with the commas between them. -/
theorem cutAs_arguments {arguments : List Expr} {rest : List Char} (ends : Ends rest)
    (reads : ∀ argument ∈ arguments, ReadsBack argument) :
    CutAs (StandForAll arguments) (", ".intercalate (argumentTexts arguments)).toList rest := by
  induction arguments with
  | nil => exact fun offset => ⟨[], Token.cut_nil offset rest, [], .none, nofun, rfl⟩
  | cons argument arguments ih =>
      have first := reads argument List.mem_cons_self
      cases arguments with
      | nil =>
          rw [argumentTexts, argumentTexts, String.intercalate_singleton]
          refine (first rest ends).mono ?_
          rintro lexemes ⟨read, derives, same⟩
          exact ⟨[(lexemes, read)], .one lexemes, by simpa using derives.downTo (by decide),
            by simpa using same⟩
      | cons next others =>
          have onward := ih fun other member => reads other (List.mem_cons_of_mem _ member)
          have text : (", ".intercalate (argumentTexts (argument :: next :: others))).toList =
              argument.text.toList ++ (Token.comma.text.toList ++
                (' ' :: (", ".intercalate (argumentTexts (next :: others))).toList)) := by
            simp [argumentTexts, String.intercalate_cons_cons, Token.text]
          rw [text]
          refine ((first _ (Token.ends_cons rfl _)).append
            (CutAs.cons .comma trivial trivial onward.behindBlank)).mono ?_
          rintro _ ⟨lexemes, _, rfl, ⟨read, derives, same⟩, place, behind, rfl, parts, separated,
            derivesAll, sameAll⟩
          cases parts with
          | nil => cases sameAll
          | cons part parts =>
              refine ⟨(lexemes, read) :: part :: parts, .more lexemes place separated, ?_, ?_⟩
              · rintro other member
                rcases List.mem_cons.mp member with rfl | member
                · exact derives.downTo (by decide)
                · exact derivesAll other member
              · rw [List.map_cons, sameAll, same]
                rfl

theorem ReadsBack.call (builtin : Builtin) (offset : Nat) {arguments : List Expr}
    (accepted : builtin.arity.accepts arguments.length = true)
    (reads : ∀ argument ∈ arguments, ReadsBack argument) :
    ReadsBack (.call builtin.name arguments offset) := by
  intro rest ends
  have inside := (cutAs_arguments (Token.ends_cons rfl rest) reads).parens
  have apart : (Token.identifier builtin.name).Apart
      ('(' :: ((", ".intercalate (argumentTexts arguments)).toList ++ [')']) ++ rest) :=
    Token.ends_cons rfl _
  rw [toList_text_call]
  refine (CutAs.cons (.identifier builtin.name) (printable_name builtin) apart inside).mono ?_
  rintro _ ⟨place, _, rfl, opened, lexemes, closed, rfl, parts, separated, derivesAll, sameAll⟩
  have count : parts.length = arguments.length := by
    simpa using congrArg List.length sameAll
  have derives := Derives.call builtin place opened closed (beq_self_eq_true _)
    (count ▸ accepted) separated derivesAll
  refine ⟨_, derives.downTo (by decide), ?_⟩
  simp only [withoutOffsets, argumentsWithoutOffsets_eq_map, List.map_map]
  exact congrArg (Expr.call builtin.name · 0) sameAll

/-- **The text of a tree is cut into tokens that stand for it.** -/
theorem Printable.readsBack {expr : Expr} (printable : Printable expr) : ReadsBack expr := by
  induction printable with
  | literal offset printable => exact readsBack_literal offset printable
  | «variable» offset isName => exact readsBack_variable offset isName
  | unary operator offset printable ih => exact ih.unary operator offset printable.exists_first
  | binary operator offset _ _ left right => exact left.binary operator offset right
  | call builtin offset accepted _ ih => exact .call builtin offset accepted ih

/-- **The text of an expression is read as the expression**, up to offsets. -/
theorem parse_text {expr : Expr} (printable : expr.Printable) :
    ∃ read, parse expr.text = .ok read ∧ read.withoutOffsets = expr.withoutOffsets := by
  obtain ⟨lexemes, cut, read, derives, same⟩ := printable.readsBack [] nofun 0
  have chain : Chain (Readable expr.text.utf8ByteSize) 0 lexemes read :=
    chain_of_derives (derives.downTo (Nat.zero_le _))
  have reads : ReadsExpression expr.text.utf8ByteSize (lexemes ++ []) read [] :=
    readsExpression_of_chain chain rfl
  rw [List.append_nil] at reads
  exact ⟨read, parse_of_readsExpression cut.sequence_eq reads, same⟩

/-- A tree with operators in front of operands, a call among the arguments of another, and a text
with escapes. -/
def nestedExpr : Expr :=
  .binary .multiply
    (.unary .negate
      (.call Builtin.size.name
        [.call Builtin.set.name [.literal (.string "\"a\n") 9, .literal (.int 7) 18] 7] 2) 1)
    (.binary .add (.variable "b.c" 26)
      (.unary .not (.unary .not (.literal (.bool true) 34) 33) 32) 30) 23

/-- The text of this tree is read back. -/
theorem parse_text_nestedExpr :
    nestedExpr.Printable ∧ nestedExpr.text = "(-size(set(\"\\\"a\\n\", 7)) * (b.c + !!true))" ∧
      ∃ read, parse nestedExpr.text = .ok read ∧
        read.withoutOffsets = nestedExpr.withoutOffsets := by
  have text : (Literal.string "\"a\n").token.Printable := by
    show ∀ character ∈ ['"', 'a', '\n'], Text.ShortlyQuoted character
    intro character member
    simp only [List.mem_cons, List.not_mem_nil, or_false] at member
    rcases member with rfl | rfl | rfl <;> decide
  have seven : (Literal.int 7).token.Printable := by
    show (0 : Int64) ≤ 7
    decide
  have inner : Printable (.call Builtin.set.name
      [.literal (.string "\"a\n") 9, .literal (.int 7) 18] 7) := by
    refine .call .set 7 rfl fun argument member => ?_
    simp only [List.mem_cons, List.not_mem_nil, or_false] at member
    rcases member with rfl | rfl
    · exact .literal 9 text
    · exact .literal 18 seven
  have printable : nestedExpr.Printable := by
    refine .binary _ _ (.unary _ _ (.call .size 2 rfl fun argument member => ?_))
      (.binary _ _ (.variable _ (by decide)) (.unary _ _ (.unary _ _ (.literal _ trivial))))
    obtain rfl := List.mem_singleton.mp member
    exact inner
  exact ⟨printable, by decide, parse_text printable⟩

end Expr

end CommentDirectives
