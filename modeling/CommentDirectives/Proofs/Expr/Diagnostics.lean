import CommentDirectives.Proofs.Expr.Parentheses
import CommentDirectives.Proofs.Expr.Reading
import CommentDirectives.Proofs.Expr.Refusals
import CommentDirectives.Proofs.Token.Partition

/-!
# What is said about parentheses

A text may be refused for a closing parenthesis without a partner, or for an opening one.  Which one
is meant is followed through the descent: what was read in front of the place of the failure has a
tree and is balanced, so that it is the end of the text, or the place itself, that tells which
parentheses are left over.

There are two exceptions (`parentheses_reported`, `parentheses_misreported`).  A closing parenthesis
that stands where an operand has to is reported even if it closes a group or a list of arguments
(`Premature`).  And a list of arguments that is never closed is reported at the end of the text and
not at the parenthesis that opens it (`Unclosed.arguments`).
-/

namespace CommentDirectives.Expr

set_option autoImplicit false

open Grammar

/-! ## Reported parentheses -/

/-- Tokens that end in an operator in front of an operand, without the operand. -/
def EndsInPrefix (lexemes : List Lexeme) : Prop :=
  ∃ before lexeme, lexemes = before ++ [lexeme] ∧ lexeme.token.unary?.isSome = true

/-- Balanced tokens, none or such that the operand of the last one is missing. -/
def Wanting (lexemes : List Lexeme) : Prop :=
  Balanced lexemes ∧ (lexemes = [] ∨ EndsInPrefix lexemes)

/-- What stands in front of a closing parenthesis that has its partner, but has it too early: an
operand is missing between them. -/
def Premature (front : List Lexeme) : Prop :=
  ∃ before opened inner, front = before ++ ⟨.openParen, opened⟩ :: inner ∧ Wanting inner

/-- Tokens with an opening parenthesis that has no partner behind it, and where this is reported. -/
inductive Unclosed (stop : Nat) (lexemes : List Lexeme) : Nat → Prop where
  | group (front : List Lexeme) (opened : Nat) (back : List Lexeme) :
      lexemes = front ++ ⟨.openParen, opened⟩ :: back → ¬ Closed back → Unclosed stop lexemes opened
  | arguments (front : List Lexeme) (name : String) (offset opened : Nat) (back : List Lexeme) :
      lexemes = front ++ ⟨.identifier name, offset⟩ :: ⟨.openParen, opened⟩ :: back →
      ¬ Closed back → Unclosed stop lexemes stop

/-- What a failure tells of the parentheses among some tokens.  A parameter says what may stand
between the first one of them and a closing parenthesis that has no partner there. -/
def Tells (stop : Nat) (Front : List Lexeme → Prop) (tokens : List Lexeme) : ParseError → Prop
  | .unmatchedClosing offset => ∃ front back, tokens = front ++ ⟨.closeParen, offset⟩ :: back ∧
      (Front front ∨ Premature front)
  | .expectedClosing offset => Unclosed stop tokens offset
  | _ => True

variable {stop : Nat} {lexemes tokens : List Lexeme} {cause : ParseError}

theorem EndsInPrefix.behind (ends : EndsInPrefix lexemes) (ahead : List Lexeme) :
    EndsInPrefix (ahead ++ lexemes) := by
  obtain ⟨before, lexeme, rfl, isPrefix⟩ := ends
  exact ⟨ahead ++ before, lexeme, (List.append_assoc ..).symm, isPrefix⟩

/-- Where no closing parenthesis comes first, one that is reported stands behind an operator. -/
theorem Wanting.endsInPrefix {front back : List Lexeme} {offset : Nat} (wanting : Wanting front)
    (later : ∀ rest, tokens ≠ ⟨.closeParen, offset⟩ :: rest)
    (written : tokens = front ++ ⟨.closeParen, offset⟩ :: back) : EndsInPrefix front := by
  rcases wanting.2 with rfl | ends
  · exact absurd written (later back)
  · exact ends

theorem Premature.behind {front : List Lexeme} (premature : Premature front) (ahead : List Lexeme) :
    Premature (ahead ++ front) := by
  obtain ⟨before, opened, inner, rfl, wanting⟩ := premature
  exact ⟨ahead ++ before, opened, inner, (List.append_assoc ..).symm, wanting⟩

theorem Unclosed.behind {offset : Nat} (unclosed : Unclosed stop tokens offset)
    (ahead : List Lexeme) : Unclosed stop (ahead ++ tokens) offset := by
  cases unclosed with
  | group front _ back written open' =>
      rw [written, ← List.append_assoc]
      exact .group _ offset back rfl open'
  | arguments front name start opened back written open' =>
      rw [written, ← List.append_assoc]
      exact .arguments _ name start opened back rfl open'

/-- What a failure tells of some tokens, it tells of them with others ahead. -/
theorem Tells.behind {Front Front' : List Lexeme → Prop} (ahead : List Lexeme)
    (tells : Tells stop Front tokens cause)
    (keeps : ∀ front offset back, tokens = front ++ ⟨.closeParen, offset⟩ :: back → Front front →
      Front' (ahead ++ front) ∨ Premature (ahead ++ front)) :
    Tells stop Front' (ahead ++ tokens) cause := by
  cases cause with
  | unmatchedClosing offset =>
      obtain ⟨front, back, written, isFront | premature⟩ := tells
      · exact ⟨ahead ++ front, back, by rw [written, List.append_assoc],
          keeps front offset back written isFront⟩
      · exact ⟨ahead ++ front, back, by rw [written, List.append_assoc],
          .inr (premature.behind ahead)⟩
  | expectedClosing offset => exact Unclosed.behind tells ahead
  | unrecognised | unexpectedToken | unexpectedEnd | danglingOperator | emptyArgument
  | emptyExpression | unknownFunction | argumentCount => trivial

/-- Behind an opening parenthesis, one that closes it is reported if an operand is missing. -/
theorem Tells.opened {Front : List Lexeme → Prop} (tells : Tells stop Wanting tokens cause)
    (opened : Nat) : Tells stop Front (⟨.openParen, opened⟩ :: tokens) cause :=
  tells.behind [⟨.openParen, opened⟩] fun front _ _ _ wanting =>
    .inr ⟨[], opened, front, rfl, wanting⟩

/-- What is ahead of an item in a list: the items in front of it, and for a list of arguments also
the name and the parenthesis that opens the list. -/
inductive Ahead : Closing → List Lexeme → Prop where
  | endOfText {items : List Lexeme} : Balanced items → Ahead .endOfText items
  | paren (name : String) (offset opened : Nat) {items : List Lexeme} : Balanced items →
      Ahead .paren (⟨.identifier name, offset⟩ :: ⟨.openParen, opened⟩ :: items)

theorem Ahead.append {closing : Closing} {ahead : List Lexeme} (isAhead : Ahead closing ahead)
    (balanced : Balanced lexemes) : Ahead closing (ahead ++ lexemes) := by
  cases isAhead with
  | endOfText items => exact .endOfText (items.append balanced)
  | paren name offset opened items => exact .paren name offset opened (items.append balanced)

/-- In front of a closing parenthesis that has no partner in a list.  A list of arguments is itself
the partner of any. -/
def Outside (closing : Closing) (front : List Lexeme) : Prop :=
  closing = .endOfText ∧ Balanced front

/-- What an item tells, its list tells. -/
theorem Tells.item {closing : Closing} {ahead : List Lexeme}
    (tells : Tells stop Wanting tokens cause) (isAhead : Ahead closing ahead)
    (present : missingItem? stop closing tokens = none) :
    Tells stop (Outside closing) (ahead ++ tokens) cause := by
  refine tells.behind ahead fun front offset back written wanting => ?_
  cases isAhead with
  | endOfText items => exact .inl ⟨rfl, items.append wanting.1⟩
  | @paren name start opened items balanced =>
      -- a closing parenthesis right behind a comma is reported as a missing argument
      have later (rest : List Lexeme) : tokens ≠ ⟨.closeParen, offset⟩ :: rest := by
        rintro rfl
        cases present
      have ends := wanting.endsInPrefix later written
      exact .inr ⟨[⟨.identifier name, start⟩], opened, items ++ front, rfl,
        balanced.append wanting.1, .inr (ends.behind items)⟩

/-! ## Following the descent -/

mutual
theorem tells_of_readExpression (tokens : List Lexeme)
    (fails : readExpression stop tokens = .error cause) : Tells stop Wanting tokens cause := by
  rw [readExpression] at fails
  split at fails
  · next operandFails =>
    cases fails
    exact tells_of_readOperand tokens operandFails
  next first rest shorter operandRead =>
  split at fails
  · next chainFails =>
    cases fails
    obtain ⟨taken, written, derives⟩ := derives_of_readOperand tokens _ operandRead
    rw [written]
    refine (tells_of_readChain rest [] first chainFails).behind taken fun front _ _ _ isFront => ?_
    exact .inl ⟨(Balanced.of_derives derives).append isFront.1, .inr (isFront.2.behind taken)⟩
  · cases fails
termination_by 5 * tokens.length + 2
decreasing_by all_goals omega

theorem tells_of_readChain : ∀ (tokens : List Lexeme) (pending : List Pending) (operand : Expr),
    readChain stop pending operand tokens = .error cause →
    Tells stop (fun front => Balanced front ∧ EndsInPrefix front) tokens cause
  | [], pending, operand, fails => by
      rw [readChain] at fails
      cases fails
  | lexeme :: rest, pending, operand, fails => by
      rw [readChain] at fails
      split at fails
      · cases fails
      next operator isOperator =>
      have word (front : List Lexeme) (balanced : Balanced front) : Balanced (lexeme :: front) := by
        have same := Token.binary?_eq_some.mp isOperator
        exact .other (by rw [same]; exact nofun) (by rw [same]; exact nofun) balanced
      split at fails
      · cases fails
        trivial
      next follows =>
      split at fails
      · next operandFails =>
        cases fails
        refine (tells_of_readOperand rest operandFails).behind [lexeme]
          fun front offset back written wanting => ?_
        -- a closing parenthesis right behind the operator is a failure of another kind
        have later (others : List Lexeme) : rest ≠ ⟨.closeParen, offset⟩ :: others := by
          rintro rfl
          exact follows rfl
        exact .inl ⟨word front wanting.1,
          (wanting.endsInPrefix later written).behind [lexeme]⟩
      next next rest' shorter operandRead =>
      split at fails
      · next chainFails =>
        cases fails
        obtain ⟨taken, written, derives⟩ := derives_of_readOperand rest _ operandRead
        rw [written]
        refine (tells_of_readChain rest' _ next chainFails).behind (lexeme :: taken)
          fun front _ _ _ isFront => ?_
        exact .inl ⟨word _ ((Balanced.of_derives derives).append isFront.1),
          isFront.2.behind (lexeme :: taken)⟩
      · cases fails
termination_by tokens => 5 * tokens.length + 2
decreasing_by all_goals (simp only [List.length_cons]; omega)

theorem tells_of_readOperand : ∀ tokens : List Lexeme,
    readOperand stop tokens = .error cause → Tells stop Wanting tokens cause
  | [], fails => by
      rw [readOperand] at fails
      cases fails
      trivial
  | lexeme :: rest, fails => by
      rw [readOperand] at fails
      split at fails
      · next operator isOperator =>
        split at fails
        · next operandFails =>
          cases fails
          refine (tells_of_readOperand rest operandFails).behind [lexeme]
            fun front _ _ _ wanting => .inl ⟨?_, .inr ?_⟩
          · have same := Token.unary?_eq_some.mp isOperator
            refine .other ?_ ?_ wanting.1 <;> rw [same] <;> cases operator <;> exact nofun
          · rcases wanting.2 with rfl | ends
            · exact ⟨[], lexeme, rfl, by rw [isOperator]; rfl⟩
            · exact ends.behind [lexeme]
        · cases fails
      · exact tells_of_readPrimary lexeme rest fails
termination_by tokens => 5 * tokens.length + 1
decreasing_by all_goals (simp only [List.length_cons]; omega)

theorem tells_of_readPrimary (lexeme : Lexeme) (rest : List Lexeme)
    (fails : readPrimary stop lexeme rest = .error cause) :
    Tells stop Wanting (lexeme :: rest) cause := by
  obtain ⟨token, offset⟩ := lexeme
  rw [readPrimary] at fails
  split at fails
  · cases fails
  cases token with
  | identifier name =>
      cases rest with
      | nil => cases fails
      | cons next rest' =>
          obtain ⟨nextToken, opened⟩ := next
          cases nextToken with
          | openParen =>
              simp only at fails
              split at fails
              · cases fails
                trivial
              split at fails
              · next listFails =>
                cases fails
                -- the list takes the closing parenthesis that would be left over
                have tells :=
                  tells_of_readList .paren rest' (.paren name offset opened .nil) listFails
                exact tells.behind [] fun _ _ _ _ isOutside => nomatch isOutside.1
              · split at fails
                · cases fails
                · cases fails
                  trivial
          | float | int | bool | string | identifier | operator | bang | closeParen | comma =>
              cases fails
  | openParen =>
      simp only at fails
      split at fails
      · next innerFails =>
        cases fails
        exact (tells_of_readExpression rest innerFails).opened offset
      next inner rest' shorter innerRead =>
      split at fails
      · cases fails
        obtain ⟨taken, written, derives⟩ := derives_of_readExpression rest _ innerRead
        refine .group [] offset rest rfl ?_
        rw [written, List.append_nil]
        exact (Balanced.of_derives derives).not_closed
      · split at fails <;> cases fails
        trivial
  | closeParen =>
      cases fails
      exact ⟨[], rest, rfl, .inl ⟨.nil, .inl rfl⟩⟩
  | float | int | bool | string | operator | bang | comma =>
      cases fails
      trivial
termination_by 5 * (rest.length + 1)
decreasing_by all_goals (subst_vars; simp_wf; omega)

theorem tells_of_readList (closing : Closing) (tokens : List Lexeme) {ahead : List Lexeme}
    (isAhead : Ahead closing ahead) (fails : readList stop closing tokens = .error cause) :
    Tells stop (Outside closing) (ahead ++ tokens) cause := by
  have itemsFail : readItems stop closing tokens = .error cause := by
    rw [readList.eq_def] at fails
    split at fails
    · cases fails
    · split at fails
      · cases fails
      · exact fails
    · exact fails
  exact tells_of_readItems closing tokens isAhead itemsFail
termination_by 5 * tokens.length + 4
decreasing_by all_goals omega

theorem tells_of_readItems (closing : Closing) (tokens : List Lexeme) {ahead : List Lexeme}
    (isAhead : Ahead closing ahead) (fails : readItems stop closing tokens = .error cause) :
    Tells stop (Outside closing) (ahead ++ tokens) cause := by
  rw [readItems.eq_def] at fails
  split at fails
  · cases fails
    trivial
  next present =>
  split at fails
  · next itemFails =>
    cases fails
    exact (tells_of_readExpression tokens itemFails).item isAhead present
  next item rest shorter itemRead =>
  obtain ⟨taken, written, derives⟩ := derives_of_readExpression tokens _ itemRead
  have balanced := Balanced.of_derives derives
  cases rest with
  | nil =>
      cases closing with
      | endOfText => cases fails
      | paren =>
          cases fails
          rw [written, List.append_nil]
          -- the text ends within the list: what stands behind its parenthesis is balanced
          cases isAhead with
          | paren name offset opened items =>
              exact .arguments [] name offset opened _ rfl (items.append balanced).not_closed
  | cons next rest' =>
      obtain ⟨token, offset⟩ := next
      have fewer : rest'.length < tokens.length := by
        rw [List.length_cons] at shorter
        omega
      cases token with
      | comma =>
          simp only at fails
          split at fails
          · next othersFail =>
            cases fails
            have further := isAhead.append (balanced.append (.comma offset .nil))
            have tells := tells_of_readItems closing rest' further othersFail
            rw [written]
            simpa only [List.append_assoc, List.singleton_append] using tells
          · cases fails
      | closeParen =>
          cases closing with
          | paren => cases fails
          | endOfText =>
              cases fails
              cases isAhead with
              | endOfText items =>
                  exact ⟨_ ++ taken, rest', by rw [written, List.append_assoc],
                    .inl ⟨rfl, items.append balanced⟩⟩
      | openParen | float | int | bool | string | identifier | operator | bang =>
          cases closing <;> cases fails <;> trivial
termination_by 5 * tokens.length + 3
decreasing_by all_goals omega
end

/-! ## Whole texts -/

variable {source : String}

theorem tells_of_parse (cut : Token.sequence source = .ok ⟨lexemes, stop⟩)
    (fails : parse source = .error cause) : Tells stop Balanced lexemes cause := by
  rw [parse, cut] at fails
  cases lexemes with
  | nil =>
      cases fails
      trivial
  | cons lexeme rest =>
      simp only at fails
      split at fails
      · next expressionFails =>
        cases fails
        exact (tells_of_readExpression _ expressionFails).behind [] fun _ _ _ _ wanting =>
          .inl wanting.1
      next value left shorter expressionRead =>
      obtain ⟨taken, written, derives⟩ := derives_of_readExpression _ _ expressionRead
      split at fails
      · cases fails
      next next others fewer =>
      obtain ⟨token, offset⟩ := next
      split at fails
      · next closes =>
        cases fails
        obtain rfl : token = .closeParen := closes
        exact ⟨taken, others, written, .inl (.of_derives derives)⟩
      · cases fails
        trivial

theorem tells_of_parseList (cut : Token.sequence source = .ok ⟨lexemes, stop⟩)
    (fails : parseList source = .error cause) : Tells stop Balanced lexemes cause := by
  rw [parseList, cut] at fails
  simp only at fails
  split at fails <;> cases fails
  next listFails =>
  have tells := tells_of_readList .endOfText lexemes (.endOfText .nil) listFails
  exact tells.behind [] fun _ _ _ _ isOutside => .inl isOutside.2

/-- A text that is refused for a parenthesis could be cut into tokens. -/
theorem tells_of_refused (refused : parse source = .error cause ∨ parseList source = .error cause)
    (syntactic : cause.isLexical = false) :
    ∃ sequence, Token.sequence source = .ok sequence ∧
      Tells source.utf8ByteSize Balanced sequence.lexemes cause := by
  cases cut : Token.sequence source with
  | error cause' =>
      rw [parse, parseList, cut] at refused
      obtain rfl : cause' = cause := by
        rcases refused with fails | fails <;> exact Except.error.inj fails
      cases syntactic.symm.trans (Token.isLexical_of_sequence cut)
  | ok sequence =>
      rw [← stop_of_sequence cut]
      exact ⟨sequence, rfl, refused.elim (tells_of_parse cut) (tells_of_parseList cut)⟩

/-- **What is said about parentheses.**

A closing parenthesis that is reported is one of the tokens.  Either all that were opened in front
of it are closed there, so that it has no partner, or it closes one behind which an operand is
missing.

An opening parenthesis that is reported has no partner behind it; but if it opens a list of
arguments, it is the end of the text that is reported. -/
theorem parentheses_reported (source : String) (offset : Nat) :
    (parse source = .error (.unmatchedClosing offset) ∨
        parseList source = .error (.unmatchedClosing offset) →
      ∃ sequence front back, Token.sequence source = .ok sequence ∧
        sequence.lexemes = front ++ ⟨.closeParen, offset⟩ :: back ∧
        (AllClosed front ∨ Premature front)) ∧
    (parse source = .error (.expectedClosing offset) ∨
        parseList source = .error (.expectedClosing offset) →
      ∃ sequence, Token.sequence source = .ok sequence ∧
        Unclosed source.utf8ByteSize sequence.lexemes offset) := by
  constructor
  · intro refused
    obtain ⟨sequence, cut, front, back, written, balanced | premature⟩ :=
      tells_of_refused refused rfl
    · exact ⟨sequence, front, back, cut, written, .inl balanced.allClosed⟩
    · exact ⟨sequence, front, back, cut, written, .inr premature⟩
  · intro refused
    exact tells_of_refused refused rfl

/-- A closing parenthesis too many, one too few, and one that comes too early. -/
theorem parentheses_reported_strays :
    (parse "(1))" = .error (.unmatchedClosing 3) ∧
      ∃ sequence front back, Token.sequence "(1))" = .ok sequence ∧
        sequence.lexemes = front ++ ⟨.closeParen, 3⟩ :: back ∧
        (AllClosed front ∨ Premature front)) ∧
    (parseList "1, ((2)" = .error (.expectedClosing 3) ∧
      ∃ sequence, Token.sequence "1, ((2)" = .ok sequence ∧
        Unclosed "1, ((2)".utf8ByteSize sequence.lexemes 3) := by
  have closing : parse "(1))" = .error (.unmatchedClosing 3) := by cbv
  have opening : parseList "1, ((2)" = .error (.expectedClosing 3) := by cbv
  exact ⟨⟨closing, (parentheses_reported "(1))" 3).1 (.inl closing)⟩,
    opening, (parentheses_reported "1, ((2)" 3).2 (.inr opening)⟩

/-- **Parentheses are not always reported where they are.**  In `abs(1` no parenthesis stands at the
offset that is reported, and in `()` the one that is reported closes the other. -/
theorem parentheses_misreported :
    ¬ (∀ source offset, parse source = .error (.unmatchedClosing offset) →
      ∃ sequence front back, Token.sequence source = .ok sequence ∧
        sequence.lexemes = front ++ ⟨.closeParen, offset⟩ :: back ∧ AllClosed front) ∧
    ¬ (∀ source offset, parse source = .error (.expectedClosing offset) →
      ∃ sequence front back, Token.sequence source = .ok sequence ∧
        sequence.lexemes = front ++ ⟨.openParen, offset⟩ :: back ∧ ¬ Closed back) := by
  constructor
  · intro claimed
    have cut : Token.sequence "()" = .ok ⟨[⟨.openParen, 0⟩, ⟨.closeParen, 1⟩], 2⟩ := by cbv
    have fails : parse "()" = .error (.unmatchedClosing 1) := by cbv
    obtain ⟨sequence, front, back, cut', written, allClosed⟩ := claimed "()" 1 fails
    obtain rfl := Except.ok.inj (cut.symm.trans cut')
    rcases front with _ | ⟨opened, _ | ⟨_, _ | _⟩⟩
    · cases written
    · obtain ⟨rfl, -⟩ := List.cons.inj written
      exact Balanced.nil.not_closed (allClosed [] 0 [] rfl)
    · cases written
    · cases written
  · intro claimed
    have cut : Token.sequence "abs(1" =
        .ok ⟨[⟨.identifier "abs", 0⟩, ⟨.openParen, 3⟩, ⟨.int 1, 4⟩], 5⟩ := by cbv
    have fails : parse "abs(1" = .error (.expectedClosing 5) := by cbv
    obtain ⟨sequence, front, back, cut', written, -⟩ := claimed "abs(1" 5 fails
    obtain rfl := Except.ok.inj (cut.symm.trans cut')
    rcases front with _ | ⟨_, _ | ⟨_, _ | ⟨_, _ | _⟩⟩⟩ <;> cases written

end CommentDirectives.Expr
