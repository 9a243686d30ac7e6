import CommentDirectives.Expr.Parser

/-!
# What reading can fail for

Reading never runs past the last token, and it never ends without an operand that it has read.  So
a text fails as an empty one only if it has no token, a list never does, and a text that ends too
early is reported at its end and nowhere else (`Expr.inside_of_parse`, `Expr.inside_of_parseList`).

The failures of the mutual descent are followed function by function, as its successes are.
-/

namespace CommentDirectives

set_option autoImplicit false

/-- A failure inside a text that ends at an offset: the text is not called empty, and where it
ends too early, that is at its end. -/
def ParseError.Inside (stop : Nat) : ParseError → Prop
  | .emptyExpression => False
  | .unexpectedEnd offset => offset = stop
  | _ => True

namespace Expr

variable {stop : Nat} {cause : ParseError}

mutual
theorem inside_of_readExpression (tokens : List Lexeme)
    (fails : readExpression stop tokens = .error cause) : cause.Inside stop := by
  rw [readExpression] at fails
  split at fails
  · next operandFails =>
    cases fails
    exact inside_of_readOperand tokens operandFails
  next first rest shorter _ =>
  split at fails
  · next chainFails =>
    cases fails
    exact inside_of_readChain rest [] first chainFails
  · cases fails
termination_by 5 * tokens.length + 2
decreasing_by all_goals omega

theorem inside_of_readChain : ∀ (tokens : List Lexeme) (pending : List Pending) (operand : Expr),
    readChain stop pending operand tokens = .error cause → cause.Inside stop
  | [], pending, operand, fails => by
      rw [readChain] at fails
      cases fails
  | lexeme :: rest, pending, operand, fails => by
      rw [readChain] at fails
      split at fails
      · cases fails
      split at fails
      · cases fails
        trivial
      split at fails
      · next operandFails =>
        cases fails
        exact inside_of_readOperand rest operandFails
      next next rest' shorter _ =>
      split at fails
      · next chainFails =>
        cases fails
        exact inside_of_readChain rest' _ next chainFails
      · cases fails
termination_by tokens => 5 * tokens.length + 2
decreasing_by all_goals (simp only [List.length_cons]; omega)

theorem inside_of_readOperand : ∀ tokens : List Lexeme,
    readOperand stop tokens = .error cause → cause.Inside stop
  | [], fails => by
      rw [readOperand] at fails
      cases fails
      rfl
  | lexeme :: rest, fails => by
      rw [readOperand] at fails
      split at fails
      · split at fails
        · next operandFails =>
          cases fails
          exact inside_of_readOperand rest operandFails
        · cases fails
      · exact inside_of_readPrimary lexeme rest fails
termination_by tokens => 5 * tokens.length + 1
decreasing_by all_goals (simp only [List.length_cons]; omega)

theorem inside_of_readPrimary (lexeme : Lexeme) (rest : List Lexeme)
    (fails : readPrimary stop lexeme rest = .error cause) : cause.Inside stop := by
  obtain ⟨token, offset⟩ := lexeme
  rw [readPrimary] at fails
  split at fails
  · cases fails
  cases token with
  | identifier name =>
      cases rest with
      | nil => cases fails
      | cons next rest' =>
          obtain ⟨nextToken, opened⟩ := next
          cases nextToken with
          | openParen =>
              simp only at fails
              split at fails
              · cases fails
                trivial
              split at fails
              · next listFails =>
                cases fails
                exact inside_of_readList .paren rest' listFails
              · split at fails
                · cases fails
                · cases fails
                  trivial
          | float | int | bool | string | identifier | operator | bang | closeParen | comma =>
              cases fails
  | openParen =>
      simp only at fails
      split at fails
      · next innerFails =>
        cases fails
        exact inside_of_readExpression rest innerFails
      split at fails
      · cases fails
        trivial
      · split at fails <;> cases fails
        trivial
  | float | int | bool | string | operator | bang | closeParen | comma =>
      cases fails
      trivial
termination_by 5 * (rest.length + 1)
decreasing_by all_goals (subst_vars; simp_wf; omega)

theorem inside_of_readList (closing : Closing) (tokens : List Lexeme)
    (fails : readList stop closing tokens = .error cause) : cause.Inside stop := by
  have itemsFail : readItems stop closing tokens = .error cause := by
    rw [readList.eq_def] at fails
    split at fails
    · cases fails
    · split at fails
      · cases fails
      · exact fails
    · exact fails
  exact inside_of_readItems closing tokens itemsFail
termination_by 5 * tokens.length + 4
decreasing_by all_goals omega

theorem inside_of_readItems (closing : Closing) (tokens : List Lexeme)
    (fails : readItems stop closing tokens = .error cause) : cause.Inside stop := by
  rw [readItems.eq_def] at fails
  split at fails
  · cases fails
    trivial
  split at fails
  · next itemFails =>
    cases fails
    exact inside_of_readExpression tokens itemFails
  next item rest shorter _ =>
  cases rest with
  | nil =>
      cases closing with
      | endOfText => cases fails
      | paren =>
          cases fails
          trivial
  | cons next rest' =>
      obtain ⟨token, offset⟩ := next
      have fewer : rest'.length < tokens.length := by
        rw [List.length_cons] at shorter
        omega
      cases token with
      | comma =>
          simp only at fails
          split at fails
          · next othersFail =>
            cases fails
            exact inside_of_readItems closing rest' othersFail
          · cases fails
      | closeParen =>
          cases closing with
          | paren => cases fails
          | endOfText =>
              cases fails
              trivial
      | openParen | float | int | bool | string | identifier | operator | bang =>
          cases closing <;> cases fails <;> trivial
termination_by 5 * tokens.length + 3
decreasing_by all_goals omega
end

/-! ## Whole texts -/

variable {source : String} {lexemes : List Lexeme}

/-- A text is cut up to its last byte. -/
theorem stop_of_sequence {sequence : TokenSequence}
    (cut : Token.sequence source = .ok sequence) : sequence.stop = source.utf8ByteSize := by
  rw [Token.sequence] at cut
  split at cut <;> cases cut
  rfl

theorem inside_of_parse (cut : Token.sequence source = .ok ⟨lexemes, stop⟩)
    (fails : parse source = .error cause) : lexemes = [] ∨ cause.Inside stop := by
  cases lexemes with
  | nil => exact .inl rfl
  | cons lexeme rest =>
      rw [parse, cut] at fails
      simp only at fails
      split at fails
      · next expressionFails =>
        cases fails
        exact .inr (inside_of_readExpression _ expressionFails)
      · split at fails
        · cases fails
        · split at fails <;> cases fails <;> exact .inr trivial

theorem inside_of_parseList (cut : Token.sequence source = .ok ⟨lexemes, stop⟩)
    (fails : parseList source = .error cause) : cause.Inside stop := by
  rw [parseList, cut] at fails
  simp only at fails
  split at fails <;> cases fails
  next listFails => exact inside_of_readList .endOfText lexemes listFails

/-- A text without tokens is no expression, and this is what it fails for. -/
theorem parse_of_nil (cut : Token.sequence source = .ok ⟨[], stop⟩) :
    parse source = .error .emptyExpression := by
  rw [parse, cut]

end Expr

end CommentDirectives
