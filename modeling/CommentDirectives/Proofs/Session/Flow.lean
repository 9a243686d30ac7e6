import CommentDirectives.Proofs.Session.Outcome

/-!
# What is read behind a line

Behind almost every line that does not fail the next line is read.  Only four
directives turn away from that, and only where lines count (`counts_of_flow`).
-/

namespace CommentDirectives

set_option autoImplicit false

/-- Directives behind which something else than the next line may be read. -/
def Directive.turnsAway : Directive → Bool
  | .include | .exit | .exitIf | .excludeIf => true
  | _ => false

/-- Whether a line does not belong to conditional blocks and is followed by the next line, unless
it fails. -/
def LineForm.isOrdinary : LineForm → Bool
  | .directive keyword _ =>
    match Directive.withKeyword? keyword with
    | some known => !known.isConditional && !known.turnsAway
    | none => true
  | _ => true

theorem LineForm.isConditional_of_isOrdinary {form : LineForm} (ordinary : form.isOrdinary = true) :
    form.isConditional = false := by
  cases form with
  | directive keyword tail =>
      simp only [LineForm.isOrdinary, LineForm.isConditional] at ordinary ⊢
      cases found : Directive.withKeyword? keyword with
      | none => rfl
      | some known => simp_all
  | uncomment indent text verbatim => rfl
  | plain => rfl

namespace Session

variable {session : Session} {context : LineContext}

theorem flow_change {changed : Except LineError Session} {flow : Flow}
    (succeeded : (session.change changed).2 = .ok flow) : flow = .next := by
  cases changed with
  | error cause => cases succeeded
  | ok changed => exact (Except.ok.inj succeeded).symm

theorem flow_act {tail : List Char} {flow : Flow}
    (succeeded : (session.act context tail).2 = .ok flow) : flow = .next := by
  unfold act at succeeded
  split at succeeded
  · exact (Except.ok.inj succeeded).symm
  split at succeeded
  · cases succeeded
  · simp only at succeeded
    split at succeeded
    · exact (Except.ok.inj succeeded).symm
    · cases succeeded

/-- Behind a directive that does not turn away, the next line is read. -/
theorem flow_perform {directive : Directive} (stays : directive.turnsAway = false)
    {tail : List Char} {flow : Flow}
    (succeeded : (session.perform context directive tail).2 = .ok flow) : flow = .next := by
  cases directive with
  | «include» | exit | exitIf | excludeIf => cases stays
  | action => exact flow_act succeeded
  | openIf | openIfDefined | openIfUndefined | elseIf | otherwise | close | define | setLocal
  | setGlobal | undefine | echo | warning | error => exact flow_change succeeded

/-- Behind an ordinary line that does not fail, the next line is read. -/
theorem flow_of_ordinary {line : List Char}
    (ordinary : (LineForm.ofLine context.config.allowBlanks line).isOrdinary = true) {flow : Flow}
    (succeeded : (session.processLine context line).2 = .ok flow) : flow = .next := by
  unfold processLine at succeeded
  split at succeeded
  · next keyword tail form =>
    simp only [form, LineForm.isOrdinary] at ordinary
    unfold followDirective at succeeded
    split at succeeded
    · split at succeeded
      · cases succeeded
      · exact (Except.ok.inj succeeded).symm
    · next directive found =>
      rw [found] at ordinary
      split at succeeded
      · exact flow_perform (by simp_all) succeeded
      · exact (Except.ok.inj succeeded).symm
  · split at succeeded
    · exact flow_change succeeded
    · exact (Except.ok.inj succeeded).symm
  · split at succeeded
    · exact flow_change succeeded
    · exact (Except.ok.inj succeeded).symm

/-- A directive that turns away looks at the session and leaves it as it is. -/
theorem perform_of_turnsAway {directive : Directive} (turns : directive.turnsAway = true)
    (tail : List Char) : (session.perform context directive tail).1 = session := by
  cases directive with
  | «include» | exit | exitIf | excludeIf => rfl
  | openIf | openIfDefined | openIfUndefined | elseIf | otherwise | close | define | setLocal
  | setGlobal | undefine | action | echo | warning | error => cases turns

/-- **Only where lines count can something else than the next line be read**, and the open blocks
stay as they are there. -/
theorem counts_of_flow {line : List Char} {flow : Flow}
    (succeeded : (session.processLine context line).2 = .ok flow) (turned : flow ≠ .next) :
    session.isActive = true ∧ (session.processLine context line).1.nesting = session.nesting := by
  by_cases ordinary : (LineForm.ofLine context.config.allowBlanks line).isOrdinary = true
  · exact absurd (flow_of_ordinary ordinary succeeded) turned
  cases form : LineForm.ofLine context.config.allowBlanks line with
  | uncomment | plain => exact absurd rfl (form ▸ ordinary)
  | directive keyword tail =>
      cases found : Directive.withKeyword? keyword with
      | none => simp [form, LineForm.isOrdinary, found] at ordinary
      | some known =>
          simp only [processLine, form, followDirective, found, isActive_skip] at succeeded ⊢
          by_cases followed : (session.isActive || known.isConditional) = true
          · rw [if_pos followed] at succeeded ⊢
            have turns : known.turnsAway = true := by
              cases turns : known.turnsAway with
              | false => exact absurd (flow_perform turns succeeded) turned
              | true => rfl
            have unconditional : known.isConditional = false := by
              cases known <;> first | rfl | cases turns
            rw [unconditional, Bool.or_false] at followed
            refine ⟨followed, ?_⟩
            rw [perform_of_turnsAway turns]
            exact nesting_skip session context.config
          · rw [if_neg followed] at succeeded
            exact absurd (Except.ok.inj succeeded).symm turned

/-- Where something else than the next line is read, lines count, and the open blocks stay. -/
theorem counts_of_turn {line : List Char} {after : Session} {flow : Flow}
    (outcome : session.processLine context line = (after, .ok flow)) (turned : flow ≠ .next) :
    session.isActive = true ∧ after.nesting = session.nesting := by
  have answered : (session.processLine context line).2 = .ok flow := by rw [outcome]
  have counts := counts_of_flow answered turned
  rwa [outcome] at counts

end Session

end CommentDirectives
