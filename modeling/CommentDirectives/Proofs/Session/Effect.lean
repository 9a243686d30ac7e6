import CommentDirectives.Proofs.Session.Moves
import CommentDirectives.Proofs.Session.Owners

/-!
# What directives and lines change

A directive changes one part of the session at most: the open blocks, the variables of a layer, the
providers, or one of the two records (`Session.effect_of_perform`).  Variables that all files share
are changed by two directives only, and providers by those that assign values.  No directive adds to
the output; that is left to its line, which is skipped.

Where lines are kept, every line that does not fail adds exactly one line to the output
(`Session.size_of_processLine`): a directive and a line that is left out as skipped ones, a line to
be uncommented as it stands without its mark, and a line of text with what is left of it, or as a
skipped one if nothing but comments was on it.

Providers that refuse changes stay as they are on every line (`Session.providers_processLine`).
-/

namespace CommentDirectives

set_option autoImplicit false

/-- Whether a directive gives a value to a name. -/
def Directive.assigns : Directive → Bool
  | .define | .setLocal | .setGlobal => true
  | _ => false

/-- The directive that gives a value to a name of a layer. -/
def LayerKind.setter : LayerKind → Directive
  | .locals => .setLocal
  | .globals => .setGlobal

namespace Session

/-- The value that an assignment gives: that of its expression, or true if none is written. -/
inductive Gives (session : Session) (context : LineContext) : Option Expr → Value → Prop where
  | bare : Gives session context none (.bool true)
  | evaluated {expr : Expr} {value : Value} (evaluated : session.evaluate context expr = .ok value) :
      Gives session context (some expr) value

/-- What a directive may make of a session. -/
inductive Effect (session : Session) (context : LineContext) :
    Directive → List Char → Session → Prop where
  | unchanged {directive : Directive} {tail : List Char} :
      Effect session context directive tail session
  | nests {directive : Directive} {tail : List Char} (nesting : Nesting) :
      Effect session context directive tail { session with nesting := nesting }
  /-- A name that no provider owns is given a value in its file. -/
  | assignsLocal {directive : Directive} {tail : List Char} {name : String}
      {expr : Option Expr} {value : Value} (assigns : directive.assigns = true)
      (argument : Directive.readAssignment tail = .ok (name, expr))
      (gives : session.Gives context expr value)
      (free : session.providers.any (·.owns (Text.lowercase name)) = false) :
      Effect session context directive tail
        { session with locals := session.locals.set name value }
  /-- A name that no provider owns is removed in its file. -/
  | removesLocal {tail : List Char} {name : String}
      (argument : Directive.readName tail = .ok name)
      (free : session.providers.any (·.owns name) = false)
      (present : session.locals.contains name = true) :
      Effect session context .undefine tail
        { session with locals := session.locals.remove name }
  /-- A name that no provider owns is given a value for all files. -/
  | assignsGlobal {tail : List Char} {name : String} {expr : Option Expr} {value : Value}
      (argument : Directive.readAssignment tail = .ok (name, expr))
      (gives : session.Gives context expr value)
      (free : session.providers.any (·.owns (Text.lowercase name)) = false) :
      Effect session context .setGlobal tail
        { session with globals := session.globals.set name value }
  /-- A name that neither a provider owns nor the file has a value for is removed for all files. -/
  | removesGlobal {tail : List Char} {name : String}
      (argument : Directive.readName tail = .ok name)
      (free : session.providers.any (·.owns name) = false)
      (missing : session.locals.contains name = false)
      (shared : session.globals.contains name = true) :
      Effect session context .undefine tail
        { session with globals := session.globals.remove name }
  /-- A name that a provider owns is given a value. -/
  | writesProviders {directive : Directive} {tail : List Char} {name : String}
      {expr : Option Expr} {value : Value} {providers : List Provider}
      (assigns : directive.assigns = true)
      (argument : Directive.readAssignment tail = .ok (name, expr))
      (gives : session.Gives context expr value)
      (taken : Provider.assignAmong? (Text.lowercase name) value session.providers =
        some (.ok providers)) :
      Effect session context directive tail { session with providers := providers }
  | reports {directive : Directive} {tail : List Char} (severity : Severity) (message : String)
      (details : List (String × String)) :
      Effect session context directive tail (session.report severity message details)
  | acts {tail : List Char} (action : Action) :
      Effect session context .action tail
        { session with actions := session.actions.push action }

variable {session after : Session} {context : LineContext} {directive : Directive}
  {tail : List Char}

/-! ## Directives -/

/-- A change that succeeds with an effect, or fails. -/
theorem effect_change {changed : Except LineError Session}
    (effect : ∀ after, changed = .ok after → session.Effect context directive tail after) :
    session.Effect context directive tail (session.change changed).1 := by
  cases changed with
  | error cause => exact .unchanged
  | ok after => exact effect after rfl

theorem effect_openBlock {test : Except LineError Bool}
    (succeeded : session.openBlock context test = .ok after) :
    session.Effect context directive tail after := by
  cases active : session.isActive with
  | true =>
      rw [openBlock_of_active active] at succeeded
      obtain ⟨holds, _, rfl⟩ := exists_of_map_eq_ok succeeded
      exact .nests _
  | false =>
      rw [openBlock_of_inactive active] at succeeded
      cases succeeded
      exact .nests _

theorem effect_elseIf (succeeded : session.elseIf context tail = .ok after) :
    session.Effect context directive tail after := by
  rw [elseIf_eq_bind] at succeeded
  obtain ⟨_, _, succeeded⟩ := exists_of_bind_eq_ok succeeded
  obtain ⟨wanted, _, succeeded⟩ := exists_of_bind_eq_ok succeeded
  obtain ⟨holds, _, succeeded⟩ := exists_of_bind_eq_ok succeeded
  obtain ⟨nesting, _, succeeded⟩ := exists_of_bind_eq_ok succeeded
  cases succeeded
  exact .nests nesting

theorem effect_otherwise (succeeded : session.otherwise context tail = .ok after) :
    session.Effect context directive tail after := by
  obtain ⟨_, _, succeeded⟩ := exists_of_bind_eq_ok succeeded
  obtain ⟨_, _, succeeded⟩ := exists_of_bind_eq_ok succeeded
  obtain ⟨nesting, _, succeeded⟩ := exists_of_bind_eq_ok succeeded
  cases succeeded
  exact .nests nesting

theorem effect_close (succeeded : session.close context tail = .ok after) :
    session.Effect context directive tail after := by
  obtain ⟨_, _, succeeded⟩ := exists_of_bind_eq_ok succeeded
  obtain ⟨_, _, succeeded⟩ := exists_of_bind_eq_ok succeeded
  obtain ⟨⟨frame, nesting⟩, _, succeeded⟩ := exists_of_bind_eq_ok succeeded
  cases succeeded
  exact .nests nesting

/-- A value for a variable of the file. -/
theorem effect_assign_locals {name : String} {expr : Option Expr} {value : Value}
    (assigns : directive.assigns = true)
    (argument : Directive.readAssignment tail = .ok (name, expr))
    (gives : session.Gives context expr value)
    (succeeded : session.assign .locals name value = .ok after) :
    session.Effect context directive tail after := by
  unfold assign at succeeded
  split at succeeded
  · next taken =>
    cases succeeded
    exact .writesProviders assigns argument gives taken
  · cases succeeded
  · next free =>
    cases succeeded
    exact .assignsLocal assigns argument gives (Provider.assignAmong?_eq_none.mp free)

/-- A value for a variable that all files share. -/
theorem effect_assign_globals {name : String} {expr : Option Expr} {value : Value}
    (argument : Directive.readAssignment tail = .ok (name, expr))
    (gives : session.Gives context expr value)
    (succeeded : session.assign .globals name value = .ok after) :
    session.Effect context .setGlobal tail after := by
  unfold assign at succeeded
  split at succeeded
  · next taken =>
    cases succeeded
    exact .writesProviders rfl argument gives taken
  · cases succeeded
  · next free =>
    cases succeeded
    exact .assignsGlobal argument gives (Provider.assignAmong?_eq_none.mp free)

theorem effect_define (succeeded : session.define context tail = .ok after) :
    session.Effect context .define tail after := by
  obtain ⟨⟨name, expr⟩, read, succeeded⟩ := exists_of_bind_eq_ok succeeded
  have argument := eq_ok_of_mapError read
  cases expr with
  | none =>
      have assigned : session.assign .locals name (.bool true) = .ok after := succeeded
      exact effect_assign_locals rfl argument .bare assigned
  | some expr =>
      obtain ⟨value, evaluated, succeeded⟩ := exists_of_bind_eq_ok succeeded
      exact effect_assign_locals rfl argument (.evaluated evaluated) succeeded

theorem effect_setVariable (kind : LayerKind)
    (succeeded : session.setVariable context kind.setter kind tail = .ok after) :
    session.Effect context kind.setter tail after := by
  obtain ⟨⟨name, expr⟩, read, succeeded⟩ := exists_of_bind_eq_ok succeeded
  have argument := eq_ok_of_mapError read
  cases expr with
  | none => cases succeeded
  | some expr =>
      obtain ⟨value, evaluated, succeeded⟩ := exists_of_bind_eq_ok succeeded
      cases kind with
      | locals => exact effect_assign_locals rfl argument (.evaluated evaluated) succeeded
      | globals => exact effect_assign_globals argument (.evaluated evaluated) succeeded

theorem effect_removeVariable (succeeded : session.removeVariable tail = .ok after) :
    session.Effect context .undefine tail after := by
  obtain ⟨name, read, succeeded⟩ := exists_of_bind_eq_ok succeeded
  have argument := eq_ok_of_mapError read
  unfold undefine at succeeded
  split at succeeded
  · cases succeeded
  split at succeeded
  · next owned present =>
    cases succeeded
    exact .removesLocal argument (Bool.eq_false_iff.mpr owned) present
  split at succeeded
  · next owned missing shared =>
    cases succeeded
    exact .removesGlobal argument (Bool.eq_false_iff.mpr owned) (Bool.eq_false_iff.mpr missing)
      shared
  · cases succeeded

theorem effect_reportMessage {severity : Severity}
    (succeeded : session.reportMessage context severity tail = .ok after) :
    session.Effect context directive tail after := by
  obtain ⟨message, _, succeeded⟩ := exists_of_bind_eq_ok succeeded
  cases succeeded
  exact .reports severity message _

variable (session context tail) in
theorem effect_act : session.Effect context .action tail (session.act context tail).1 := by
  unfold act
  split
  · exact .reports _ _ _
  split
  · exact .unchanged
  · exact .acts _

/-- **A directive changes one part of the session at most**, whether or not it fails. -/
theorem effect_of_perform (session : Session) (context : LineContext) (directive : Directive)
    (tail : List Char) :
    session.Effect context directive tail (session.perform context directive tail).1 := by
  cases directive with
  | openIf | openIfDefined | openIfUndefined =>
      exact effect_change fun _ succeeded => effect_openBlock succeeded
  | elseIf => exact effect_change fun _ succeeded => effect_elseIf succeeded
  | otherwise => exact effect_change fun _ succeeded => effect_otherwise succeeded
  | close => exact effect_change fun _ succeeded => effect_close succeeded
  | define => exact effect_change fun _ succeeded => effect_define succeeded
  | setLocal => exact effect_change fun _ succeeded => effect_setVariable .locals succeeded
  | setGlobal => exact effect_change fun _ succeeded => effect_setVariable .globals succeeded
  | undefine => exact effect_change fun _ succeeded => effect_removeVariable succeeded
  | action => exact effect_act session context tail
  | echo | warning => exact effect_change fun _ succeeded => effect_reportMessage succeeded
  | error =>
      refine effect_change fun _ succeeded => ?_
      obtain ⟨message, _, succeeded⟩ := exists_of_bind_eq_ok succeeded
      cases succeeded
  | «include» | exit | exitIf | excludeIf => exact .unchanged

/-! ## The output -/

theorem Effect.output (effect : session.Effect context directive tail after) :
    after.output = session.output := by
  cases effect <;> rfl

/-- A directive adds nothing to the output. -/
theorem output_followDirective (session : Session) (context : LineContext) (keyword : String)
    (tail : List Char) :
    (session.followDirective context keyword tail).1.output = session.output := by
  unfold followDirective
  split
  · rfl
  · split
    · exact (effect_of_perform _ context _ tail).output
    · rfl

theorem size_write (session : Session) (line : List Char) :
    (session.write line).output.size = session.output.size + 1 :=
  Array.size_push line

section Kept

variable {config : Config} (kept : config.keepLines = true)
include kept

/-- Where lines are kept, a line that is skipped is an empty line of the output. -/
theorem size_skip (session : Session) :
    (session.skip config).output.size = session.output.size + 1 := by
  rw [skip, if_pos kept, size_write]

theorem size_skipLines (session : Session) (count : Nat) :
    (session.skipLines config count).output.size = session.output.size + count := by
  induction count with
  | zero => rfl
  | succ count ih => exact (size_skip kept _).trans (congrArg (· + 1) ih)

/-- A line of text adds one line, even if nothing but comments was on it. -/
theorem size_writeText (session : Session) (location : Location) (base : Nat) (text : List Char) :
    (session.writeText ⟨config, location, base⟩ text).output.size = session.output.size + 1 := by
  unfold writeText
  split
  · exact size_write session text
  · simp only
    split
    · exact size_skip kept _
    · exact size_write _ _

/-- **Where lines are kept, every line that does not fail adds exactly one line to the output.** -/
theorem size_of_processLine {location : Location} {base : Nat} {line : List Char} {flow : Flow}
    (outcome : session.processLine ⟨config, location, base⟩ line = (after, .ok flow)) :
    after.output.size = session.output.size + 1 := by
  unfold processLine at outcome
  split at outcome
  · next keyword tail _ =>
    have same := output_followDirective (session.skip config) ⟨config, location, base⟩ keyword tail
    rw [outcome] at same
    rw [same, size_skip kept]
  · split at outcome
    · obtain ⟨body, _, rfl⟩ := exists_of_map_eq_ok (changed_of_ok outcome)
      exact size_write _ _
    · cases outcome
      exact size_skip kept session
  · split at outcome
    · obtain ⟨text, _, rfl⟩ := exists_of_map_eq_ok (changed_of_ok outcome)
      exact size_writeText kept _ _ _ _
    · cases outcome
      exact size_skip kept session

end Kept

/-! ## Providers that refuse changes -/

/-- Nothing is assigned where every provider refuses changes. -/
theorem assignAmong?_ne_ok {providers changed : List Provider}
    (readOnly : ∀ provider ∈ providers, provider.writable = false) (name : String)
    (value : Value) : Provider.assignAmong? name value providers ≠ some (.ok changed) := by
  intro taken
  obtain ⟨front, owner, behind, first, writable, -⟩ := Provider.exists_of_assignAmong taken
  cases (readOnly owner first.mem).symm.trans writable

theorem providers_skip (session : Session) (config : Config) :
    (session.skip config).providers = session.providers := by
  unfold skip
  split <;> rfl

theorem providers_writeText (session : Session) (context : LineContext) (text : List Char) :
    (session.writeText context text).providers = session.providers := by
  unfold writeText
  split
  · rfl
  · dsimp only
    split
    · exact providers_skip _ _
    · rfl

/-- A change leaves the providers as they are if it does so where it succeeds. -/
theorem providers_change {changed : Except LineError Session}
    (kept : ∀ after, changed = .ok after → after.providers = session.providers) :
    (session.change changed).1.providers = session.providers := by
  cases changed with
  | error cause => rfl
  | ok after => exact kept after rfl

section ReadOnly

variable (readOnly : ∀ provider ∈ session.providers, provider.writable = false)
include readOnly

theorem Effect.providers (effect : session.Effect context directive tail after) :
    after.providers = session.providers := by
  cases effect with
  | writesProviders assigns argument gives taken =>
      exact absurd taken (assignAmong?_ne_ok readOnly _ _)
  | unchanged | nests | assignsLocal | removesLocal | assignsGlobal | removesGlobal | reports
  | acts => rfl

theorem providers_followDirective (context : LineContext) (keyword : String) (tail : List Char) :
    (session.followDirective context keyword tail).1.providers = session.providers := by
  unfold followDirective
  split
  · rfl
  · next directive _ =>
    split
    · have effect := effect_of_perform
        (session.report .debug "directive"
          [("directive", directive.keyword), ("file", context.location.file),
            ("line", toString context.location.line)]) context directive tail
      have kept := effect.providers
      exact kept readOnly
    · rfl

/-- **Providers that refuse changes stay as they are on every line**, whether or not it fails. -/
theorem providers_processLine (context : LineContext) (line : List Char) :
    (session.processLine context line).1.providers = session.providers := by
  unfold processLine
  split
  · have skipped := providers_skip session context.config
    rw [← skipped] at readOnly
    exact (providers_followDirective readOnly context _ _).trans skipped
  · split
    · refine providers_change fun after succeeded => ?_
      obtain ⟨body, _, rfl⟩ := exists_of_map_eq_ok succeeded
      rfl
    · exact providers_skip _ _
  · split
    · refine providers_change fun after succeeded => ?_
      obtain ⟨text, _, rfl⟩ := exists_of_map_eq_ok succeeded
      exact providers_writeText _ _ _
    · exact providers_skip _ _

end ReadOnly

end Session

end CommentDirectives
