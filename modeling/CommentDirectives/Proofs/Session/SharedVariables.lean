import CommentDirectives.Proofs.Session.Effect

/-!
# What lines change for all files

Files share the layer of global variables and the providers.  A line changes the value of a global
name only if it follows a directive that gives the name a value or removes it
(`Session.writesGlobal_of_processLine`), and it leaves both alone unless it follows a directive that
does this or gives a value to a name of a provider (`Session.shared_of_processLine`).

The extension is asked by one directive only, so that a line that does not follow this directive does
the same with every extension (`Session.processLine_withExtension`).
-/

namespace CommentDirectives

set_option autoImplicit false

/-- A configuration with another extension. -/
def Config.withExtension (config : Config) (extension : Option (String → List Value → Bool)) :
    Config :=
  { config with extension := extension }

/-- Whether a directive can write a global name or calls the extension. -/
def Directive.isShared : Directive → Bool
  | .setGlobal | .undefine | .action => true
  | _ => false

/-- Whether a line has a directive that can write a global name or calls the extension. -/
def LineForm.isShared : LineForm → Bool
  | .directive keyword _ =>
    match Directive.withKeyword? keyword with
    | some known => known.isShared
    | none => false
  | _ => false

namespace Session

/-- A line follows a directive. -/
inductive Follows (session : Session) (context : LineContext) (line : List Char) :
    Directive → List Char → Prop where
  | intro {keyword : String} {directive : Directive} {tail : List Char}
      (form : LineForm.ofLine context.config.allowBlanks line = .directive keyword tail)
      (known : Directive.withKeyword? keyword = some directive)
      (followed : (session.isActive || directive.isConditional) = true) :
      Follows session context line directive tail

/-- A directive gives the name that is stored under a key a value for all files, or removes it for
all files. -/
inductive WritesGlobal (session : Session) (context : LineContext) :
    Directive → List Char → String → Prop where
  | assigned {tail : List Char} {name : String} {expr : Option Expr} {value : Value}
      (argument : Directive.readAssignment tail = .ok (name, expr))
      (gives : session.Gives context expr value)
      (free : session.providers.any (·.owns (Text.lowercase name)) = false) :
      WritesGlobal session context .setGlobal tail (Name.normalize name)
  | removed {tail : List Char} {name : String} (argument : Directive.readName tail = .ok name)
      (free : session.providers.any (·.owns name) = false)
      (missing : session.locals.contains name = false)
      (shared : session.globals.contains name = true) :
      WritesGlobal session context .undefine tail (Name.normalize name)

/-- A directive has to do with what all files share: it changes a global name, gives a value to a
name that a provider owns, or calls the extension. -/
inductive Shares (session : Session) (context : LineContext) : Directive → List Char → Prop where
  | global {directive : Directive} {tail : List Char} {key : String}
      (writes : session.WritesGlobal context directive tail key) :
      Shares session context directive tail
  | provided {directive : Directive} {tail : List Char} {name : String} {expr : Option Expr}
      {value : Value} {providers : List Provider} (assigns : directive.assigns = true)
      (argument : Directive.readAssignment tail = .ok (name, expr))
      (gives : session.Gives context expr value)
      (taken : Provider.assignAmong? (Text.lowercase name) value session.providers =
        some (.ok providers)) : Shares session context directive tail
  | action (tail : List Char) : Shares session context .action tail

/-! ## Sessions with the same variables -/

/-- Two sessions with the same variables and providers. -/
structure SameVariables (left right : Session) : Prop where
  globals : left.globals = right.globals
  locals : left.locals = right.locals
  providers : left.providers = right.providers

namespace SameVariables

variable {left right : Session} {context : LineContext} {directive : Directive}
  {tail : List Char}

theorem trans {middle : Session} (first : SameVariables left middle)
    (second : SameVariables middle right) : SameVariables left right :=
  ⟨first.globals.trans second.globals, first.locals.trans second.locals,
    first.providers.trans second.providers⟩

variable (same : SameVariables left right)
include same

theorem scope : left.scope context = right.scope context := by
  simp only [Session.scope, same.globals, same.locals, same.providers]

theorem gives {expr : Option Expr} {value : Value} (gives : left.Gives context expr value) :
    right.Gives context expr value := by
  cases gives with
  | bare => exact .bare
  | evaluated evaluated =>
      exact .evaluated ((evaluate_congr same.scope.symm _).trans evaluated)

theorem writesGlobal {key : String} (writes : left.WritesGlobal context directive tail key) :
    right.WritesGlobal context directive tail key := by
  cases writes with
  | assigned argument gives free =>
      exact .assigned argument (same.gives gives) (same.providers ▸ free)
  | removed argument free missing shared =>
      exact .removed argument (same.providers ▸ free) (same.locals ▸ missing)
        (same.globals ▸ shared)

theorem shares (shares : left.Shares context directive tail) :
    right.Shares context directive tail := by
  cases shares with
  | global writes => exact .global (same.writesGlobal writes)
  | provided assigns argument gives taken =>
      exact .provided assigns argument (same.gives gives) (same.providers ▸ taken)
  | action => exact .action tail

end SameVariables

theorem sameVariables_report (session : Session) (severity : Severity) (message : String)
    (details : List (String × String)) :
    SameVariables (session.report severity message details) session := ⟨rfl, rfl, rfl⟩

theorem sameVariables_skip (session : Session) (config : Config) :
    SameVariables (session.skip config) session := by
  unfold skip
  split
  · exact ⟨rfl, rfl, rfl⟩
  · exact ⟨rfl, rfl, rfl⟩

theorem sameVariables_skipLines (session : Session) (config : Config) (count : Nat) :
    SameVariables (session.skipLines config count) session := by
  induction count with
  | zero => exact ⟨rfl, rfl, rfl⟩
  | succ count ih => exact (sameVariables_skip _ config).trans ih

theorem sameVariables_writeText (session : Session) (context : LineContext) (text : List Char) :
    SameVariables (session.writeText context text) session := by
  unfold writeText
  split
  · exact ⟨rfl, rfl, rfl⟩
  · dsimp only
    split
    · exact (sameVariables_skip _ _).trans ⟨rfl, rfl, rfl⟩
    · exact ⟨rfl, rfl, rfl⟩

/-- A change keeps the variables if it does so where it succeeds. -/
theorem sameVariables_change {session : Session} {changed : Except LineError Session}
    (kept : ∀ after, changed = .ok after → SameVariables after session) :
    SameVariables (session.change changed).1 session := by
  cases changed with
  | error cause => exact ⟨rfl, rfl, rfl⟩
  | ok after => exact kept after rfl

/-! ## Directives -/

section Directives

variable {session after : Session} {context : LineContext} {directive : Directive}
  {tail : List Char}

/-- A directive changes the value of a global name only if it writes that name. -/
theorem Effect.writesGlobal (effect : session.Effect context directive tail after) {key : String}
    (changed : after.globals.values.get? key ≠ session.globals.values.get? key) :
    session.WritesGlobal context directive tail key := by
  cases effect with
  | unchanged | nests | assignsLocal | removesLocal | writesProviders | reports | acts =>
      exact absurd rfl changed
  | @assignsGlobal tail name expr value argument gives free =>
      by_cases same : key = Name.normalize name
      · rw [same]
        exact .assigned argument gives free
      · refine absurd ?_ changed
        simp only [Layer.set, SortedMap.get?_insert, if_neg same]
  | @removesGlobal tail name argument free missing shared =>
      by_cases same : key = Name.normalize name
      · rw [same]
        exact .removed argument free missing shared
      · refine absurd ?_ changed
        simp only [Layer.remove, SortedMap.get?_erase, if_neg same]

/-- A directive that has nothing to do with what all files share leaves it alone. -/
theorem Effect.shared (effect : session.Effect context directive tail after)
    (apart : ¬ session.Shares context directive tail) :
    after.globals = session.globals ∧ after.providers = session.providers := by
  cases effect with
  | unchanged | nests | assignsLocal | removesLocal | reports | acts => exact ⟨rfl, rfl⟩
  | assignsGlobal argument gives free =>
      exact absurd (.global (.assigned argument gives free)) apart
  | removesGlobal argument free missing shared =>
      exact absurd (.global (.removed argument free missing shared)) apart
  | writesProviders assigns argument gives taken =>
      exact absurd (.provided assigns argument gives taken) apart

/-- Where all providers refuse changes, a line has to do with what all files share only if it has a
directive for that. -/
theorem Shares.isShared (shares : session.Shares context directive tail)
    (readOnly : ∀ provider ∈ session.providers, provider.writable = false) :
    directive.isShared = true := by
  cases shares with
  | global writes => cases writes <;> rfl
  | provided assigns argument gives taken =>
      exact absurd taken (assignAmong?_ne_ok readOnly _ _)
  | action => rfl

theorem Follows.isShared {line : List Char} (follows : session.Follows context line directive tail) :
    (LineForm.ofLine context.config.allowBlanks line).isShared = directive.isShared := by
  cases follows with
  | intro form known followed => rw [form, LineForm.isShared, known]

end Directives

/-! ## Lines -/

section Lines

variable {session : Session} {context : LineContext} {line : List Char}

/-- A line that follows a directive does what the directive does. -/
theorem Follows.exists_perform {directive : Directive} {tail : List Char}
    (follows : session.Follows context line directive tail) :
    ∃ traced : Session, traced.SameVariables session ∧
      session.processLine context line = traced.perform context directive tail := by
  obtain ⟨form, known, followed⟩ := follows
  have skipped := sameVariables_skip session context.config
  have traced := (sameVariables_report (session.skip context.config) .debug "directive"
    [("directive", directive.keyword), ("file", context.location.file),
      ("line", toString context.location.line)]).trans skipped
  refine ⟨_, traced, ?_⟩
  simp only [processLine, form, followDirective, known, isActive_skip, if_pos followed]

variable (session context line) in
/-- A line follows a directive, and does what the directive does, or keeps the variables. -/
theorem follows_or_sameVariables :
    (∃ (directive : Directive) (tail : List Char) (traced : Session),
      session.Follows context line directive tail ∧ traced.SameVariables session ∧
        session.processLine context line = traced.perform context directive tail) ∨
      SameVariables (session.processLine context line).1 session := by
  by_cases followed : ∃ directive tail, session.Follows context line directive tail
  · obtain ⟨directive, tail, follows⟩ := followed
    obtain ⟨traced, same, does⟩ := follows.exists_perform
    exact .inl ⟨directive, tail, traced, follows, same, does⟩
  · have skipped := sameVariables_skip session context.config
    right
    unfold processLine
    cases form : LineForm.ofLine context.config.allowBlanks line with
    | directive keyword tail =>
        dsimp only
        unfold followDirective
        cases known : Directive.withKeyword? keyword with
        | none => exact skipped
        | some directive =>
            dsimp only
            rw [isActive_skip]
            split
            · next counts => exact absurd ⟨directive, tail, .intro form known counts⟩ followed
            · exact skipped
    | uncomment indent text verbatim =>
        dsimp only
        split
        · refine sameVariables_change fun after succeeded => ?_
          obtain ⟨body, _, rfl⟩ := exists_of_map_eq_ok succeeded
          exact ⟨rfl, rfl, rfl⟩
        · exact skipped
    | plain =>
        dsimp only
        split
        · refine sameVariables_change fun after succeeded => ?_
          obtain ⟨text, _, rfl⟩ := exists_of_map_eq_ok succeeded
          exact sameVariables_writeText session context text
        · exact skipped

/-- **A line changes the value of a global name only if it follows a directive that writes it.** -/
theorem writesGlobal_of_processLine {key : String}
    (changed : (session.processLine context line).1.globals.values.get? key ≠
      session.globals.values.get? key) :
    ∃ directive tail, session.Follows context line directive tail ∧
      session.WritesGlobal context directive tail key := by
  rcases session.follows_or_sameVariables context line with
    ⟨directive, tail, traced, follows, same, does⟩ | same
  · rw [does, ← same.globals] at changed
    have writes := (effect_of_perform traced context directive tail).writesGlobal changed
    exact ⟨directive, tail, follows, same.writesGlobal writes⟩
  · exact absurd (by rw [same.globals]) changed

/-- **A line leaves alone what all files share** if it follows no directive that has to do with it. -/
theorem shared_of_processLine (apart : ∀ directive tail,
      session.Follows context line directive tail → ¬ session.Shares context directive tail) :
    (session.processLine context line).1.globals = session.globals ∧
      (session.processLine context line).1.providers = session.providers := by
  rcases session.follows_or_sameVariables context line with
    ⟨directive, tail, traced, follows, same, does⟩ | same
  · rw [does, ← same.globals, ← same.providers]
    exact (effect_of_perform traced context directive tail).shared fun shares =>
      apart directive tail follows (same.shares shares)
  · exact ⟨same.globals, same.providers⟩

end Lines

/-! ## The extension -/

section Extension

variable (session : Session) (config : Config) (location : Location) (base : Nat)
  (extension : Option (String → List Value → Bool))

/-- No other directive asks the extension. -/
theorem perform_withExtension {directive : Directive} (other : directive ≠ .action)
    (tail : List Char) :
    session.perform ⟨config.withExtension extension, location, base⟩ directive tail =
      session.perform ⟨config, location, base⟩ directive tail := by
  cases directive with
  | action => exact absurd rfl other
  | _ => rfl

/-- **A line that does not call the extension** does the same with every extension. -/
theorem processLine_withExtension (line : List Char)
    (apart : ∀ tail, ¬ session.Follows ⟨config, location, base⟩ line .action tail) :
    session.processLine ⟨config.withExtension extension, location, base⟩ line =
      session.processLine ⟨config, location, base⟩ line := by
  have allowBlanks : (config.withExtension extension).allowBlanks = config.allowBlanks := rfl
  have skipped : session.skip (config.withExtension extension) = session.skip config := rfl
  simp only [processLine, allowBlanks, skipped]
  cases form : LineForm.ofLine config.allowBlanks line with
  | directive keyword tail =>
      simp only [followDirective]
      cases known : Directive.withKeyword? keyword with
      | none => rfl
      | some directive =>
          dsimp only
          split
          · next followed =>
            have other : directive ≠ .action := by
              rintro rfl
              rw [isActive_skip] at followed
              exact apart tail (.intro form known followed)
            exact perform_withExtension _ config location base extension other tail
          · rfl
  | uncomment indent text verbatim => rfl
  | plain => rfl

end Extension

end Session

end CommentDirectives
