import CommentDirectives.Session.Lines

/-!
# Sessions that look alike

What a user can see of a session are its variables, its output, the state of its
reader of comments, what was asked of the extension, and the reports that are no
mere traces of the work.  Two sessions that agree in all of this are alike
(`Session.Alike`); they may differ in the blocks that are open and in the traces.

Whatever a line reads from a session, the open blocks apart, it reads equally from
sessions that are alike, and whatever it writes keeps them alike.  Two attempts
agree (`Agree`) when they fail for the same cause or both succeed with related
results.  A line that does not belong to conditional blocks never looks at the
open blocks except to see whether lines count, so that it has the same outcome on
sessions that are alike (`perform_of_not_conditional`).
-/

namespace CommentDirectives

set_option autoImplicit false

/-! ## Attempts in a row -/

section Attempts

variable {ε ε' α β : Type} {attempt : Except ε α} {next : α → Except ε β}

/-- An attempt that goes on from another succeeds if both do. -/
theorem exists_of_bind_eq_ok {result : β} (succeeded : attempt >>= next = .ok result) :
    ∃ value, attempt = .ok value ∧ next value = .ok result := by
  cases attempt with
  | error cause => cases succeeded
  | ok value => exact ⟨value, rfl, succeeded⟩

/-- An attempt that goes on from another fails if one of the two does. -/
theorem exists_of_bind_eq_error {cause : ε} (failed : attempt >>= next = .error cause) :
    attempt = .error cause ∨ ∃ value, attempt = .ok value ∧ next value = .error cause := by
  cases attempt with
  | error found => exact .inl (congrArg _ (Except.error.inj failed))
  | ok value => exact .inr ⟨value, rfl, failed⟩

/-- A success that was changed. -/
theorem exists_of_map_eq_ok {change : α → β} {result : β}
    (succeeded : attempt.map change = .ok result) :
    ∃ value, attempt = .ok value ∧ change value = result := by
  cases attempt with
  | error cause => cases succeeded
  | ok value => exact ⟨value, rfl, Except.ok.inj succeeded⟩

/-- A success under another wording of failures. -/
theorem eq_ok_of_mapError {change : ε → ε'} {value : α}
    (succeeded : attempt.mapError change = .ok value) : attempt = .ok value := by
  cases attempt with
  | error cause => cases succeeded
  | ok found => exact congrArg _ (Except.ok.inj succeeded)

/-- A failure under another wording of failures. -/
theorem exists_of_mapError_eq_error {change : ε → ε'} {cause : ε'}
    (failed : attempt.mapError change = .error cause) :
    ∃ found, attempt = .error found ∧ change found = cause := by
  cases attempt with
  | error found => exact ⟨found, rfl, Except.error.inj failed⟩
  | ok value => cases failed

end Attempts

/-! ## Attempts that agree -/

/-- Two attempts that fail for the same cause, or whose results are related. -/
inductive Agree {ε α β : Type} (related : α → β → Prop) : Except ε α → Except ε β → Prop where
  | error (cause : ε) : Agree related (.error cause) (.error cause)
  | ok {left : α} {right : β} : related left right → Agree related (.ok left) (.ok right)

namespace Agree

variable {ε ε' α α' β β' : Type} {related : α → β → Prop} {related' : α' → β' → Prop}

/-- An attempt agrees with itself. -/
theorem refl (attempt : Except ε α) : Agree Eq attempt attempt := by
  cases attempt with
  | error cause => exact .error cause
  | ok value => exact .ok rfl

/-- Attempts that go on from attempts that agree. -/
theorem bind {left : Except ε α} {right : Except ε β} {next : α → Except ε α'}
    {next' : β → Except ε β'} (first : Agree related left right)
    (onward : ∀ value value', left = .ok value → related value value' →
      Agree related' (next value) (next' value')) :
    Agree related' (left >>= next) (right >>= next') := by
  cases first with
  | error cause => exact .error cause
  | ok results => exact onward _ _ rfl results

/-- Two attempts that go on from the same one. -/
theorem bind_same (first : Except ε α) {next : α → Except ε α'} {next' : α → Except ε β'}
    (onward : ∀ value, first = .ok value → Agree related' (next value) (next' value)) :
    Agree related' (first >>= next) (first >>= next') :=
  (refl first).bind fun value _ succeeded same => same ▸ onward value succeeded

theorem map {left : Except ε α} {right : Except ε β} {change : α → α'} {change' : β → β'}
    (first : Agree related left right)
    (changed : ∀ value value', related value value' → related' (change value) (change' value')) :
    Agree related' (left.map change) (right.map change') := by
  cases first with
  | error cause => exact .error cause
  | ok results => exact .ok (changed _ _ results)

theorem mapError {left : Except ε α} {right : Except ε β} (change : ε → ε')
    (first : Agree related left right) :
    Agree related (left.mapError change) (right.mapError change) := by
  cases first with
  | error cause => exact .error _
  | ok results => exact .ok results

end Agree

namespace Session

/-! ## What lines read -/

section Scope

variable {left right : Session} {context context' : LineContext}
  (same : left.scope context = right.scope context')
include same

theorem evaluate_congr (expr : Expr) :
    left.evaluate context expr = right.evaluate context' expr := by
  rw [evaluate, evaluate, same]

theorem evaluateAll_congr (exprs : List Expr) :
    left.evaluateAll context exprs = right.evaluateAll context' exprs := by
  rw [evaluateAll, evaluateAll, same]

theorem condition_congr (expr : Expr) :
    left.condition context expr = right.condition context' expr := by
  rw [condition, condition, evaluate_congr same]

theorem substitute_congr (text : List Char) :
    left.substitute context text = right.substitute context' text := by
  rw [substitute, substitute, same]

theorem readCondition_congr (tail : List Char) :
    left.readCondition context tail = right.readCondition context' tail := by
  simp only [readCondition, condition_congr same]

theorem readDefinedness_congr (tail : List Char) :
    left.readDefinedness context tail = right.readDefinedness context' tail := by
  simp only [readDefinedness, same]

theorem readMessage_congr (tail : List Char) :
    left.readMessage context tail = right.readMessage context' tail := by
  rw [readMessage, readMessage, substitute_congr same]

theorem readPath_congr (tail : List Char) :
    left.readPath context tail = right.readPath context' tail := by
  simp only [readPath, evaluate_congr same]

theorem readValues_congr (tail : List Char) :
    left.readValues context tail = right.readValues context' tail := by
  simp only [readValues, evaluateAll_congr same]

end Scope

/-! ## Sessions that are alike -/

/-- The reports of a session that are no mere traces of the work, in order. -/
def messages (session : Session) : List Event :=
  session.events.toList.filter fun event => event.severity != .debug

theorem messages_trace (session : Session) (message : String)
    (details : List (String × String)) :
    (session.report .debug message details).messages = session.messages := by
  simp [messages, report]

/-- Two sessions that differ at most in their open blocks and in the traces of the work. -/
structure Alike (left right : Session) : Prop where
  globals : left.globals = right.globals
  locals : left.locals = right.locals
  providers : left.providers = right.providers
  output : left.output = right.output
  inBlock : left.inBlock = right.inBlock
  commentOpened : left.commentOpened = right.commentOpened
  actions : left.actions = right.actions
  messages : left.messages = right.messages

/-- Sessions that are alike and whose open blocks are related. -/
structure AlikeWith (blocks : Nesting → Nesting → Prop) (left right : Session) : Prop extends
    Alike left right where
  nesting : blocks left.nesting right.nesting

namespace Alike

theorem refl (session : Session) : Alike session session :=
  ⟨rfl, rfl, rfl, rfl, rfl, rfl, rfl, rfl⟩

theorem symm {left right : Session} (alike : Alike left right) : Alike right left :=
  ⟨alike.globals.symm, alike.locals.symm, alike.providers.symm, alike.output.symm,
    alike.inBlock.symm, alike.commentOpened.symm, alike.actions.symm, alike.messages.symm⟩

theorem trans {first second third : Session} (earlier : Alike first second)
    (later : Alike second third) : Alike first third :=
  ⟨earlier.globals.trans later.globals, earlier.locals.trans later.locals,
    earlier.providers.trans later.providers, earlier.output.trans later.output,
    earlier.inBlock.trans later.inBlock, earlier.commentOpened.trans later.commentOpened,
    earlier.actions.trans later.actions, earlier.messages.trans later.messages⟩

variable {left right : Session}

/-- A change of the open blocks is not seen. -/
theorem withNesting (alike : Alike left right) (nesting nesting' : Nesting) :
    Alike { left with nesting := nesting } { right with nesting := nesting' } :=
  ⟨alike.globals, alike.locals, alike.providers, alike.output, alike.inBlock,
    alike.commentOpened, alike.actions, alike.messages⟩

/-- Sessions that are alike, whatever their open blocks. -/
theorem regardless (alike : Alike left right) : AlikeWith (fun _ _ => True) left right :=
  { toAlike := alike, nesting := trivial }

/-! ### What lines read -/

section Reading

variable (alike : Alike left right) (config : Config) (location : Location) (base base' : Nat)
include alike

theorem scope :
    left.scope ⟨config, location, base⟩ = right.scope ⟨config, location, base'⟩ := by
  simp only [Session.scope, alike.globals, alike.locals, alike.providers]

theorem evaluate (expr : Expr) :
    left.evaluate ⟨config, location, base⟩ expr =
      right.evaluate ⟨config, location, base'⟩ expr :=
  evaluate_congr (alike.scope config location base base') expr

theorem substitute (text : List Char) :
    left.substitute ⟨config, location, base⟩ text =
      right.substitute ⟨config, location, base'⟩ text :=
  substitute_congr (alike.scope config location base base') text

theorem readCondition (tail : List Char) :
    left.readCondition ⟨config, location, base⟩ tail =
      right.readCondition ⟨config, location, base'⟩ tail :=
  readCondition_congr (alike.scope config location base base') tail

theorem readDefinedness (tail : List Char) :
    left.readDefinedness ⟨config, location, base⟩ tail =
      right.readDefinedness ⟨config, location, base'⟩ tail :=
  readDefinedness_congr (alike.scope config location base base') tail

theorem readMessage (tail : List Char) :
    left.readMessage ⟨config, location, base⟩ tail =
      right.readMessage ⟨config, location, base'⟩ tail :=
  readMessage_congr (alike.scope config location base base') tail

theorem readPath (tail : List Char) :
    left.readPath ⟨config, location, base⟩ tail =
      right.readPath ⟨config, location, base'⟩ tail :=
  readPath_congr (alike.scope config location base base') tail

theorem readValues (tail : List Char) :
    left.readValues ⟨config, location, base⟩ tail =
      right.readValues ⟨config, location, base'⟩ tail :=
  readValues_congr (alike.scope config location base base') tail

end Reading

end Alike

/-! ### What lines write -/

namespace AlikeWith

variable {blocks : Nesting → Nesting → Prop} {left right : Session}

theorem report (alike : AlikeWith blocks left right) (severity : Severity) (message : String)
    (details : List (String × String)) :
    AlikeWith blocks (left.report severity message details)
      (right.report severity message details) :=
  { alike with
    messages := by
      simp only [messages, Session.report, Array.toList_push, List.filter_append]
      rw [← Session.messages, ← Session.messages, alike.messages] }

/-- A trace on one side is not seen. -/
theorem untrace (alike : AlikeWith blocks left right) (message : String)
    (details : List (String × String)) :
    AlikeWith blocks (left.report .debug message details) right :=
  { alike with messages := by rw [messages_trace, alike.messages] }

/-- Traces on both sides are not seen, whatever they say. -/
theorem trace (alike : AlikeWith blocks left right) (message message' : String)
    (details details' : List (String × String)) :
    AlikeWith blocks (left.report .debug message details)
      (right.report .debug message' details') :=
  { alike with messages := by rw [messages_trace, messages_trace, alike.messages] }

theorem write (alike : AlikeWith blocks left right) (line : List Char) :
    AlikeWith blocks (left.write line) (right.write line) :=
  { alike with output := by simp only [Session.write, alike.output], messages := alike.messages }

theorem skip (alike : AlikeWith blocks left right) (config : Config) :
    AlikeWith blocks (left.skip config) (right.skip config) := by
  simp only [Session.skip]
  split
  · exact alike.write []
  · exact alike

/-- Blocks that change in related ways. -/
theorem nest (alike : AlikeWith blocks left right) {blocks' : Nesting → Nesting → Prop}
    {nesting nesting' : Nesting} (related : blocks' nesting nesting') :
    AlikeWith blocks' { left with nesting := nesting } { right with nesting := nesting' } :=
  { toAlike := alike.toAlike.withNesting nesting nesting', nesting := related }

theorem assign (alike : AlikeWith blocks left right) (kind : LayerKind) (name : String)
    (value : Value) :
    Agree (AlikeWith blocks) (left.assign kind name value) (right.assign kind name value) := by
  simp only [Session.assign, alike.providers]
  split
  · exact .ok { alike with providers := rfl, messages := alike.messages }
  · exact .error _
  · cases kind with
    | locals =>
        exact .ok { alike with
          locals := by simp only [alike.locals], providers := rfl, messages := alike.messages }
    | globals =>
        exact .ok { alike with
          globals := by simp only [alike.globals], providers := rfl, messages := alike.messages }

theorem undefine (alike : AlikeWith blocks left right) (name : String) :
    Agree (AlikeWith blocks) (left.undefine name) (right.undefine name) := by
  simp only [Session.undefine, alike.providers, alike.locals, alike.globals]
  split
  · exact .error _
  split
  · exact .ok { alike with
      globals := rfl, locals := rfl, providers := rfl, messages := alike.messages }
  split
  · exact .ok { alike with
      globals := rfl, locals := rfl, providers := rfl, messages := alike.messages }
  · exact .error _

end AlikeWith

end Session

end CommentDirectives
