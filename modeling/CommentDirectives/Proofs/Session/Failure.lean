import CommentDirectives.Proofs.Session.InPlace

/-!
# Failing lines

A line that fails leaves the variables of both layers, the providers, the open blocks, the open
files and the reader of comments as it found them, although its steps write in place and nothing
takes a write back.  The reason is the order of the steps: every handler reads, evaluates and
decides first, and behind its first write to any of these parts nothing fails.

Three properties of steps carry the argument.  A *quiet* step disturbs nothing, a *sure* step
cannot fail, and a step *fails clean* if a failure disturbs nothing.  A step that fails clean may be
followed by steps that fail clean as long as it is quiet, and by sure steps in any case
(`InPlace.FailsClean.bind`).  The removal of a variable is the one handler that writes before it
decides whether to fail; it goes on to where it can fail only if the name was absent, and taking an
absent name is no change.
-/

namespace CommentDirectives

set_option autoImplicit false

/-- The parts of a session that a failing line has to leave as they are.  The output and the
records of what was reported and asked of the extension are not among them. -/
structure Session.Kept (before after : Session) : Prop where
  globals : after.globals = before.globals
  locals : after.locals = before.locals
  providers : after.providers = before.providers
  nesting : after.nesting = before.nesting
  inBlock : after.inBlock = before.inBlock
  commentOpened : after.commentOpened = before.commentOpened

/-- The same files are open, and the parts of the session are kept. -/
structure Processing.Undisturbed (before after : Processing) : Prop where
  files : after.files = before.files
  session : before.session.Kept after.session

namespace Session.Kept

variable {first second third : Session}

protected theorem refl (session : Session) : session.Kept session := ⟨rfl, rfl, rfl, rfl, rfl, rfl⟩

protected theorem trans (before : first.Kept second) (behind : second.Kept third) :
    first.Kept third where
  globals := behind.globals.trans before.globals
  locals := behind.locals.trans before.locals
  providers := behind.providers.trans before.providers
  nesting := behind.nesting.trans before.nesting
  inBlock := behind.inBlock.trans before.inBlock
  commentOpened := behind.commentOpened.trans before.commentOpened

theorem report (session : Session) (severity : Severity) (message : String)
    (details : List (String × String)) : session.Kept (session.report severity message details) :=
  ⟨rfl, rfl, rfl, rfl, rfl, rfl⟩

theorem write (session : Session) (line : List Char) : session.Kept (session.write line) :=
  ⟨rfl, rfl, rfl, rfl, rfl, rfl⟩

theorem skip (session : Session) (config : Config) : session.Kept (session.skip config) := by
  unfold Session.skip
  split
  · exact write session []
  · exact .refl session

end Session.Kept

namespace Processing.Undisturbed

protected theorem refl (processing : Processing) : processing.Undisturbed processing :=
  ⟨rfl, .refl processing.session⟩

protected theorem trans {first second third : Processing} (before : first.Undisturbed second)
    (behind : second.Undisturbed third) : first.Undisturbed third :=
  ⟨behind.files.trans before.files, before.session.trans behind.session⟩

end Processing.Undisturbed

namespace InPlace

variable {α β : Type}

/-! ## Steps that disturb nothing, cannot fail, or fail clean -/

/-- A step that disturbs nothing, however it ends. -/
structure Quiet (action : InPlace α) : Prop where
  ok : ∀ before value after, action before = .ok value after → before.Undisturbed after
  error : ∀ before cause after, action before = .error cause after → before.Undisturbed after

/-- A step that cannot fail. -/
def Sure (action : InPlace α) : Prop := ∀ before cause after, action before ≠ .error cause after

/-- A step whose failure disturbs nothing. -/
def FailsClean (action : InPlace α) : Prop :=
  ∀ before cause after, action before = .error cause after → before.Undisturbed after

theorem Quiet.failsClean {action : InPlace α} (quiet : Quiet action) : FailsClean action :=
  quiet.error

theorem Sure.failsClean {action : InPlace α} (sure : Sure action) : FailsClean action :=
  fun before cause after failed => absurd failed (sure before cause after)

theorem quiet_inspect (attempt : Session → Except LineError α) : Quiet (inspect attempt) := by
  constructor <;> intro before result after ends <;> unfold inspect at ends <;>
    split at ends <;> cases ends <;> exact .refl before

theorem quiet_throw (cause : LineError) : Quiet (throw cause : InPlace α) where
  ok _ _ _ ends := by cases ends
  error before _ _ ends := by cases ends; exact .refl before

theorem quiet_get : Quiet (get : InPlace Processing) where
  ok before _ _ ends := by cases ends; exact .refl before
  error _ _ _ ends := by cases ends

theorem quiet_modifySession {change : Session → Session}
    (keeps : ∀ session : Session, session.Kept (change session)) : Quiet (modifySession change) where
  ok before _ _ ends := by cases ends; exact ⟨rfl, keeps before.session⟩
  error _ _ _ ends := by cases ends

theorem sure_pure (value : α) : Sure (pure value : InPlace α) :=
  fun _ _ _ failed => by cases failed

theorem sure_modifySession (change : Session → Session) : Sure (modifySession change) :=
  fun _ _ _ failed => by cases failed

theorem sure_openFile (file : OpenFile) : Sure (openFile file) :=
  fun _ _ _ failed => by cases failed

theorem sure_takeLocal (name : String) : Sure (takeLocal name) :=
  fun _ _ _ failed => by cases failed

theorem sure_takeGlobal (name : String) : Sure (takeGlobal name) :=
  fun _ _ _ failed => by cases failed

theorem FailsClean.ite {condition : Prop} [Decidable condition] {first second : InPlace α}
    (holds : FailsClean first) (fails : FailsClean second) :
    FailsClean (if condition then first else second) := by
  split
  · exact holds
  · exact fails

/-- **A step that fails clean is followed by what may fail only where it has disturbed nothing.** -/
theorem FailsClean.bind {first : InPlace α} {next : α → InPlace β} (clean : FailsClean first)
    (onward : ∀ before value after, first before = .ok value after →
      (before.Undisturbed after ∧ FailsClean (next value)) ∨ Sure (next value)) :
    FailsClean (first >>= next) := by
  intro before cause after failed
  rw [bind_eq] at failed
  cases step : first before with
  | error stopped left =>
      rw [step] at failed
      cases failed
      exact clean before cause after step
  | ok value between =>
      rw [step] at failed
      rcases onward before value between step with ⟨undisturbed, clean⟩ | sure
      · exact undisturbed.trans (clean between cause after failed)
      · exact absurd failed (sure between cause after)

/-- Behind a quiet step, a failure disturbs nothing if it does not in what follows. -/
theorem Quiet.bind {first : InPlace α} {next : α → InPlace β} (quiet : Quiet first)
    (onward : ∀ value, FailsClean (next value)) : FailsClean (first >>= next) :=
  quiet.failsClean.bind fun before value after ends =>
    .inl ⟨quiet.ok before value after ends, onward value⟩

/-- What follows may disturb anything if it cannot fail. -/
theorem FailsClean.bind_sure {first : InPlace α} {next : α → InPlace β} (clean : FailsClean first)
    (onward : ∀ value, Sure (next value)) : FailsClean (first >>= next) :=
  clean.bind fun _ value _ _ => .inr (onward value)

/-! ## Directives -/

theorem failsClean_changeNesting (change : Nesting → Except NestingError Nesting) :
    FailsClean (changeNesting change) :=
  (quiet_inspect _).bind fun _ => (sure_modifySession _).failsClean

variable (tree : FileTree) (context : LineContext)

theorem failsClean_openBlock (test : Session → Except LineError Bool) :
    FailsClean (openBlock context test) := by
  refine (quiet_inspect _).bind fun active => .ite ?_ (sure_modifySession _).failsClean
  exact (quiet_inspect test).bind fun _ => (sure_modifySession _).failsClean

theorem failsClean_elseIf (tail : List Char) : FailsClean (elseIf context tail) := by
  refine (quiet_inspect _).bind fun _ => (quiet_inspect _).bind fun wanted => ?_
  refine .ite ?_ (failsClean_changeNesting _)
  exact (quiet_inspect _).bind fun _ => failsClean_changeNesting _

theorem failsClean_otherwise (tail : List Char) : FailsClean (otherwise context tail) :=
  (quiet_inspect _).bind fun _ => (quiet_inspect _).bind fun _ => failsClean_changeNesting _

theorem failsClean_close (tail : List Char) : FailsClean (close context tail) :=
  (quiet_inspect _).bind fun _ => (quiet_inspect _).bind fun _ => failsClean_changeNesting _

theorem failsClean_assign (kind : LayerKind) (name : String) (value : Value) :
    FailsClean (assign kind name value) := by
  refine (quiet_inspect _).bind fun written => ?_
  cases written with
  | some outcome =>
      cases outcome with
      | ok providers => exact (sure_modifySession _).failsClean
      | error reason => exact (quiet_throw _).failsClean
  | none => cases kind <;> exact (sure_modifySession _).failsClean

theorem failsClean_define (tail : List Char) : FailsClean (define context tail) := by
  refine (quiet_inspect _).bind fun ⟨name, expr⟩ => ?_
  cases expr with
  | none => exact failsClean_assign .locals name (.bool true)
  | some expr => exact (quiet_inspect _).bind fun value => failsClean_assign .locals name value

theorem failsClean_setVariable (directive : Directive) (kind : LayerKind) (tail : List Char) :
    FailsClean (setVariable context directive kind tail) := by
  refine (quiet_inspect _).bind fun ⟨name, expr⟩ => ?_
  cases expr with
  | none => exact (quiet_throw _).failsClean
  | some expr => exact (quiet_inspect _).bind fun value => failsClean_assign kind name value

/-- A name that was not in the layer of the file leaves it as it was. -/
theorem undisturbed_of_takeLocal {name : String} {before after : Processing}
    (absent : takeLocal name before = .ok false after) : before.Undisturbed after := by
  obtain ⟨files, session⟩ := before
  rw [takeLocal_eq] at absent
  injection absent with missing left
  rw [remove_of_absent missing] at left
  exact left ▸ .refl _

/-- A name that was not in the shared layer leaves it as it was. -/
theorem undisturbed_of_takeGlobal {name : String} {before after : Processing}
    (absent : takeGlobal name before = .ok false after) : before.Undisturbed after := by
  obtain ⟨files, session⟩ := before
  rw [takeGlobal_eq] at absent
  injection absent with missing left
  rw [remove_of_absent missing] at left
  exact left ▸ .refl _

/-- A removal fails only behind two layers that did not hold the name. -/
theorem failsClean_undefine (name : String) : FailsClean (undefine name) := by
  refine (quiet_inspect _).bind fun owned => .ite (quiet_throw _).failsClean ?_
  refine (sure_takeLocal name).failsClean.bind fun before present after ends => ?_
  cases present with
  | true => exact .inr (sure_pure ())
  | false =>
      refine .inl ⟨undisturbed_of_takeLocal ends, .ite (sure_pure ()).failsClean ?_⟩
      refine (sure_takeGlobal name).failsClean.bind fun before present after ends => ?_
      cases present with
      | true => exact .inr (sure_pure ())
      | false =>
          exact .inl ⟨undisturbed_of_takeGlobal ends,
            .ite (sure_pure ()).failsClean (quiet_throw _).failsClean⟩

theorem failsClean_removeVariable (tail : List Char) : FailsClean (removeVariable tail) :=
  (quiet_inspect _).bind fun name => failsClean_undefine name

theorem failsClean_reportMessage (severity : Severity) (tail : List Char) :
    FailsClean (reportMessage context severity tail) :=
  (quiet_inspect _).bind fun _ => (sure_modifySession _).failsClean

theorem failsClean_failWith (tail : List Char) : FailsClean (failWith context tail) :=
  (quiet_inspect _).bind fun _ => (quiet_throw _).failsClean

/-- A call of the extension that is rejected stays on record, and that is all. -/
theorem failsClean_act (tail : List Char) : FailsClean (act context tail) := by
  unfold act
  cases context.config.extension with
  | none => exact (sure_modifySession _).failsClean
  | some accepts =>
      refine (quiet_inspect _).bind fun values => ?_
      have recorded : Quiet (modifySession fun session => { session with
          actions := session.actions.push ⟨context.location.file, values⟩ }) :=
        quiet_modifySession fun _ => ⟨rfl, rfl, rfl, rfl, rfl, rfl⟩
      exact recorded.bind fun _ => .ite (sure_pure ()).failsClean (quiet_throw _).failsClean

theorem failsClean_includePath (target : String) :
    FailsClean (includePath tree context target) := by
  refine quiet_get.bind fun processing => .ite (quiet_throw _).failsClean ?_
  dsimp only
  cases tree.readText (Processing.includedPath context.location.file target) with
  | error cause => exact (quiet_throw _).failsClean
  | ok text =>
      exact (quiet_modifySession fun session => .report session _ _ _).bind fun _ =>
        (sure_openFile _).failsClean

theorem failsClean_includeFile (tail : List Char) :
    FailsClean (includeFile tree context tail) :=
  (quiet_inspect _).bind fun target => failsClean_includePath tree context target

theorem failsClean_decideFlow (tail : List Char) (flow : Flow) :
    FailsClean (decideFlow context tail flow) :=
  (quiet_inspect _).bind fun _ => (sure_pure _).failsClean

theorem FailsClean.thenNext {action : InPlace Unit} (clean : FailsClean action) :
    FailsClean (thenNext action) :=
  clean.bind_sure fun _ => sure_pure Flow.next

/-- Every directive fails clean. -/
theorem failsClean_perform (directive : Directive) (tail : List Char) :
    FailsClean (perform tree context directive tail) := by
  cases directive with
  | openIf | openIfDefined | openIfUndefined => exact (failsClean_openBlock context _).thenNext
  | elseIf => exact (failsClean_elseIf context tail).thenNext
  | otherwise => exact (failsClean_otherwise context tail).thenNext
  | close => exact (failsClean_close context tail).thenNext
  | define => exact (failsClean_define context tail).thenNext
  | setLocal | setGlobal => exact (failsClean_setVariable context _ _ tail).thenNext
  | undefine => exact (failsClean_removeVariable tail).thenNext
  | action => exact (failsClean_act context tail).thenNext
  | «include» => exact (failsClean_includeFile tree context tail).thenNext
  | echo | warning => exact (failsClean_reportMessage context _ tail).thenNext
  | error => exact (failsClean_failWith context tail).thenNext
  | exit => exact (quiet_inspect _).bind fun _ => (sure_pure _).failsClean
  | exitIf | excludeIf => exact failsClean_decideFlow context tail _

/-! ## Lines -/

/-- A directive that is followed is reported first, and an unknown one fails. -/
theorem failsClean_followDirective (keyword : String) (tail : List Char) :
    FailsClean (followDirective tree context keyword tail) := by
  unfold followDirective
  cases Directive.withKeyword? keyword with
  | none =>
      exact (quiet_inspect _).bind fun _ => .ite (quiet_throw _).failsClean (sure_pure _).failsClean
  | some directive =>
      refine (quiet_inspect _).bind fun _ => .ite ?_ (sure_pure _).failsClean
      exact (quiet_modifySession fun session => .report session _ _ _).bind fun _ =>
        failsClean_perform tree context directive tail

theorem failsClean_writeOrSkip {action : InPlace Unit} (clean : FailsClean action) :
    FailsClean (writeOrSkip context action) :=
  (quiet_inspect _).bind fun _ => clean.ite (sure_modifySession _).failsClean

/-- **Every line fails clean.** -/
theorem failsClean_processLine (line : List Char) : FailsClean (processLine tree context line) := by
  unfold processLine
  cases LineForm.ofLine context.config.allowBlanks line with
  | directive keyword tail =>
      exact (quiet_modifySession fun session => .skip session _).bind fun _ =>
        failsClean_followDirective tree context keyword tail
  | uncomment indent text verbatim =>
      refine (failsClean_writeOrSkip context ?_).thenNext
      exact (quiet_inspect _).bind fun _ => (sure_modifySession _).failsClean
  | plain =>
      refine (failsClean_writeOrSkip context ?_).thenNext
      exact (quiet_inspect _).bind fun _ => (sure_modifySession _).failsClean

end InPlace

namespace Processing

variable {config : Config} {tree : FileTree}

/-- The reading of a line that fails disturbs nothing. -/
theorem undisturbed_of_readLine {session : Session} {file : OpenFile} {outer : List OpenFile}
    {line : List Char} {rest : List (List Char)} {last : Processing} {cause : RunError}
    (failed : readLine config tree session file outer line rest = .stop last (.failed cause)) :
    Undisturbed ⟨{ file with number := file.number + 1, rest := rest } :: outer, session⟩ last := by
  rw [readLine_eq] at failed
  dsimp only at failed
  split at failed
  · next cause after stopped =>
      cases failed
      exact InPlace.failsClean_processLine tree _ line _ cause last stopped
  all_goals cases failed

/-- A step that fails keeps the parts of the session. -/
theorem kept_of_advance {reached last : Processing} {cause : RunError}
    (failed : advance config tree reached = .stop last (.failed cause)) :
    reached.session.Kept last.session := by
  obtain ⟨files, session⟩ := reached
  cases files with
  | nil => cases failed
  | cons file outer =>
      obtain ⟨path, number, lines, base⟩ := file
      cases lines with
      | cons line rest => exact (undisturbed_of_readLine failed).session
      | nil =>
          cases transition_of_stop failed with
          | unclosed => exact .refl session

end Processing

/-! ## Whole texts -/

namespace Config

/-- **A failure changes nothing.**  Whatever the line and the state in front of it, processing a
line in place that fails disturbs nothing; so does the reading of a line that fails; and a text that
fails leaves behind the variables, providers, blocks and the reader of comments that the steps in
front of the failing one have led to. -/
theorem undisturbed_by_failure (config : Config) (tree : FileTree) :
    (∀ (location : Location) (base : Nat) (line : List Char) (before after : Processing)
        (cause : LineError),
      InPlace.processLine tree ⟨config, location, base⟩ line before = .error cause after →
        before.Undisturbed after) ∧
    (∀ (session : Session) (file : OpenFile) (outer : List OpenFile) (line : List Char)
        (rest : List (List Char)) (last : Processing) (cause : RunError),
      Processing.readLine config tree session file outer line rest = .stop last (.failed cause) →
        Processing.Undisturbed
          ⟨{ file with number := file.number + 1, rest := rest } :: outer, session⟩ last) ∧
    ∀ (globals : Layer) (providers : List Provider) (path text : String) (cause : RunError),
      (config.processText tree globals providers path text).outcome = .error cause →
        ∃ reached last : Processing,
          Processing.Reaches config tree (Processing.start globals providers path text) reached ∧
          reached.advance config tree = .stop last (.failed cause) ∧
          reached.session.Kept (config.processText tree globals providers path text).session := by
  refine ⟨fun location base line before after cause failed => ?_,
    fun session file outer line rest last cause failed => Processing.undisturbed_of_readLine failed,
    fun globals providers path text cause failed => ?_⟩
  · exact InPlace.failsClean_processLine tree _ line before cause after failed
  · obtain ⟨reached, last, reaches, stops, left⟩ := exists_step_of_error failed
    rw [left]
    exact ⟨reached, last, reaches, stops, Processing.kept_of_advance stops⟩

/-- A text whose second line fails on purpose: what its first line has defined is left behind. -/
theorem undisturbed_by_givenFailure :
    let start := Processing.start Layer.empty [] "a.txt" "//#define a\n//#error b"
    let cause := RunError.line ⟨"a.txt", 2, "//#error b"⟩ (.given "b")
    let result := processText {} (FileTree.empty []) Layer.empty [] "a.txt"
      "//#define a\n//#error b"
    result.outcome = .error cause ∧ result.session.locals.toList = [("a", .bool true)] ∧
      ∃ reached last : Processing,
        Processing.Reaches {} (FileTree.empty []) start reached ∧
        reached.advance {} (FileTree.empty []) = .stop last (.failed cause) ∧
        reached.session.Kept result.session := by
  intro start cause result
  have failed : result.outcome = .error cause := by
    unfold result cause
    cbv
  have left : result.session.locals.toList = [("a", .bool true)] := by
    unfold result
    cbv
  have unchanged := (undisturbed_by_failure {} (FileTree.empty [])).2.2
  exact ⟨failed, left, unchanged Layer.empty [] "a.txt" "//#define a\n//#error b" cause failed⟩

end Config

end CommentDirectives
