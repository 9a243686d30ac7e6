import CommentDirectives.Proofs.Processing.Transition
import CommentDirectives.Proofs.Session.Leniency

/-!
# Files that meet names without a value

A lenient configuration rescues files from failing for want of a value of a name, and changes
nothing else.  The reading of a file takes the same steps under both configurations up to a line at
which the strict one fails for that cause (`Processing.sameSteps`), so a file without such a line
has the same result under both; and a line that removes a name is never rescued, so a file that
fails at one has the same result as well (`Config.processText_lenient`).
-/

namespace CommentDirectives

set_option autoImplicit false

/-- A place whose line removes a name. -/
def Config.Removes (config : Config) (location : Location) : Prop :=
  ∃ tail, LineForm.ofLine config.allowBlanks location.text.toList =
    .directive Directive.undefine.keyword tail

namespace Processing

variable {config : Config} {tree : FileTree}

/-- An end at which the lenient configuration may go on: a line fails for want of a value of a name,
and it does not remove one. -/
inductive Rescued (config : Config) : Ending → Prop where
  | line (location : Location) {cause : LineError} : cause.IsUnresolved →
      ¬ config.Removes location → Rescued config (.failed (.line location cause))

/-- Two steps that are the same, unless the first stops where the lenient configuration may go
on. -/
inductive SameSteps (config : Config) : Step → Step → Prop where
  | same (step : Step) : SameSteps config step step
  | rescued (last : Processing) {ending : Ending} (step : Step) : Rescued config ending →
      SameSteps config (.stop last ending) step

/-- As long as the strict run goes on, the lenient one takes the same steps. -/
theorem SameSteps.abreast {step step' : Step} (steps : SameSteps config step step') :
    Abreast Eq (fun strict lenient => Rescued config strict.2 ∨ lenient = strict) step step' := by
  cases steps with
  | same => exact .same (fun _ => .inr rfl) _
  | rescued last _ rescued => exact .decided _ fun _ => .inl rescued

section Line

variable (session : Session) (file : OpenFile) (outer : List OpenFile) (line : List Char)
  (rest : List (List Char))

/-- A line that does the same leads to the same. -/
theorem readLine_lenient
    (outcome : session.processLine
        ⟨config.strict, lineLocation file.path file.number line, file.baseDepth⟩ line =
      session.processLine
        ⟨config.lenient, lineLocation file.path file.number line, file.baseDepth⟩ line) :
    readLine config.lenient tree session file outer line rest =
      readLine config.strict tree session file outer line rest := by
  rw [lineLocation] at outcome
  simp only [readLine, outcome]
  rfl

theorem sameSteps_readLine :
    SameSteps config (readLine config.strict tree session file outer line rest)
      (readLine config.lenient tree session file outer line rest) := by
  let location := lineLocation file.path file.number line
  let context : LineContext := ⟨config, location, file.baseDepth⟩
  have text : location.text.toList = line := String.toList_ofList
  -- a line that removes a name may fail for want of its value too, and is not rescued then
  by_cases removes : config.Removes location
  · obtain ⟨tail, form⟩ := removes
    rw [text] at form
    rw [readLine_lenient session file outer line rest
      (session.processLine_of_removal context form)]
    exact .same _
  · have turns := session.sameTurn_processLine context line
    obtain ⟨strict, ran⟩ : ∃ outcome, session.processLine context.strict line = outcome :=
      ⟨_, rfl⟩
    obtain ⟨lenient, ran'⟩ : ∃ outcome, session.processLine context.lenient line = outcome :=
      ⟨_, rfl⟩
    rw [ran, ran'] at turns
    cases turns with
    | same =>
        rw [readLine_lenient session file outer line rest (ran.trans ran'.symm)]
        exact .same _
    | unresolved after _ unresolved =>
        simp only [context, location, LineContext.strict, lineLocation] at ran
        simp only [readLine, ran]
        exact .rescued _ _ (.line _ unresolved removes)

end Line

/-- **A step under the strict configuration is the same under the lenient one**, unless it stops
where that one may go on. -/
theorem sameSteps (processing : Processing) :
    SameSteps config (processing.advance config.strict tree)
      (processing.advance config.lenient tree) := by
  obtain ⟨files, session⟩ := processing
  cases files with
  | nil => exact .same _
  | cons file outer =>
      cases left : file.rest with
      | nil =>
          simp only [advance, left]
          exact .same _
      | cons line rest =>
          simp only [advance, left]
          exact sameSteps_readLine session file outer line rest

/-- A run under the strict configuration is the same under the lenient one, unless it ends where
that one may go on. -/
theorem sameRun (config : Config) (tree : FileTree) (processing : Processing) :
    Rescued config (processing.run config.strict tree).2 ∨
      processing.run config.lenient tree = processing.run config.strict tree := by
  refine run_abreast Eq (fun strict lenient => Rescued config strict.2 ∨ lenient = strict)
    (fun left right _ start => ?_) rfl
  rw [← start]
  exact (sameSteps left).abreast

end Processing

/-- **A lenient configuration only rescues names without a value.**  A text that does not fail for
want of a value of a name under the strict configuration has the same result under the lenient one,
with all it leaves behind; and so has a text that fails for that cause at a line that removes a
name. -/
theorem Config.processText_lenient (config : Config) (tree : FileTree) (globals : Layer)
    (providers : List Provider) (path text : String) :
    ((∀ location name,
        (config.strict.processText tree globals providers path text).outcome ≠
          .error (.line location (.expression (.withoutValue (.unresolvedVariable name))))) →
      config.lenient.processText tree globals providers path text =
        config.strict.processText tree globals providers path text) ∧
    ∀ location name,
      (config.strict.processText tree globals providers path text).outcome =
          .error (.line location (.expression (.withoutValue (.unresolvedVariable name)))) →
        config.Removes location →
        config.lenient.processText tree globals providers path text =
          config.strict.processText tree globals providers path text := by
  rcases Processing.sameRun config tree (Processing.start globals providers path text) with
    rescued | same
  · generalize ended : (Processing.start globals providers path text).run config.strict tree = ran
      at rescued
    obtain ⟨last, ending⟩ := ran
    obtain ⟨location, ⟨name, rfl⟩, stays⟩ := rescued
    have failed : (config.strict.processText tree globals providers path text).outcome =
        .error (.line location (.expression (.withoutValue (.unresolvedVariable name)))) := by
      rw [processText, ended]
      rfl
    constructor
    · intro other
      exact absurd failed (other location name)
    · intro location' name' failed' removes
      have place : location = location' := by
        rw [failed] at failed'
        injection failed' with failed'
        injection failed'
      exact absurd (place ▸ removes) stays
  · have results : config.lenient.processText tree globals providers path text =
        config.strict.processText tree globals providers path text := by
      rw [processText, processText, same]
      rfl
    exact ⟨fun _ => results, fun _ _ _ _ => results⟩

/-- A text that uses a name with a value and asks whether another has one. -/
def knownNameText : String := "//#define size = 2\n//#ifndef debug\n/*$size$*/ bytes\n//#endif"

/-- A text that removes a name which has no value. -/
def removedNameText : String := "//#undef debug"

/-- Both texts have the same results under both configurations. -/
theorem Config.processText_lenient_knownName :
    (Config.processText (Config.lenient {}) (FileTree.empty []) Layer.empty [] "a.txt"
        knownNameText).outcome = .ok (.text "2 bytes\n") ∧
      (Config.processText (Config.lenient {}) (FileTree.empty []) Layer.empty [] "a.txt"
        removedNameText).outcome =
          .error (.line ⟨"a.txt", 1, "//#undef debug"⟩
            (.expression (.withoutValue (.unresolvedVariable "debug")))) := by
  have succeeds : (Config.processText (Config.strict {}) (FileTree.empty []) Layer.empty [] "a.txt"
      knownNameText).outcome = .ok (.text "2 bytes\n") := by cbv
  have fails : (Config.processText (Config.strict {}) (FileTree.empty []) Layer.empty [] "a.txt"
      removedNameText).outcome = .error (.line ⟨"a.txt", 1, "//#undef debug"⟩
        (.expression (.withoutValue (.unresolvedVariable "debug")))) := by cbv
  have removes : Config.Removes {} ⟨"a.txt", 1, "//#undef debug"⟩ := ⟨" debug".toList, by decide⟩
  have known := (Config.processText_lenient {} (FileTree.empty []) Layer.empty [] "a.txt"
    knownNameText).1 fun location name failed => by
      rw [succeeds] at failed
      cases failed
  have removed := (Config.processText_lenient {} (FileTree.empty []) Layer.empty [] "a.txt"
    removedNameText).2 _ _ fails removes
  rw [known, removed]
  exact ⟨succeeds, fails⟩

end CommentDirectives
