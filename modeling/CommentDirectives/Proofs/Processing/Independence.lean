import CommentDirectives.Proofs.Processing.Entries
import CommentDirectives.Proofs.Session.SharedVariables

/-!
# Files that are independent of each other

Of what a file leaves behind, the next one sees the layer of global variables and the providers.  A
file changes a global name only where a line of it, or of a file that it includes, follows a
directive that writes the name, and two files that keep to themselves can be processed in either
order (`Config.sources_independent`).

A file that keeps to itself never calls the extension.  So it has the same result whatever the
extension would have answered, and in particular an extension that remembers its calls tells nothing
from one file to the other.
-/

namespace CommentDirectives

set_option autoImplicit false

/-- A step changes no variables but by its line. -/
theorem Session.Continues.sameVariables {config : Config} {left after : Session}
    (continues : left.Continues config after) : after.SameVariables left := by
  cases continues with
  | same => exact ⟨rfl, rfl, rfl⟩
  | reported severity message details => exact sameVariables_report _ _ _ _
  | skipped nesting count => exact (sameVariables_skipLines _ config count).trans ⟨rfl, rfl, rfl⟩

namespace Processing

variable {config : Config} {tree : FileTree}

/-- In the reading of files from a state on, a directive is followed, in a session. -/
inductive Executes (config : Config) (tree : FileTree) (first : Processing) :
    Session → LineContext → Directive → List Char → Prop where
  | intro {reached : Processing} {context : LineContext} {line tail : List Char}
      {directive : Directive} (reaches : Reaches config tree first reached)
      (reads : reached.Reads config context line)
      (follows : reached.session.Follows context line directive tail) :
      Executes config tree first reached.session context directive tail

/-- What is followed behind a step is followed from the state in front of it on. -/
theorem Executes.of_proceed {processing next : Processing} {session : Session}
    {context : LineContext} {directive : Directive} {tail : List Char}
    (leads : advance config tree processing = .proceed next)
    (executes : Executes config tree next session context directive tail) :
    Executes config tree processing session context directive tail := by
  cases executes with
  | intro reaches reads follows => exact .intro (.head leads reaches) reads follows

/-! ## Steps -/

/-- A step changes the value of a global name only where a directive is followed that writes it. -/
theorem LeavesWith.writesGlobal {processing : Processing} {after : Session} {key : String}
    (leaves : processing.LeavesWith config after)
    (changed : after.globals.values.get? key ≠ processing.session.globals.values.get? key) :
    ∃ session context directive tail,
      Executes config tree processing session context directive tail ∧
        session.WritesGlobal context directive tail key := by
  cases leaves with
  | unread nothing same => exact absurd (by rw [same]) changed
  | read reads continues =>
      rw [continues.sameVariables.globals] at changed
      obtain ⟨directive, tail, follows, writes⟩ := Session.writesGlobal_of_processLine changed
      exact ⟨_, _, directive, tail, .intro .refl reads follows, writes⟩

/-- The reading of files from a state on follows no directive that has to do with what all files
share. -/
def KeepsApart (config : Config) (tree : FileTree) (first : Processing) : Prop :=
  ∀ session context directive tail, Executes config tree first session context directive tail →
    ¬ session.Shares context directive tail

/-- A step leaves alone what all files share. -/
theorem LeavesWith.shared {processing : Processing} {after : Session}
    (leaves : processing.LeavesWith config after) (apart : KeepsApart config tree processing) :
    after.globals = processing.session.globals ∧
      after.providers = processing.session.providers := by
  cases leaves with
  | unread nothing same => exact ⟨congrArg Session.globals same, congrArg Session.providers same⟩
  | read reads continues =>
      rw [continues.sameVariables.globals, continues.sameVariables.providers]
      exact Session.shared_of_processLine fun directive tail follows =>
        apart _ _ directive tail (.intro .refl reads follows)

/-- A step is the same with every extension. -/
theorem advance_withExtension {processing : Processing}
    (apart : KeepsApart config tree processing)
    (extension : Option (String → List Value → Bool)) :
    advance (config.withExtension extension) tree processing = advance config tree processing := by
  obtain ⟨files, session⟩ := processing
  cases files with
  | nil => rfl
  | cons file outer =>
      obtain ⟨path, number, lines, base⟩ := file
      cases lines with
      | nil => rfl
      | cons line rest =>
          have same := session.processLine_withExtension config (lineLocation path number line) base
            extension line fun tail follows =>
              apart _ _ _ tail (.intro .refl (.intro _ _ _ _ _ _ _) follows) (.action tail)
          rw [lineLocation] at same
          simp only [advance, readLine, same]
          rfl

/-! ## Runs -/

/-- **A run changes the value of a global name only where a directive is followed that writes it.** -/
theorem writesGlobal_of_run {processing : Processing} {key : String}
    (changed : (processing.run config tree).1.session.globals.values.get? key ≠
      processing.session.globals.values.get? key) :
    ∃ session context directive tail,
      Executes config tree processing session context directive tail ∧
        session.WritesGlobal context directive tail key := by
  induction processing using ofSteps config tree with
  | back processing ih =>
      have leaves := leavesWith_of_transition (transition config tree processing)
      cases taken : advance config tree processing with
      | stop last ending =>
          rw [run_of_stop taken] at changed
          rw [taken] at leaves
          exact leaves.writesGlobal changed
      | proceed next =>
          rw [run_of_proceed taken] at changed
          rw [taken] at leaves
          by_cases here : next.session.globals.values.get? key =
            processing.session.globals.values.get? key
          · rw [← here] at changed
            obtain ⟨session, context, directive, tail, executes, writes⟩ := ih next taken changed
            exact ⟨session, context, directive, tail, executes.of_proceed taken, writes⟩
          · exact leaves.writesGlobal here

/-- **A run that keeps apart leaves alone what all files share.** -/
theorem shared_of_run {processing : Processing} (apart : KeepsApart config tree processing) :
    (processing.run config tree).1.session.globals = processing.session.globals ∧
      (processing.run config tree).1.session.providers = processing.session.providers := by
  induction processing using ofSteps config tree with
  | back processing ih =>
      have kept := (leavesWith_of_transition (transition config tree processing)).shared apart
      cases taken : advance config tree processing with
      | stop last ending =>
          rw [taken] at kept
          rw [run_of_stop taken]
          exact kept
      | proceed next =>
          rw [taken] at kept
          obtain ⟨globals, providers⟩ := ih next taken fun session context directive tail executes =>
            apart session context directive tail (executes.of_proceed taken)
          rw [run_of_proceed taken, globals, providers]
          exact kept

/-- **A run that keeps apart is the same with every extension.** -/
theorem run_withExtension {processing : Processing} (apart : KeepsApart config tree processing)
    (extension : Option (String → List Value → Bool)) :
    processing.run (config.withExtension extension) tree = processing.run config tree := by
  refine run_congr processing fun reached reaches => advance_withExtension ?_ extension
  rintro session context directive tail ⟨onward, reads, follows⟩
  exact apart _ _ directive tail (.intro (reaches.trans onward) reads follows)

/-- A text keeps apart where all providers refuse changes and no line of it, or of a file in the
tree, has a directive for what all files share. -/
theorem keepsApart_of_lines {globals : Layer} {providers : List Provider} {path text : String}
    (readOnly : ∀ provider ∈ providers, provider.writable = false)
    (source : ∀ line ∈ Text.lines text.toList,
      (LineForm.ofLine config.allowBlanks line).isShared = false)
    (included : ∀ path text, tree.readText path = .ok text →
      ∀ line ∈ Text.lines text.toList, (LineForm.ofLine config.allowBlanks line).isShared = false) :
    KeepsApart config tree (start globals providers path text) := by
  rintro session context directive tail ⟨reaches, reads, follows⟩ shares
  have harmless := reads.holds source included reaches
  have kept := providers_of_reaches reaches readOnly
  have shared := shares.isShared (kept ▸ readOnly)
  cases reads with
  | intro =>
      rw [follows.isShared, shared] at harmless
      cases harmless

end Processing

/-! ## Files -/

/-- What is processed: a text that is given as the contents of the file at a path, or the file that
is stored at a path. -/
inductive Source where
  | given (path content : String)
  | stored (path : String)

namespace Source

/-- Processes a source. -/
def process (config : Config) (tree : FileTree) (globals : Layer) (providers : List Provider) :
    Source → FileResult
  | .given path content => config.processText tree globals providers path content
  | .stored path => config.processFile tree globals providers path

/-- The state in front of the first line of a source, unless that is a file that cannot be read. -/
def start? (tree : FileTree) (globals : Layer) (providers : List Provider) :
    Source → Option Processing
  | .given path content => some (.start globals providers path content)
  | .stored path =>
    match tree.readText path with
    | .error _ => none
    | .ok content => some (.start globals providers path content)

/-- Where a source is processed, a directive is followed, in a session. -/
def Executes (config : Config) (tree : FileTree) (globals : Layer) (providers : List Provider)
    (source : Source) (session : Session) (context : LineContext) (directive : Directive)
    (tail : List Char) : Prop :=
  ∃ first, source.start? tree globals providers = some first ∧
    Processing.Executes config tree first session context directive tail

/-- A source keeps to itself: where it is processed, no directive is followed that changes a global
name, gives a value to a name that a provider owns, or calls the extension. -/
def KeepsToItself (config : Config) (tree : FileTree) (globals : Layer)
    (providers : List Provider) (source : Source) : Prop :=
  ∀ session context directive tail,
    source.Executes config tree globals providers session context directive tail →
      ¬ session.Shares context directive tail

/-- A source that cannot be read leaves everything as it is, and any other one is read from its
first line on. -/
theorem process_cases (tree : FileTree) (globals : Layer) (providers : List Provider)
    (source : Source) :
    (∃ cause : RunError, source.start? tree globals providers = none ∧
      ∀ config, source.process config tree globals providers =
        ⟨.error cause, { globals := globals, providers := providers }⟩) ∨
    ∃ path content,
      source.start? tree globals providers = some (.start globals providers path content) ∧
      ∀ config, source.process config tree globals providers =
        config.processText tree globals providers path content := by
  cases source with
  | given path content => exact .inr ⟨path, content, rfl, fun _ => rfl⟩
  | stored path =>
      simp only [start?, process, Config.processFile]
      cases tree.readText path with
      | error cause => exact .inl ⟨.file path cause, rfl, fun _ => rfl⟩
      | ok content => exact .inr ⟨path, content, rfl, fun _ => rfl⟩

end Source

/-- What a text leaves behind for other files is what its run leaves behind. -/
theorem Config.sameVariables_processText (config : Config) (tree : FileTree) (globals : Layer)
    (providers : List Provider) (path text : String) :
    (config.processText tree globals providers path text).session.SameVariables
      ((Processing.start globals providers path text).run config tree).1.session := by
  rw [processText_eq]
  cases ((Processing.start globals providers path text).run config tree).2 with
  | complete =>
      rw [FileResult.ofEnding, FileResult.reportOpenComment]
      split
      · split
        · exact Session.sameVariables_report _ _ _ _
        · exact ⟨rfl, rfl, rfl⟩
      · exact ⟨rfl, rfl, rfl⟩
  | excluded | failed cause => exact ⟨rfl, rfl, rfl⟩

namespace Source

variable {config : Config} {tree : FileTree} {globals : Layer} {providers : List Provider}
  {source : Source}

/-- A source changes the value of a global name only where a directive is followed that writes it. -/
theorem writesGlobal_of_process {key : String}
    (changed : (source.process config tree globals providers).session.globals.values.get? key ≠
      globals.values.get? key) :
    ∃ session context directive tail,
      source.Executes config tree globals providers session context directive tail ∧
        session.WritesGlobal context directive tail key := by
  rcases source.process_cases tree globals providers with
    ⟨cause, _, result⟩ | ⟨path, content, starts, result⟩
  · rw [result] at changed
    exact absurd rfl changed
  · rw [result, (config.sameVariables_processText tree globals providers path content).globals]
      at changed
    obtain ⟨session, context, directive, tail, executes, writes⟩ :=
      Processing.writesGlobal_of_run changed
    exact ⟨session, context, directive, tail, ⟨_, starts, executes⟩, writes⟩

/-- A source that keeps to itself leaves alone what all files share, and has the same result with
every extension. -/
theorem process_of_keepsToItself
    (apart : source.KeepsToItself config tree globals providers)
    (extension : Option (String → List Value → Bool)) :
    source.process (config.withExtension extension) tree globals providers =
        source.process config tree globals providers ∧
      (source.process config tree globals providers).session.globals = globals ∧
      (source.process config tree globals providers).session.providers = providers := by
  rcases source.process_cases tree globals providers with
    ⟨cause, _, result⟩ | ⟨path, content, starts, result⟩
  · rw [result, result]
    exact ⟨rfl, rfl, rfl⟩
  · have keeps : Processing.KeepsApart config tree (.start globals providers path content) :=
      fun session context directive tail executes =>
        apart session context directive tail ⟨_, starts, executes⟩
    have same := config.sameVariables_processText tree globals providers path content
    obtain ⟨sameGlobals, sameProviders⟩ := Processing.shared_of_run keeps
    rw [result, result, same.globals, same.providers, sameGlobals, sameProviders,
      Config.processText_eq, Config.processText_eq, Processing.run_withExtension keeps]
    exact ⟨rfl, rfl, rfl⟩

end Source

/-- A text that is given keeps to itself where all providers refuse changes and no line of it, or of a
file in the tree, has a directive for what all files share. -/
theorem Source.keepsToItself_of_lines {config : Config} {tree : FileTree} {globals : Layer}
    {providers : List Provider} {path content : String}
    (readOnly : ∀ provider ∈ providers, provider.writable = false)
    (source : ∀ line ∈ Text.lines content.toList,
      (LineForm.ofLine config.allowBlanks line).isShared = false)
    (included : ∀ path text, tree.readText path = .ok text →
      ∀ line ∈ Text.lines text.toList, (LineForm.ofLine config.allowBlanks line).isShared = false) :
    (Source.given path content).KeepsToItself config tree globals providers := by
  rintro session context directive tail ⟨first, starts, executes⟩
  obtain rfl := Option.some.inj starts
  exact Processing.keepsApart_of_lines readOnly source included session context directive tail
    executes

/-- **What files leave behind for each other.**  Where a file is processed, a global name has another
value behind it only if a directive was followed, in the file or in one that it includes, that gave
the name a value for all files or removed it for all files.  So two files that keep to themselves,
processed one after the other in either order, have the same results, whatever an extension would
answer at any time, and everything that files share is as it was at first. -/
theorem Config.sources_independent (config : Config) (tree : FileTree) (globals : Layer)
    (providers : List Provider) :
    (∀ (source : Source) (key : String),
      (source.process config tree globals providers).session.globals.values.get? key ≠
        globals.values.get? key →
      ∃ session context directive tail,
        source.Executes config tree globals providers session context directive tail ∧
          session.WritesGlobal context directive tail key) ∧
    ∀ left right : Source, left.KeepsToItself config tree globals providers →
      right.KeepsToItself config tree globals providers →
      ∀ early late early' late' : Option (String → List Value → Bool),
      let first := left.process (config.withExtension early) tree globals providers
      let second := right.process (config.withExtension late) tree first.session.globals
        first.session.providers
      let first' := right.process (config.withExtension early') tree globals providers
      let second' := left.process (config.withExtension late') tree first'.session.globals
        first'.session.providers
      second' = first ∧ second = first' ∧
        (second.session.globals = globals ∧ second.session.providers = providers) ∧
        second'.session.globals = globals ∧ second'.session.providers = providers := by
  refine ⟨fun source key changed => Source.writesGlobal_of_process changed, ?_⟩
  intro left right leftApart rightApart early late early' late' first second first' second'
  have alone (extension : Option (String → List Value → Bool)) :=
    Source.process_of_keepsToItself leftApart extension
  have alone' (extension : Option (String → List Value → Bool)) :=
    Source.process_of_keepsToItself rightApart extension
  -- each source has the one result that it has from the given variables
  have one : first = left.process config tree globals providers := (alone early).1
  have one' : first' = right.process config tree globals providers := (alone' early').1
  have two : second = right.process config tree globals providers := by
    unfold second
    rw [one, (alone early).2.1, (alone early).2.2, (alone' late).1]
  have two' : second' = left.process config tree globals providers := by
    unfold second'
    rw [one', (alone' early').2.1, (alone' early').2.2, (alone late').1]
  rw [one, one', two, two']
  exact ⟨rfl, rfl, (alone' late).2, (alone late').2⟩

/-- A text that gives a variable of its own a value. -/
def definingText : String := "//#define x = 1\n/*$x$*/\n"

/-- A text that asks for that variable. -/
def askingText : String := "//#ifdef x\nknown\n//#else\nunknown\n//#endif\n"

/-- In either order, the first text has its variable and the second one does not see it. -/
theorem Config.sources_independent_askingText :
    let config : Config := {}
    let tree := FileTree.empty []
    let left := Source.given "a.txt" definingText
    let right := Source.given "b.txt" askingText
    let first := left.process config tree Layer.empty []
    let second := right.process config tree first.session.globals first.session.providers
    let first' := right.process config tree Layer.empty []
    let second' := left.process config tree first'.session.globals first'.session.providers
    left.KeepsToItself config tree Layer.empty [] ∧
      right.KeepsToItself config tree Layer.empty [] ∧
      first.outcome = .ok (.text "1\n") ∧ first'.outcome = .ok (.text "unknown\n") ∧
      second' = first ∧ second = first' := by
  intro config tree left right first second first' second'
  have included : ∀ path text, tree.readText path = .ok text →
      ∀ line ∈ Text.lines text.toList,
        (LineForm.ofLine config.allowBlanks line).isShared = false := by
    intro path text read line inside
    rw [FileTree.lines_of_empty read] at inside
    cases inside
  have leftAlone : left.KeepsToItself config tree Layer.empty [] :=
    Source.keepsToItself_of_lines nofun (by decide) included
  have rightAlone : right.KeepsToItself config tree Layer.empty [] :=
    Source.keepsToItself_of_lines nofun (by decide) included
  have ended : first.outcome = .ok (.text "1\n") := by
    unfold first left config tree
    cbv
  have ended' : first'.outcome = .ok (.text "unknown\n") := by
    unfold first' right config tree
    cbv
  have independent := (sources_independent config tree Layer.empty []).2 left right leftAlone
    rightAlone none none none none
  exact ⟨leftAlone, rightAlone, ended, ended', independent.1, independent.2.1⟩

end CommentDirectives
