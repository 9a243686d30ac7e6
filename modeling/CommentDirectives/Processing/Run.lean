import CommentDirectives.Processing.Rank

/-!
# Processing a file

A file is processed by single steps until one of them ends it.  If all lines were
read, the lines of the output are put together; if a directive excluded the file,
there is no output.
-/

namespace CommentDirectives

set_option autoImplicit false

namespace Processing

/-- A step, with the reason why what it leads on to leaves less to read. -/
def step (config : Config) (tree : FileTree) (processing : Processing) :
    { step : Step // ∀ next, step = .proceed next → Before next processing } :=
  ⟨advance config tree processing, fun _ leads => before_of_advance leads⟩

/-- The state in which the reading of files ends, and how it ends. -/
def run (config : Config) (tree : FileTree) (processing : Processing) : Processing × Ending :=
  match step config tree processing with
  | ⟨.stop last ending, _⟩ => (last, ending)
  | ⟨.proceed next, _less⟩ => run config tree next
termination_by processing.rank
decreasing_by exact _less next rfl

/-- A run is a step and, unless that ends it, the run of what the step leads on to. -/
theorem run_eq (config : Config) (tree : FileTree) (processing : Processing) :
    run config tree processing =
      match advance config tree processing with
      | .stop last ending => (last, ending)
      | .proceed next => run config tree next := by
  rw [run, step]
  split <;> simp_all

/-- The state before the first line of a file. -/
def start (globals : Layer) (providers : List Provider) (path text : String) : Processing :=
  ⟨[OpenFile.ofText path text 0], { globals := globals, providers := providers }⟩

end Processing

/-- What processing a file gives. -/
inductive FileOutput where
  | text (text : String)
  /-- A directive excludes the file. -/
  | excluded
  deriving DecidableEq, Repr

/-- What processing a file gives or why it fails, and the state it leaves behind. -/
structure FileResult where
  outcome : Except RunError FileOutput
  session : Session

namespace FileResult

/-- Whether a file has a last line without a terminator. -/
def lacksLastTerminator (text : String) : Bool :=
  !text.isEmpty && !Text.endsWithLineFeed text.toList

/-- The text of some lines, with a terminator behind each, but for the last one where the source
has none there and the configuration cares for that. -/
def render (config : Config) (source : String) (lines : List (List Char)) : String :=
  let terminator := config.terminator.toList
  let joined := terminator.intercalate lines
  let complete := lines.isEmpty || (config.careForLastTerminator && lacksLastTerminator source)
  String.ofList (if complete then joined else joined ++ terminator)

/-- Reports a block comment that is open at the end of a file. -/
def reportOpenComment (session : Session) : Session :=
  match session.commentOpened with
  | some opened =>
    if session.inBlock then
      session.report .warning "block comment never closed, text after it was dropped"
        [("location", opened.shown)]
    else session
  | none => session

/-- The result of a file whose reading has ended. -/
def ofEnding (config : Config) (source : String) (session : Session) : Ending → FileResult
  | .complete =>
    ⟨.ok (.text (render config source session.output.toList)), reportOpenComment session⟩
  | .excluded => ⟨.ok .excluded, session⟩
  | .failed cause => ⟨.error cause, session⟩

end FileResult

namespace Config

/-- Processes a text as the contents of the file at a path. -/
def processText (config : Config) (tree : FileTree) (globals : Layer) (providers : List Provider)
    (path text : String) : FileResult :=
  let (last, ending) := (Processing.start globals providers path text).run config tree
  FileResult.ofEnding config text last.session ending

/-- Processes the file at a path. -/
def processFile (config : Config) (tree : FileTree) (globals : Layer) (providers : List Provider)
    (path : String) : FileResult :=
  match tree.readText path with
  | .error cause => ⟨.error (.file path cause), { globals := globals, providers := providers }⟩
  | .ok text => config.processText tree globals providers path text

/-- Processes a text that stands alone: the result, and what was reported.  A text that a directive
excludes gives an empty one. -/
def preprocess (config : Config) (tree : FileTree) (text : String) :
    Except RunError String × Array Event :=
  match config.loadGlobals tree with
  | .error cause => (.error cause, #[])
  | .ok globals =>
    let result := config.processText tree globals config.providers "<input>" text
    let output := result.outcome.map fun
      | .text text => text
      | .excluded => ""
    (output, result.session.events)

end Config

end CommentDirectives
