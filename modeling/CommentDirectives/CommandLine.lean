import CommentDirectives.Build
import CommentDirectives.CommandLine.Options
import CommentDirectives.CommandLine.Reference

/-!
# The command line

The arguments of the program give the settings of a run.  A command line that
cannot be understood ends with the code 2 and prints nothing; a run that fails, or
passes over files that fail, ends with the code 1 and prints why.
-/

namespace CommentDirectives

set_option autoImplicit false

/-- What the arguments of the program ask for. -/
structure CommandLine where
  sources : List String
  switches : List Switch
  parameters : List (Parameter × String)
  /-- The variables that are given a value. -/
  definitions : List (String × Value)

/-- What the program leaves behind. -/
structure CommandResult where
  exitCode : Nat
  /-- The lines that are printed. -/
  lines : List String
  tree : FileTree

namespace CommandLine

/-! ## Reading arguments -/

/-- The variable that a text defines; without an equality sign its value is true. -/
def definition? (text : String) : Option (String × Value) :=
  match Directive.splitEquality text.toList with
  | some (name, value) =>
    some (String.ofList (Text.trim name), Value.recognize (String.ofList (Text.trim value)))
  | none =>
    let name := Text.trim text.toList
    if name.isEmpty then none else some (String.ofList name, .bool true)

/-- Whether an option can be given at most once. -/
def isSingle : Parameter → Bool
  | .destination | .sourceEncoding | .destinationEncoding | .terminator => true
  | _ => false

/-- Whether the value of an option is a path. -/
def isPath : Parameter → Bool
  | .destination | .settingsFile => true
  | _ => false

/-- Whether options are given no more often than they can be, paths are not empty, and there is
something to do. -/
def isUsable (line : CommandLine) : Bool :=
  decide line.switches.Nodup && decide ((line.parameters.map Prod.fst).filter isSingle).Nodup &&
    line.parameters.all (fun (parameter, value) => !(isPath parameter && value.isEmpty)) &&
    line.sources.all (fun path => !path.isEmpty) &&
    (!line.sources.isEmpty || line.switches.contains .reference)

/-- The parts of a command line, put together. -/
def ofItems? (items : List CommandItem) : Option CommandLine :=
  let parameters := items.filterMap fun
    | .valued parameter value => some (parameter, value)
    | _ => none
  let defined := parameters.filterMap fun (parameter, value) =>
    if parameter = .define then some value else none
  match defined.mapM definition? with
  | none => none
  | some definitions =>
    let line : CommandLine :=
      { sources := items.filterMap fun
          | .source path => some path
          | _ => none
        switches := items.filterMap fun
          | .given switch => some switch
          | _ => none
        parameters := parameters
        definitions := definitions }
    if line.isUsable then some line else none

/-- The command line of some arguments, if they can be understood. -/
def ofArguments? (arguments : List String) : Option CommandLine :=
  (CommandItem.readAll arguments).bind ofItems?

/-! ## Settings -/

/-- The values of an option, in their order. -/
def values (line : CommandLine) (parameter : Parameter) : List String :=
  line.parameters.filterMap fun (given, value) => if given = parameter then some value else none

/-- The value of an option that is given at most once. -/
def value (line : CommandLine) (parameter : Parameter) (default : String) : String :=
  (line.values parameter).headD default

/-- The pieces of a text between commas. -/
def splitCommas : List Char → List (List Char)
  | [] => [[]]
  | character :: rest =>
    if character = ',' then [] :: splitCommas rest
    else
      match splitCommas rest with
      | [] => [[character]]
      | piece :: pieces => (character :: piece) :: pieces

/-- The members of an option's lists, if it is given. -/
def members (line : CommandLine) (parameter : Parameter) (default : List String) : List String :=
  match line.values parameter with
  | [] => default
  | lists => lists.flatMap fun list => (splitCommas list.toList).map String.ofList

/-- The settings that a command line gives, in an environment; empty where the line terminator has
an unknown escape. -/
def config? (line : CommandLine) (environment : List (String × String)) : Option Config :=
  let plain : Config := {}
  let given (switch : Switch) : Bool := line.switches.contains switch
  (Token.unescaped? (line.value .terminator "\\n")).map fun terminator =>
    { sources := line.sources
      destination := line.value .destination plain.destination
      sourceEncoding := line.value .sourceEncoding plain.sourceEncoding
      destinationEncoding := line.value .destinationEncoding plain.destinationEncoding
      terminator := terminator
      extensions := line.members .extensions plain.extensions
      excludedExtensions := line.members .excludedExtensions plain.excludedExtensions
      excludedFolders := line.values .excludedFolder
      settingsFiles := line.values .settingsFile
      globals := line.definitions
      keepComments := given .keepComments
      keepLines := given .keepLines
      verbose := given .verbose
      dryRun := given .dryRun
      clearDestination := given .clear
      careForLastTerminator := given .careForLastTerminator
      allowBlanks := given .allowBlanks
      preserveIndentation := given .preserveIndentation
      keepMode := given .keepMode
      unknownAsFalse := given .unknownAsFalse
      skipUnchanged := given .skipUnchanged
      ignoreMissing := given .ignoreMissing
      providers := if given .environment then [Provider.environment environment] else []
      extension := none }

/-! ## Running -/

/-- Runs with some settings. -/
def build (config : Config) (tree : FileTree) : CommandResult :=
  match Build.new config tree with
  | .error cause => ⟨1, [cause.message], tree⟩
  | .ok build =>
    match build.run tree with
    | (state, .error cause) => ⟨1, [cause.message], state.tree⟩
    | (state, .ok summary) =>
      if summary.failed = 0 then ⟨0, [], state.tree⟩
      else ⟨1, ["some files failed failed=" ++ toString summary.failed], state.tree⟩

/-- Does what a command line asks for. -/
def execute (line : CommandLine) (environment : List (String × String)) (tree : FileTree) :
    CommandResult :=
  if line.switches.contains .reference then ⟨0, Reference.lines, tree⟩
  else
    match line.config? environment with
    | none =>
      let terminator := line.value .terminator "\\n"
      ⟨1, ["invalid escape in line terminator '" ++ terminator ++ "'"], tree⟩
    | some config => build config tree

/-- The program: from its arguments, its environment and the files to what it leaves behind. -/
def run (arguments : List String) (environment : List (String × String)) (tree : FileTree) :
    CommandResult :=
  match ofArguments? arguments with
  | none => ⟨2, [], tree⟩
  | some line => line.execute environment tree

end CommandLine

end CommentDirectives
