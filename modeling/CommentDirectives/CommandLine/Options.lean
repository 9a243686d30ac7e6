/-!
# Options of the command line

Arguments are sources, but for those that start with a hyphen.  An option with a
long name takes its value behind an equality sign or from the next argument; an
option with a letter takes it from the rest of its argument or from the next one,
and letters of options without a value may stand together.  A value in an argument
of its own does not look like an option.  Behind two hyphens alone all arguments
are sources.
-/

namespace CommentDirectives

set_option autoImplicit false

/-- Options without a value. -/
inductive Switch where
  | environment
  | keepComments
  | keepLines
  | verbose
  | dryRun
  | clear
  | careForLastTerminator
  | allowBlanks
  | preserveIndentation
  | keepMode
  | unknownAsFalse
  | skipUnchanged
  | ignoreMissing
  | reference
  deriving DecidableEq, Repr

/-- Options with a value. -/
inductive Parameter where
  | destination
  | define
  | settingsFile
  | extensions
  | excludedExtensions
  | excludedFolder
  | sourceEncoding
  | destinationEncoding
  | terminator
  deriving DecidableEq, Repr

/-- An option of the command line. -/
inductive CommandOption where
  | switch (switch : Switch)
  | parameter (parameter : Parameter)
  deriving DecidableEq, Repr

namespace CommandOption

/-- The options with a long name. -/
def longNames : List (String × CommandOption) :=
  [("destination", .parameter .destination), ("config", .parameter .settingsFile),
    ("env", .switch .environment), ("extensions", .parameter .extensions),
    ("excluded-extensions", .parameter .excludedExtensions),
    ("exclude-folder", .parameter .excludedFolder),
    ("source-encoding", .parameter .sourceEncoding),
    ("destination-encoding", .parameter .destinationEncoding), ("eol", .parameter .terminator),
    ("keep-comments", .switch .keepComments), ("keep-lines", .switch .keepLines),
    ("verbose", .switch .verbose), ("dry-run", .switch .dryRun), ("clear", .switch .clear),
    ("care-for-trailing-eol", .switch .careForLastTerminator),
    ("allow-whitespace", .switch .allowBlanks),
    ("preserve-indent", .switch .preserveIndentation), ("keep-attributes", .switch .keepMode),
    ("unknown-as-false", .switch .unknownAsFalse), ("skip-unchanged", .switch .skipUnchanged),
    ("ignore-missing", .switch .ignoreMissing), ("reference", .switch .reference)]

/-- The options with a letter. -/
def letters : List (Char × CommandOption) :=
  [('d', .parameter .destination), ('D', .parameter .define), ('c', .parameter .settingsFile),
    ('v', .switch .verbose)]

end CommandOption

/-- A part of the command line. -/
inductive CommandItem where
  | source (path : String)
  | given (switch : Switch)
  | valued (parameter : Parameter) (value : String)
  deriving DecidableEq, Repr

namespace CommandItem

/-- What an argument gives: some parts, and perhaps an option that lacks its value. -/
abbrev Reading := List CommandItem × Option Parameter

/-- The text behind an equality sign in front. -/
def withoutEquality : List Char → List Char
  | '=' :: value => value
  | value => value

/-- Reads the letters behind a hyphen. -/
def readLetters : List Char → Option Reading
  | [] => some ([], none)
  | letter :: rest =>
    match CommandOption.letters.lookup letter with
    | none => none
    | some (.switch switch) =>
      (readLetters rest).map fun (items, lacking) => (.given switch :: items, lacking)
    | some (.parameter parameter) =>
      if rest.isEmpty then some ([], some parameter)
      else some ([.valued parameter (String.ofList (withoutEquality rest))], none)

/-- Reads the long name behind two hyphens, with its value if that is in the same argument. -/
def readLongName (text : List Char) : Option Reading :=
  let name := text.takeWhile (· != '=')
  match CommandOption.longNames.lookup (String.ofList name), text.drop name.length with
  | none, _ => none
  | some (.switch switch), [] => some ([.given switch], none)
  | some (.switch _), _ :: _ => none
  | some (.parameter parameter), [] => some ([], some parameter)
  | some (.parameter parameter), _ :: value =>
    some ([.valued parameter (String.ofList value)], none)

/-- Whether an argument looks like an option. -/
def looksLikeOption (argument : String) : Bool :=
  match argument.toList with
  | '-' :: _ :: _ => true
  | _ => false

/-- Reads an argument. -/
def readArgument (argument : String) : Option Reading :=
  match argument.toList with
  | '-' :: '-' :: text => readLongName text
  | '-' :: letter :: rest => readLetters (letter :: rest)
  | _ => some ([.source argument], none)

/-- The parts of a command line; empty where an option is unknown or lacks its value. -/
def readAll : List String → Option (List CommandItem)
  | [] => some []
  | argument :: rest =>
    if argument = "--" then some (rest.map .source)
    else
      match readArgument argument with
      | none => none
      | some (items, none) => (readAll rest).map (items ++ ·)
      | some (items, some parameter) =>
        match rest with
        | [] => none
        | value :: rest =>
          if looksLikeOption value then none
          else (readAll rest).map (items ++ .valued parameter value :: ·)

end CommandItem

end CommentDirectives
