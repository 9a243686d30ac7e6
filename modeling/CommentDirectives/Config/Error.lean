import CommentDirectives.FolderPattern

/-!
# What can be wrong with a configuration

Settings that are refused before a run, and lines of files with settings that
cannot be read.
-/

namespace CommentDirectives

set_option autoImplicit false

/-- What an encoding is meant for. -/
inductive EncodingUse where
  | source
  | destination
  deriving DecidableEq, Repr

/-- The wording of a use. -/
def EncodingUse.message : EncodingUse → String
  | .source => "source"
  | .destination => "destination"

/-- What is wrong with a line of settings. -/
inductive SettingProblem where
  /-- The line has no equality sign. -/
  | noEqualitySign (line : String)
  | invalidName (name : String)
  deriving DecidableEq, Repr

/-- The wording of what is wrong with a line of settings. -/
def SettingProblem.message : SettingProblem → String
  | .noEqualitySign line => "expected 'name=value', found '" ++ line ++ "'"
  | .invalidName name => "'" ++ name ++ "' is not a valid variable name"

/-- What is wrong with a configuration. -/
inductive ConfigError where
  | encoding (use : EncodingUse) (label : String)
  | emptyTerminator
  | pattern (text : String) (cause : PatternError)
  | invalidName (name : String)
  /-- A line of a file with settings, counted from one. -/
  | setting (file : String) (line : Nat) (cause : SettingProblem)
  deriving DecidableEq, Repr

/-- The wording of what is wrong with a configuration. -/
def ConfigError.message : ConfigError → String
  | .encoding use label =>
    "unsupported " ++ use.message ++ " encoding '" ++ label ++ "', only UTF-8 is supported"
  | .emptyTerminator => "the line terminator must not be empty"
  | .pattern text cause => "invalid folder pattern '" ++ text ++ "': " ++ cause.message
  | .invalidName name => (SettingProblem.invalidName name).message
  | .setting file line cause => file ++ ":" ++ toString line ++ ": " ++ cause.message

end CommentDirectives
