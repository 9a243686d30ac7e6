import CommentDirectives.Config.Error
import CommentDirectives.Directive.Argument
import CommentDirectives.Evaluation
import CommentDirectives.FileTree.Error
import CommentDirectives.Nesting

/-!
# Why a run fails

The causes for which a file cannot be processed, most of them at a line of a file,
and the causes for which a run cannot start or go on.
-/

namespace CommentDirectives

set_option autoImplicit false

/-- The deepest chain of files that include each other. -/
def includeLimit : Nat := 64

/-- What is wrong with the conditional blocks of a file. -/
inductive Imbalance where
  /-- The open blocks do not admit a directive. -/
  | refused (cause : NestingError)
  /-- A block is open at the end of its file. -/
  | unclosed
  deriving DecidableEq, Repr

/-- The wording of an imbalance. -/
def Imbalance.message : Imbalance → String
  | .refused cause => cause.message
  | .unclosed => "#if without matching #endif"

/-- Why a line of a file cannot be processed. -/
inductive LineError where
  | expression (cause : ExpressionError)
  | unbalanced (cause : Imbalance)
  | unknownDirective (keyword : String)
  | malformed (cause : Malformation)
  /-- The extension rejects an action with so many arguments. -/
  | rejectedAction (count : Nat)
  /-- A directive fails the file with a text. -/
  | given (text : String)
  /-- Too many files include each other. -/
  | includeDepth
  /-- A file cannot be included. -/
  | include (path : String) (cause : FileError)
  deriving DecidableEq

/-- The wording of the cause, without the line. -/
def LineError.message : LineError → String
  | .expression cause => cause.message
  | .unbalanced cause => "Unbalanced directive: " ++ cause.message ++ "."
  | .unknownDirective keyword => "Unknown directive '#" ++ keyword ++ "'."
  | .malformed cause => "Malformed directive: " ++ cause.message ++ "."
  | .rejectedAction count =>
    "Extension failure: action with " ++ toString count ++ " argument(s) was rejected."
  | .given text => text
  | .includeDepth => "Includes nested deeper than " ++ toString includeLimit ++ " levels."
  | .include path cause => "Cannot include '" ++ path ++ "': " ++ cause.message

/-- Why a run, or a file of it, fails. -/
inductive RunError where
  /-- A line of a file cannot be processed. -/
  | line (location : Location) (cause : LineError)
  /-- A file or a folder cannot be read, written, made or removed. -/
  | file (path : String) (cause : FileError)
  /-- The settings are refused. -/
  | config (cause : ConfigError)
  deriving DecidableEq

/-- The wording of a failure. -/
def RunError.message : RunError → String
  | .line location cause => location.shown ++ ": " ++ cause.message
  | .file path cause => "I/O error on '" ++ path ++ "': " ++ cause.message
  | .config cause => "Configuration error: " ++ cause.message ++ "."

/-- The place that a failure speaks of. -/
def RunError.location? : RunError → Option Location
  | .line location _ => some location
  | _ => none

end CommentDirectives
