import CommentDirectives.Config.Error
import CommentDirectives.Directive.Argument
import CommentDirectives.Text.Lines
import CommentDirectives.Value.Recognition

/-!
# Files with settings

A file with settings gives one variable a value on each line, behind an equality
sign.  Blank lines and lines that start with `#` are passed over.
-/

namespace CommentDirectives.SettingsFile

set_option autoImplicit false

/-- The setting on a line, if it has one. -/
def setting? (line : List Char) : Except SettingProblem (Option (String × Value)) :=
  match Text.trim line with
  | [] => .ok none
  | '#' :: _ => .ok none
  | text =>
    match Directive.splitEquality text with
    | none => .error (.noEqualitySign (String.ofList text))
    | some (before, behind) =>
      let name := Text.trim before
      if Name.areValid name then
        .ok (some (String.ofList name, Value.recognize (String.ofList (Text.trim behind))))
      else .error (.invalidName (String.ofList name))

/-- The settings on some lines of a file, of which the first has a given number. -/
def readLines (file : String) (number : Nat) :
    List (List Char) → Except ConfigError (List (String × Value))
  | [] => .ok []
  | line :: rest =>
    match setting? line with
    | .error cause => .error (.setting file number cause)
    | .ok found =>
      match readLines file (number + 1) rest with
      | .error failure => .error failure
      | .ok settings => .ok (found.toList ++ settings)

/-- The settings in the text of a file, in their order. -/
def read (file text : String) : Except ConfigError (List (String × Value)) :=
  readLines file 1 (Text.lines text.toList)

end CommentDirectives.SettingsFile
