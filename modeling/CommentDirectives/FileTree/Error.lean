/-!
# What can go wrong with files

The causes for which a file or a folder cannot be read, written, made or removed,
in the words of the operating system.
-/

namespace CommentDirectives

set_option autoImplicit false

/-- Why something cannot be done with a file or a folder. -/
inductive FileError where
  /-- Nothing stands at the path. -/
  | notFound
  /-- A folder is needed where the path leads to a file. -/
  | notAFolder
  /-- A file is needed where the path leads to a folder. -/
  | isAFolder
  /-- A file stands where a folder is to be made. -/
  | alreadyExists
  /-- The bytes of a file are no text. -/
  | invalidText
  /-- A path cannot hold such a character. -/
  | invalidPath
  /-- A root of the sources does not exist. -/
  | missingRoot
  deriving DecidableEq, Repr

/-- The wording of a cause. -/
def FileError.message : FileError → String
  | .notFound => "No such file or directory (os error 2)"
  | .notAFolder => "Not a directory (os error 20)"
  | .isAFolder => "Is a directory (os error 21)"
  | .alreadyExists => "File exists (os error 17)"
  | .invalidText => "stream did not contain valid UTF-8"
  | .invalidPath => "file name contained an unexpected NUL byte"
  | .missingRoot => "source root not found"

end CommentDirectives
