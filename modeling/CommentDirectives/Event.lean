/-!
# Events

What a run reports while it works, in order: the texts that directives log, the
files and folders it comes to, and what it skips.
-/

namespace CommentDirectives

set_option autoImplicit false

/-- How much an event matters. -/
inductive Severity where
  | debug
  | info
  | warning
  deriving DecidableEq, Repr

/-- A report with named details. -/
structure Event where
  severity : Severity
  message : String
  details : List (String × String)
  deriving DecidableEq, Repr

end CommentDirectives
