import CommentDirectives.Line.Comments
import CommentDirectives.Line.Form
import CommentDirectives.Session.Directives

/-!
# Processing a line

A directive is followed if lines count or if it belongs to conditional blocks.  A
line to be uncommented loses its mark, a line of text loses its comments, both
where lines count.  Every line that gives no output is accounted for as skipped.
-/

namespace CommentDirectives.Session

set_option autoImplicit false

/-- Follows a directive, whose line itself gives no output. -/
def followDirective (session : Session) (context : LineContext) (keyword : String)
    (tail : List Char) : Outcome :=
  match Directive.withKeyword? keyword with
  | none =>
    (session, if session.isActive then .error (.unknownDirective keyword) else .ok .next)
  | some directive =>
    if session.isActive || directive.isConditional then
      (session.report .debug "directive"
        [("directive", directive.keyword), ("file", context.location.file),
          ("line", toString context.location.line)]).perform context directive tail
    else (session, .ok .next)

/-- Adds a line of text to the output, without its comments unless they are kept. -/
def writeText (session : Session) (context : LineContext) (text : List Char) : Session :=
  if context.config.keepComments then session.write text
  else
    let (kept, inBlock) := Comments.strip session.inBlock text
    let opened := if !session.inBlock && inBlock then some context.location
      else session.commentOpened
    let stripped := { session with inBlock := inBlock, commentOpened := opened }
    if (Text.trim kept).isEmpty && !(Text.trim text).isEmpty then stripped.skip context.config
    else stripped.write kept

/-- What stands for the mark of a line to be uncommented. -/
def markReplacement (config : Config) (verbatim : Bool) : List Char :=
  if config.preserveIndentation then List.replicate (LineForm.markLength verbatim) ' ' else []

/-- A line to be uncommented, without its mark. -/
def uncomment (session : Session) (context : LineContext) (indent text : List Char)
    (verbatim : Bool) : Except LineError Session :=
  (if verbatim then .ok text else session.substitute context text).map fun body =>
    session.write (indent ++ markReplacement context.config verbatim ++ body)

/-- Processes a line. -/
def processLine (session : Session) (context : LineContext) (line : List Char) : Outcome :=
  match LineForm.ofLine context.config.allowBlanks line with
  | .directive keyword tail =>
    (session.skip context.config).followDirective context keyword tail
  | .uncomment indent text verbatim =>
    if session.isActive then session.change (session.uncomment context indent text verbatim)
    else (session.skip context.config, .ok .next)
  | .plain =>
    if session.isActive then
      session.change
        ((session.substitute context line).map fun text => session.writeText context text)
    else (session.skip context.config, .ok .next)

end CommentDirectives.Session
