/-!
# Directives

The words that a comment can start with behind its `#`: what argument each takes,
whether it belongs to conditional blocks, and what it does.  Conditional
directives are followed also in text that is left out, because blocks have to be
matched there too.
-/

namespace CommentDirectives

set_option autoImplicit false

/-- What a directive takes behind its keyword. -/
inductive ArgumentShape where
  | nothing
  | expression
  | expressions
  | tail
  | variableName
  | assignment
  deriving DecidableEq, Repr

/-- A directive. -/
inductive Directive where
  | openIf
  | openIfDefined
  | openIfUndefined
  | elseIf
  | otherwise
  | close
  | define
  | setLocal
  | setGlobal
  | undefine
  | action
  | include
  | echo
  | warning
  | error
  | exit
  | exitIf
  | excludeIf
  deriving DecidableEq, Repr

namespace Directive

/-- All directives, in the order of the reference. -/
def all : List Directive :=
  [.openIf, .openIfDefined, .openIfUndefined, .elseIf, .otherwise, .close, .define, .setLocal,
    .setGlobal, .undefine, .action, .include, .echo, .warning, .error, .exit, .exitIf, .excludeIf]

/-- The keyword of a directive. -/
def keyword : Directive → String
  | .openIf => "if"
  | .openIfDefined => "ifdef"
  | .openIfUndefined => "ifndef"
  | .elseIf => "elif"
  | .otherwise => "else"
  | .close => "endif"
  | .define => "define"
  | .setLocal => "local"
  | .setGlobal => "global"
  | .undefine => "undef"
  | .action => "action"
  | .include => "include"
  | .echo => "echo"
  | .warning => "warning"
  | .error => "error"
  | .exit => "exit"
  | .exitIf => "exitif"
  | .excludeIf => "excludeif"

/-- What a directive takes behind its keyword. -/
def shape : Directive → ArgumentShape
  | .openIf | .elseIf | .include | .exitIf | .excludeIf => .expression
  | .openIfDefined | .openIfUndefined | .undefine => .variableName
  | .otherwise | .close | .exit => .nothing
  | .define | .setLocal | .setGlobal => .assignment
  | .action => .expressions
  | .echo | .warning | .error => .tail

/-- Whether a directive belongs to conditional blocks. -/
def isConditional : Directive → Bool
  | .openIf | .openIfDefined | .openIfUndefined | .elseIf | .otherwise | .close => true
  | _ => false

/-- What a directive does. -/
def description : Directive → String
  | .openIf => "open a conditional block"
  | .openIfDefined => "open a block taken when the variable is defined"
  | .openIfUndefined => "open a block taken when the variable is not defined"
  | .elseIf => "alternative branch of the enclosing block"
  | .otherwise => "final branch of the enclosing block"
  | .close => "close the enclosing block"
  | .define => "set a local variable, true when no value is given"
  | .setLocal => "set a local variable"
  | .setGlobal => "set a global variable"
  | .undefine => "remove a local variable, or else a global one"
  | .action => "call the extension with the evaluated arguments"
  | .include => "process a file in place, relative to the current file"
  | .echo => "log the text at info level"
  | .warning => "log the text at warning level"
  | .error => "fail the file with the text"
  | .exit => "stop processing the current file"
  | .exitIf => "stop processing the current file if the condition holds"
  | .excludeIf => "produce no output for the file if the condition holds"

/-- The directive with a given keyword; keywords are in lower case. -/
def withKeyword? (keyword : String) : Option Directive :=
  all.find? fun directive => directive.keyword == keyword

end Directive

end CommentDirectives
