import CommentDirectives.Text.Lines
import CommentDirectives.Evaluation
import CommentDirectives.Config
import CommentDirectives.FolderPattern
import CommentDirectives.FolderPattern.Matching
import CommentDirectives.Main
import CommentDirectives.Directive.Argument
import CommentDirectives.Nesting
import CommentDirectives.Line.Form
import CommentDirectives.Line.Comments
import CommentDirectives.Line.Substitution
import CommentDirectives.Proofs.Session.Alike
import CommentDirectives.Proofs.Session.Outcome
import CommentDirectives.Proofs.Processing.Steps
import CommentDirectives.Proofs.Blocks.Document
import CommentDirectives.Proofs.Blocks.Refinement
import CommentDirectives.Proofs.Inclusion.Calls
import CommentDirectives.Proofs.Inclusion.Refinement
import CommentDirectives.Proofs.Suppression.Immaterial
import CommentDirectives.Proofs.Suppression.Runs
import CommentDirectives.Proofs.Expr.Grammar
import CommentDirectives.Proofs.Expr.Grouping
import CommentDirectives.Proofs.Expr.Reading
import CommentDirectives.Proofs.Expr.Recognition
import CommentDirectives.Proofs.Processing.Bounds
import CommentDirectives.Proofs.Session.Owners
import CommentDirectives.Proofs.Blocks.Balance
import CommentDirectives.Proofs.Blocks.Checking
import CommentDirectives.Proofs.Session.Failure
import CommentDirectives.Proofs.Session.WellFormed
import CommentDirectives.Proofs.Inclusion.Ownership
import CommentDirectives.Proofs.Blocks.Activity
import CommentDirectives.Proofs.Processing.Accounting
import CommentDirectives.Proofs.Inclusion.Locations
import CommentDirectives.Proofs.Number.Decimal
import CommentDirectives.Proofs.Token.Cutting
import CommentDirectives.Proofs.Expr.Printing
import CommentDirectives.Proofs.FileTree.Places
import CommentDirectives.Proofs.FileTree.Parents
import CommentDirectives.Proofs.FileTree.Changes
import CommentDirectives.Proofs.Processing.Reading
import CommentDirectives.Proofs.Build.Collected
import CommentDirectives.Proofs.Build.Treatment
import CommentDirectives.Proofs.Build.Visits
import CommentDirectives.Proofs.Build.Outputs
import CommentDirectives.Proofs.Build.Alongside
import CommentDirectives.Proofs.Build.Clearing
import CommentDirectives.Proofs.Build.Apart
import CommentDirectives.Proofs.Build.Repetition
import CommentDirectives.Proofs.Build.DryRun
import CommentDirectives.Proofs.Evaluation.Kinds
import CommentDirectives.Proofs.Evaluation.Callable
import CommentDirectives.Proofs.Expr.Refusals
import CommentDirectives.Proofs.Expr.Stacks
import CommentDirectives.Proofs.Expr.Soundness
import CommentDirectives.Proofs.Evaluation.Leniency
import CommentDirectives.Proofs.Session.Leniency
import CommentDirectives.Proofs.Comments.Interiors
import CommentDirectives.Proofs.Comments.Runs
import CommentDirectives.Proofs.Processing.Leniency
import CommentDirectives.Proofs.Session.Output
import CommentDirectives.Proofs.Processing.Entries
import CommentDirectives.Proofs.Comments.Remains
import CommentDirectives.Proofs.Comments.Survivors
import CommentDirectives.Proofs.Line.MarkedParts
import CommentDirectives.Proofs.Session.Rendered
import CommentDirectives.Proofs.Processing.LastTerminator
import CommentDirectives.Proofs.Session.Unnoticed
import CommentDirectives.Proofs.Processing.KeptLines
import CommentDirectives.Proofs.Session.SharedVariables
import CommentDirectives.Proofs.Processing.Independence
import CommentDirectives.Proofs.Value.SetAlgebra
import CommentDirectives.Proofs.Expr.Names
import CommentDirectives.Proofs.Processing.WrittenNames
import CommentDirectives.Proofs.Evaluation.Strictness
import CommentDirectives.Proofs.Expr.Parentheses
import CommentDirectives.Proofs.Token.Partition
import CommentDirectives.Proofs.Expr.Diagnostics
import CommentDirectives.Proofs.Expr.Lists
import CommentDirectives.Proofs.Processing.OrdinaryText
import CommentDirectives.Proofs.Session.OneName
import CommentDirectives.Proofs.Build.OwnedNames
import CommentDirectives.Proofs.Comments.Openings
import CommentDirectives.Proofs.Comments.Unclosed
import CommentDirectives.Proofs.Number.Notation
import CommentDirectives.Proofs.Token.Integers
import CommentDirectives.Proofs.Value.IntegerTexts
import CommentDirectives.Proofs.Build.Modes
import CommentDirectives.Proofs.Build.Listing
import CommentDirectives.Proofs.Build.Tally
import CommentDirectives.Proofs.Evaluation.Integers
import CommentDirectives.Proofs.Text.JavaEscape
import CommentDirectives.Proofs.Line.Forms
import CommentDirectives.Proofs.Nesting.Histories
