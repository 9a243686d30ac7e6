import CommentDirectives.FolderPattern

/-!
# The paths that a pattern stands for

What a list of pieces stands for is said piece by piece in `piecesMatch`.  A path is
matched without going back over it: for each piece, from the last one to the first,
the verdicts on the path and on all its ends are found in one pass.  Both give the
same answer (`isMatch_eq`), whatever the number of stars.
-/

namespace CommentDirectives

set_option autoImplicit false

/-- Whether a piece stands for a single character. -/
def PatternPiece.accepts : PatternPiece → Char → Bool
  | .character wanted, first => first == wanted
  | .anyCharacter, _ => true
  | .inside ranges, first => ranges.any (·.holds first)
  | .outside ranges, first => !ranges.any (·.holds first)
  | .anyText, _ | .anyFolders, _ => false

namespace FolderPattern

/-! ## What pieces stand for -/

/-- Whether some end of a text has a property. -/
def someEnd (property : List Char → Bool) : List Char → Bool
  | [] => property []
  | character :: rest => property (character :: rest) || someEnd property rest

/-- Whether what follows some slash of a text has a property, or the empty text. -/
def someFolder (property : List Char → Bool) : List Char → Bool
  | [] => property []
  | character :: rest => character == '/' && property rest || someFolder property rest

/-- Whether pieces stand for a text. -/
def piecesMatch : List PatternPiece → List Char → Bool
  | [], text => text.isEmpty
  | .anyText :: rest, text => someEnd (piecesMatch rest) text
  | .anyFolders :: rest, text => piecesMatch rest text || someFolder (piecesMatch rest) text
  | _ :: _, [] => false
  | piece :: rest, first :: text => piece.accepts first && piecesMatch rest text

/-! ## All ends of a text together

Trying the pieces behind a star at one place after the other takes a time that grows with every
further star.  The verdicts on all ends of a text are found together instead, for the last piece
first and for every piece from those for the pieces behind it.
-/

/-- The verdicts of a property on a text and on all its ends, the empty one last. -/
def verdicts (property : List Char → Bool) : List Char → List Bool
  | [] => [property []]
  | character :: rest => property (character :: rest) :: verdicts property rest

/-- The first of some verdicts, which is the one on the whole text. -/
def whole (later : List Bool) : Bool := later.headD false

/-- The verdicts for a single character in front, from those for what stands behind it. -/
def behindOne (accepts : Char → Bool) : List Char → List Bool → List Bool
  | first :: text, _ :: later => (accepts first && whole later) :: behindOne accepts text later
  | _, _ => [false]

/-- The verdicts for any text in front. -/
def behindText : List Bool → List Bool
  | [] => []
  | verdict :: later =>
    let rest := behindText later
    (verdict || whole rest) :: rest

/-- The verdicts for one folder or more in front, or for all of the text. -/
def behindFolders : List Char → List Bool → List Bool
  | first :: text, _ :: later =>
    let rest := behindFolders text later
    (first == '/' && whole later || whole rest) :: rest
  | _, later => later

/-- The verdicts for a piece in front. -/
def behindPiece (text : List Char) (later : List Bool) : PatternPiece → List Bool
  | .anyText => behindText later
  | .anyFolders => later.zipWith (· || ·) (behindFolders text later)
  | piece => behindOne piece.accepts text later

/-- Whether pieces stand for a text and for each of its ends. -/
def piecesVerdicts (text : List Char) : List PatternPiece → List Bool
  | [] => verdicts List.isEmpty text
  | piece :: rest => behindPiece text (piecesVerdicts text rest) piece

/-! ## The verdicts agree with what pieces stand for -/

/-- The first verdict is the one on the whole text. -/
theorem whole_verdicts (property : List Char → Bool) (text : List Char) :
    whole (verdicts property text) = property text := by
  cases text with
  | nil => rfl
  | cons character rest => rfl

/-- A single character in front is met where the text begins with one that is accepted. -/
theorem behindOne_verdicts (accepts : Char → Bool) (property : List Char → Bool)
    (text : List Char) :
    behindOne accepts text (verdicts property text) =
      verdicts (fun | [] => false | first :: rest => accepts first && property rest) text := by
  induction text with
  | nil => rfl
  | cons character rest ih => simp only [verdicts, behindOne, whole_verdicts, ih]

/-- Any text in front leaves a choice among all ends. -/
theorem behindText_verdicts (property : List Char → Bool) (text : List Char) :
    behindText (verdicts property text) = verdicts (someEnd property) text := by
  induction text with
  | nil => simp [verdicts, behindText, someEnd, whole]
  | cons character rest ih => simp only [verdicts, behindText, someEnd, ih, whole_verdicts]

/-- Folders in front leave a choice among what follows the slashes. -/
theorem behindFolders_verdicts (property : List Char → Bool) (text : List Char) :
    behindFolders text (verdicts property text) = verdicts (someFolder property) text := by
  induction text with
  | nil => rfl
  | cons character rest ih => simp only [verdicts, behindFolders, someFolder, ih, whole_verdicts]

/-- Verdicts on two properties are joined one by one. -/
theorem zipWith_verdicts (one other : List Char → Bool) (text : List Char) :
    (verdicts one text).zipWith (· || ·) (verdicts other text) =
      verdicts (fun rest => one rest || other rest) text := by
  induction text with
  | nil => rfl
  | cons character rest ih => simp only [verdicts, List.zipWith_cons_cons, ih]

/-- The verdicts found together are those that the pieces give on each end of the text alone. -/
theorem piecesVerdicts_eq (text : List Char) (pieces : List PatternPiece) :
    piecesVerdicts text pieces = verdicts (piecesMatch pieces) text := by
  induction pieces with
  | nil => rw [piecesVerdicts, show piecesMatch [] = List.isEmpty from funext fun _ => rfl]
  | cons piece rest ih =>
    rw [piecesVerdicts, ih]
    cases piece with
    | anyText =>
      rw [behindPiece, behindText_verdicts]
      exact congrArg (verdicts · text) (funext fun _ => by rw [piecesMatch])
    | anyFolders =>
      rw [behindPiece, behindFolders_verdicts, zipWith_verdicts]
      exact congrArg (verdicts · text) (funext fun _ => by rw [piecesMatch])
    | _ =>
      rw [behindPiece, behindOne_verdicts]
      · refine congrArg (verdicts · text) (funext fun ending => ?_)
        cases ending <;> simp [piecesMatch]
      all_goals simp

/-- Whether a pattern stands for a path. -/
def isMatch (pattern : FolderPattern) (path : String) : Bool :=
  whole (piecesVerdicts path.toList pattern.pieces)

/-- A pattern stands for the paths that its pieces stand for. -/
theorem isMatch_eq (pattern : FolderPattern) (path : String) :
    pattern.isMatch path = piecesMatch pattern.pieces path.toList := by
  rw [isMatch, piecesVerdicts_eq, whole_verdicts]

end FolderPattern

end CommentDirectives
