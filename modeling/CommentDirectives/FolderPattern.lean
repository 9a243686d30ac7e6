/-!
# Patterns of folders

A pattern stands for the paths of some folders.  A question mark stands for any
character, a star for any text, and a class in brackets for one of its members,
or for any character but them behind an exclamation mark; all three stand for
slashes, too.  Two stars alone between slashes stand for any chain of folders,
also for none.  What else a pattern holds stands for itself.
-/

namespace CommentDirectives

set_option autoImplicit false

/-- The characters from one to another, both included. -/
structure CharacterRange where
  lowest : Char
  highest : Char
  deriving DecidableEq, Repr

/-- Whether a character lies in a range. -/
def CharacterRange.holds (range : CharacterRange) (character : Char) : Bool :=
  range.lowest ≤ character && character ≤ range.highest

/-- A piece of a pattern. -/
inductive PatternPiece where
  /-- A character that stands for itself. -/
  | character (wanted : Char)
  /-- Any character. -/
  | anyCharacter
  /-- Any text. -/
  | anyText
  /-- Any chain of folders. -/
  | anyFolders
  /-- A character of one of the ranges. -/
  | inside (ranges : List CharacterRange)
  /-- A character of none of the ranges. -/
  | outside (ranges : List CharacterRange)
  deriving DecidableEq, Repr

/-- What is wrong with a pattern. -/
inductive PatternProblem where
  /-- More than two stars stand together. -/
  | manyStars
  /-- Two stars stand next to something else than a slash. -/
  | mixedStars
  /-- A bracket opens no class. -/
  | openClass
  deriving DecidableEq, Repr

/-- The wording of what is wrong with a pattern. -/
def PatternProblem.message : PatternProblem → String
  | .manyStars => "wildcards are either regular \x60*\x60 or recursive \x60**\x60"
  | .mixedStars => "recursive wildcards must form a single path component"
  | .openClass => "invalid range pattern"

/-- What is wrong with a pattern, and at which of its characters. -/
structure PatternError where
  position : Nat
  problem : PatternProblem
  deriving DecidableEq, Repr

/-- The wording of an error. -/
def PatternError.message (error : PatternError) : String :=
  "Pattern syntax error near position " ++ toString error.position ++ ": " ++
    error.problem.message

/-- A pattern for the paths of folders. -/
structure FolderPattern where
  pieces : List PatternPiece
  deriving DecidableEq, Repr

namespace FolderPattern

/-! ## Reading -/

/-- The members of a class: ranges with a hyphen between their ends, and single characters. -/
def members : List Char → List CharacterRange
  | lowest :: '-' :: highest :: rest => ⟨lowest, highest⟩ :: members rest
  | character :: rest => ⟨character, character⟩ :: members rest
  | [] => []

/-- The text of a class up to its closing bracket, which is not its first character, and what
follows the bracket. -/
def classText : List Char → Option (List Char × List Char)
  | [] => none
  | first :: rest =>
    match rest.dropWhile (· != ']') with
    | [] => none
    | _ :: behind => some (first :: rest.takeWhile (· != ']'), behind)

/-- What follows a class is shorter than what follows its opening bracket. -/
theorem length_classText_lt {text inner behind : List Char}
    (found : classText text = some (inner, behind)) : behind.length < text.length := by
  unfold classText at found
  split at found
  · exact absurd found (by simp)
  · next first rest =>
    split at found
    · exact absurd found (by simp)
    · next mark after reached =>
      obtain ⟨_, rfl⟩ := Prod.mk.inj (Option.some.inj found)
      have shorter := (List.dropWhile_sublist (l := rest) (· != ']')).length_le
      rw [reached] at shorter
      simp only [List.length_cons] at shorter ⊢
      omega

/-- The pieces of a pattern from a position on, which may be the start of a path component. -/
def readFrom (position : Nat) (atStart : Bool) (text : List Char) :
    Except PatternError (List PatternPiece) :=
  match text with
  | [] => .ok []
  | '?' :: rest => (readFrom (position + 1) false rest).map (.anyCharacter :: ·)
  | '*' :: '*' :: '*' :: _ => .error ⟨position + 2, .manyStars⟩
  | '*' :: '*' :: behind =>
    if !atStart then .error ⟨position - 1, .mixedStars⟩
    else
      match behind with
      | [] => .ok [.anyFolders]
      | '/' :: rest => (readFrom (position + 3) true rest).map (.anyFolders :: ·)
      | _ => .error ⟨position + 2, .mixedStars⟩
  | '*' :: rest => (readFrom (position + 1) false rest).map (.anyText :: ·)
  | '[' :: '!' :: rest =>
    match found : classText rest with
    | none => .error ⟨position, .openClass⟩
    | some (inner, behind) =>
      have := length_classText_lt found
      (readFrom (position + inner.length + 3) false behind).map (.outside (members inner) :: ·)
  | '[' :: rest =>
    match found : classText rest with
    | none => .error ⟨position, .openClass⟩
    | some (inner, behind) =>
      have := length_classText_lt found
      (readFrom (position + inner.length + 2) false behind).map (.inside (members inner) :: ·)
  | character :: rest =>
    (readFrom (position + 1) (character == '/') rest).map (.character character :: ·)
termination_by text.length
decreasing_by all_goals (simp only [List.length_cons]; omega)

/-- The pattern that a text describes. -/
def read (text : String) : Except PatternError FolderPattern :=
  (readFrom 0 true text.toList).map FolderPattern.mk

end FolderPattern

end CommentDirectives
