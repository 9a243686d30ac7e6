import CommentDirectives.ParseError

/-!
# Cutting a text into tokens

At each place the longest text that some token form matches is taken, and blanks
between tokens are dropped.  `scan` says what the next token is; `lexemesFrom`
walks the text once, counting off the characters of the token that it has just
read.  A literal that has the form of a token but no value is refused as a whole.
-/

namespace CommentDirectives.Token

set_option autoImplicit false

/-! ## Character classes -/

/-- Whether a character separates tokens without being one. -/
def isTokenBlank (character : Char) : Bool :=
  character == ' ' || character == '\t' || character == '\r' || character == '\n'
    || character == '\x0c'

/-- Whether a name can start with a character. -/
def startsName (character : Char) : Bool := character.isAlpha || character == '_'

/-- Whether a name can go on with a character. -/
def continuesName (character : Char) : Bool :=
  character.isAlphanum || character == '_' || character == '.'

/-- Whether a character is a hexadecimal digit. -/
def isHexadecimal (character : Char) : Bool := (IntegerText.digitValue? 16 character).isSome

/-! ## Escapes in texts -/

/-- The character that an escape stands for, by the character behind the backslash. -/
def escaped? : Char → Option Char
  | 'n' => some '\n'
  | 'r' => some '\r'
  | 't' => some '\t'
  | '0' => some '\x00'
  | '\\' => some '\\'
  | '"' => some '"'
  | '\'' => some '\''
  | _ => none

/-- The text that the body of a text literal stands for, unless it has an unknown or an
unfinished escape. -/
def unescape? : List Char → Option (List Char)
  | [] => some []
  | '\\' :: character :: rest =>
    match escaped? character with
    | some meant => (unescape? rest).map (meant :: ·)
    | none => none
  | '\\' :: [] => none
  | character :: rest => (unescape? rest).map (character :: ·)

/-! ## The token forms -/

/-- What stands at the front of a text: a token and the characters that it takes up, or
characters that are no token. -/
inductive Scanned where
  | token (token : Token) (lexeme : List Char)
  | refused (lexeme : List Char)

/-- The token with the characters that it takes up, if it has a value. -/
def valued (lexeme : List Char) : Option Token → Scanned
  | some token => .token token lexeme
  | none => .refused lexeme

/-- The fraction at the front of a text: a point and one or more digits. -/
def fractionPart : List Char → List Char
  | '.' :: rest =>
    match rest.takeWhile Char.isDigit with
    | [] => []
    | digits => '.' :: digits
  | _ => []

/-- The sign at the front of a text. -/
def signPart : List Char → List Char
  | '+' :: _ => ['+']
  | '-' :: _ => ['-']
  | _ => []

/-- The exponent at the front of a text: its mark, a sign if there is one, and one or more
digits. -/
def exponentPart : List Char → List Char
  | [] => []
  | mark :: rest =>
    if mark = 'e' ∨ mark = 'E' then
      let sign := signPart rest
      match (rest.drop sign.length).takeWhile Char.isDigit with
      | [] => []
      | digits => mark :: sign ++ digits
    else []

/-- The digits of a hexadecimal integer at the front of a text, behind its mark. -/
def hexadecimalPart : List Char → List Char
  | '0' :: 'x' :: rest => rest.takeWhile isHexadecimal
  | '0' :: 'X' :: rest => rest.takeWhile isHexadecimal
  | _ => []

/-- The number at the front of a text that starts with a digit. -/
def scanNumber (text : List Char) : Scanned :=
  match hexadecimalPart text with
  | [] =>
    let whole := text.takeWhile Char.isDigit
    let fraction := fractionPart (text.drop whole.length)
    let exponent := exponentPart (text.drop (whole.length + fraction.length))
    let lexeme := whole ++ fraction ++ exponent
    if fraction.isEmpty && exponent.isEmpty then
      valued lexeme ((IntegerText.decimal? whole).map Token.int)
    else valued lexeme ((Binary32.magnitude? lexeme).map Token.float)
  | digits =>
    valued (text.take (2 + digits.length)) ((IntegerText.hexadecimal? digits).map Token.int)

/-- The longest text made of plain characters and complete escapes at the front of a text. -/
def stringBody : List Char → List Char
  | '\\' :: character :: rest =>
    if character = '\n' then [] else '\\' :: character :: stringBody rest
  | '\\' :: [] => []
  | character :: rest =>
    if character = '"' ∨ character = '\n' then [] else character :: stringBody rest
  | [] => []

/-- The text literal whose opening quote stands in front of a text. -/
def scanString (text : List Char) : Scanned :=
  let body := stringBody text
  match text.drop body.length with
  | '"' :: _ =>
    valued ('"' :: body ++ ['"'])
      ((unescape? body).map fun meant => Token.string (String.ofList meant))
  | _ => .refused ('"' :: body)

/-- A word: one of the two truth values, or a name. -/
def ofWord (word : List Char) : Token :=
  if word = ['t', 'r', 'u', 'e'] then .bool true
  else if word = ['f', 'a', 'l', 's', 'e'] then .bool false
  else .identifier (String.ofList word)

/-- The token of a symbol of two characters. -/
def doubleSymbol? : Char → Char → Option Token
  | '=', '=' => some (.operator .equal)
  | '!', '=' => some (.operator .notEqual)
  | '<', '=' => some (.operator .lessEqual)
  | '>', '=' => some (.operator .greaterEqual)
  | '&', '&' => some (.operator .and)
  | '|', '|' => some (.operator .or)
  | _, _ => none

/-- The token of a symbol of one character. -/
def singleSymbol? : Char → Option Token
  | '+' => some (.operator .add)
  | '-' => some (.operator .subtract)
  | '*' => some (.operator .multiply)
  | '/' => some (.operator .divide)
  | '%' => some (.operator .remainder)
  | '<' => some (.operator .less)
  | '>' => some (.operator .greater)
  | '^' => some (.operator .xor)
  | '!' => some .bang
  | '(' => some .openParen
  | ')' => some .closeParen
  | ',' => some .comma
  | _ => none

/-- The symbol at the front of a text, one of two characters before one of one. -/
def scanSymbol (character : Char) (rest : List Char) : Scanned :=
  match rest.head?.bind (doubleSymbol? character) with
  | some token => .token token (character :: rest.take 1)
  | none => valued [character] (singleSymbol? character)

/-- What stands at the front of a text that starts with the given character. -/
def scan (character : Char) (rest : List Char) : Scanned :=
  if character.isDigit then scanNumber (character :: rest)
  else if character = '"' then scanString rest
  else if startsName character then
    let word := character :: rest.takeWhile continuesName
    .token (ofWord word) word
  else scanSymbol character rest

/-! ## The tokens of a text -/

/-- The tokens of a text that starts at a given offset and whose first `skipped` characters
belong to a token that has been read. -/
def lexemesFrom (skipped offset : Nat) : List Char → Except ParseError (List Lexeme)
  | [] => .ok []
  | character :: rest =>
    let next := offset + character.utf8Size
    match skipped with
    | skipped + 1 => lexemesFrom skipped next rest
    | 0 =>
      if isTokenBlank character then lexemesFrom 0 next rest
      else
        match scan character rest with
        | .refused lexeme => .error (.unrecognised (String.ofList lexeme) offset)
        | .token token lexeme =>
          match lexemesFrom (lexeme.length - 1) next rest with
          | .error failure => .error failure
          | .ok lexemes => .ok (⟨token, offset⟩ :: lexemes)

/-- The tokens of a text. -/
def sequence (source : String) : Except ParseError TokenSequence :=
  match lexemesFrom 0 0 source.toList with
  | .error failure => .error failure
  | .ok lexemes => .ok ⟨lexemes, source.utf8ByteSize⟩

/-- The text that the body of a text literal stands for. -/
def unescaped? (body : String) : Option String :=
  (unescape? body.toList).map String.ofList

end CommentDirectives.Token
