import Mathlib
import CommentDirectives.Proofs.Token.Scanning

/-!
# Words with blanks between them

A text that can be cut into tokens is made of words with blanks around them, each word the longest
one that the text goes on with (`Partition`), and the tokens carry the offsets at which their words
start.  This is said of words alone, so that what follows about cutting is told without the scanner.

Words hold no blanks and no commas, but for text literals, which end at their closing quote wherever
they stand, and for the comma itself.  So a word stays the longest one if what follows it only
changes behind the next blank or comma (`Covers`).  Blanks between words can be added at will, and a
text that ends or goes on behind a comma is cut as before.  In particular the tokens in front of a
failure are those of the text that ends there (`sequence_partition`).
-/

namespace CommentDirectives.Token

set_option autoImplicit false

/-! ## Sizes -/

/-- The number of bytes of a text. -/
def bytes (text : List Char) : Nat := (text.map Char.utf8Size).sum

theorem bytes_cons (first : Char) (rest : List Char) :
    bytes (first :: rest) = first.utf8Size + bytes rest := by
  rw [bytes, List.map_cons, List.sum_cons, bytes]

theorem bytes_append (text rest : List Char) : bytes (text ++ rest) = bytes text + bytes rest := by
  rw [bytes, List.map_append, List.sum_append, bytes, bytes]

theorem utf8ByteSize_eq_bytes (source : String) : source.utf8ByteSize = bytes source.toList := by
  have size (text : List Char) : (String.ofList text).utf8ByteSize = bytes text := by
    induction text with
    | nil => rfl
    | cons first rest ih =>
        have split : String.ofList (first :: rest) = String.singleton first ++ String.ofList rest := by
          rw [String.singleton_eq_ofList, ← String.ofList_append, List.singleton_append]
        rw [split, String.utf8ByteSize_append, String.utf8ByteSize_singleton, ih, bytes_cons]
  rw [← size, String.ofList_toList]

/-! ## Pieces -/

/-- A token with the blanks in front of it and the word that it is written with. -/
structure Piece where
  gap : List Char
  word : List Char
  token : Token

/-- The text of some pieces, in front of a rest. -/
def spell : List Piece → List Char → List Char
  | [], rest => rest
  | piece :: pieces, rest => piece.gap ++ (piece.word ++ spell pieces rest)

/-- The tokens of some pieces from an offset on, each with the offset at which its word starts. -/
def place (offset : Nat) : List Piece → List Lexeme
  | [] => []
  | piece :: pieces =>
    ⟨piece.token, offset + bytes piece.gap⟩ ::
      place (offset + bytes piece.gap + bytes piece.word) pieces

/-- Blanks, and nothing else. -/
def AllBlank (text : List Char) : Prop := ∀ character ∈ text, isTokenBlank character = true

instance (text : List Char) : Decidable (AllBlank text) :=
  List.decidableBAll (fun character => isTokenBlank character = true) text

/-- Some pieces in front of a rest: the gaps are blank, and each word is written for its token and
is the longest one that the text goes on with. -/
inductive Partition : List Piece → List Char → Prop where
  | none (rest : List Char) : Partition [] rest
  | piece {piece : Piece} {pieces : List Piece} {rest : List Char} : AllBlank piece.gap →
      Longest (piece.word ++ spell pieces rest) piece.word →
      Written piece.word (some piece.token) → Partition pieces rest →
      Partition (piece :: pieces) rest

variable {pieces pieces' : List Piece} {rest rest' word behind behind' : List Char}

/-- A piece whose word is scanned as its token. -/
theorem Partition.scanned {gap tail : List Char} {first : Char} {token : Token}
    (blank : AllBlank gap)
    (scanned : scan first (tail ++ spell pieces rest) = .token token (first :: tail))
    (partition : Partition pieces rest) : Partition (⟨gap, first :: tail, token⟩ :: pieces) rest :=
  .piece blank (scan_eq_token.mp scanned).1 (scan_eq_token.mp scanned).2 partition

theorem spell_append (pieces pieces' : List Piece) (rest : List Char) :
    spell (pieces ++ pieces') rest = spell pieces (spell pieces' rest) := by
  induction pieces with
  | nil => rfl
  | cons piece pieces ih => rw [List.cons_append, spell, ih, spell]

theorem spell_rest (pieces : List Piece) (gap rest : List Char) :
    spell pieces (gap ++ rest) = spell pieces gap ++ rest := by
  induction pieces with
  | nil => rfl
  | cons piece pieces ih => rw [spell, ih, spell, List.append_assoc, List.append_assoc]

theorem place_append (offset : Nat) (pieces pieces' : List Piece) :
    place offset (pieces ++ pieces') =
      place offset pieces ++ place (offset + bytes (spell pieces [])) pieces' := by
  induction pieces generalizing offset with
  | nil => rfl
  | cons piece pieces ih =>
      rw [List.cons_append, place, ih, place, spell, bytes_append, bytes_append, List.cons_append,
        ← Nat.add_assoc, ← Nat.add_assoc]

theorem map_token_place (offset : Nat) (pieces : List Piece) :
    (place offset pieces).map Lexeme.token = pieces.map Piece.token := by
  induction pieces generalizing offset with
  | nil => rfl
  | cons piece pieces ih => rw [place, List.map_cons, ih, List.map_cons]

theorem Partition.append (first : Partition pieces (spell pieces' rest))
    (second : Partition pieces' rest) : Partition (pieces ++ pieces') rest := by
  induction pieces with
  | nil => exact second
  | cons piece pieces ih =>
      cases first with
      | piece blank longest written onward =>
          rw [← spell_append] at longest
          exact .piece blank longest written (ih onward)

theorem Partition.of_append (partition : Partition (pieces ++ pieces') rest) :
    Partition pieces (spell pieces' rest) ∧ Partition pieces' rest := by
  induction pieces with
  | nil => exact ⟨.none _, partition⟩
  | cons piece pieces ih =>
      cases partition with
      | piece blank longest written onward =>
          have longest : Longest (piece.word ++ spell (pieces ++ pieces') rest) piece.word := longest
          rw [spell_append] at longest
          exact ⟨.piece blank longest written (ih onward).1, (ih onward).2⟩

/-! ## Words in other surroundings -/

/-- A character that stands between words, or is a word of its own. -/
def separates (character : Char) : Bool := isTokenBlank character || character == ','

theorem separates_of_isTokenBlank {blank : Char} (isBlank : isTokenBlank blank = true) :
    separates blank = true := by
  rw [separates, isBlank, Bool.true_or]

/-- One text starts with all that another one starts with in front of its first blank or comma. -/
def Covers (behind behind' : List Char) : Prop :=
  ∀ front, front <+: behind' → (∀ character ∈ front, separates character = false) → front <+: behind

theorem Covers.of_shorter (shorter : behind' <+: behind) : Covers behind behind' :=
  fun _ front _ => front.trans shorter

/-- The front of a joined text ends within the first part, or takes all of it. -/
theorem prefix_append_cases {front text : List Char} (starts : front <+: text ++ rest) :
    front <+: text ∨ ∃ further, further <+: rest ∧ front = text ++ further := by
  rcases List.prefix_or_prefix_of_prefix starts (List.prefix_append text rest) with within | beyond
  · exact .inl within
  · obtain ⟨further, rfl⟩ := beyond
    exact .inr ⟨further, (List.prefix_append_right_inj text).mp starts, rfl⟩

/-- A text that starts with a blank or a comma starts with nothing to be covered. -/
theorem covers_of_first {first : Char} (separated : separates first = true)
    (text tail : List Char) : Covers text (first :: tail) := by
  intro front starts each
  cases front with
  | nil => exact List.nil_prefix
  | cons character front =>
      obtain ⟨rfl, -⟩ := List.cons_prefix_cons.mp starts
      cases separated.symm.trans (each character (.head _))

theorem Covers.append (covers : Covers behind behind') (text : List Char) :
    Covers (text ++ behind) (text ++ behind') := by
  intro front starts each
  rcases prefix_append_cases starts with within | ⟨further, onward, rfl⟩
  · exact within.trans (List.prefix_append text behind)
  · have plain : ∀ character ∈ further, separates character = false :=
      fun character member => each character (List.mem_append_right _ member)
    exact (List.prefix_append_right_inj text).mpr (covers further onward plain)

/-- Nothing is told of what stands behind a blank or a comma. -/
theorem covers_separated {separator : Char} (separated : separates separator = true)
    (text behind' : List Char) : Covers text (text ++ separator :: behind') := by
  have covers := (covers_of_first separated [] behind').append text
  rwa [List.append_nil] at covers

/-- The closing quote of a text literal is the first one that could be. -/
theorem IsBody.eq_of_front {body body' : List Char} (isBody : IsBody body) (isBody' : IsBody body')
    (front : body ++ ['"'] <+: body' ++ ['"']) : body = body' := by
  obtain ⟨rest, same⟩ := front
  rw [List.append_assoc, List.singleton_append] at same
  have read := isBody.stringBody_eq rest
  rw [same, isBody'.stringBody_eq] at read
  exact read.symm

/-- A name goes on with nothing that separates words. -/
theorem separates_of_continuesName {character : Char} (continues : continuesName character = true) :
    separates character = false := by
  by_contra separated
  rw [Bool.not_eq_false] at separated
  simp only [separates, isTokenBlank, Bool.or_eq_true, beq_iff_eq] at separated
  rcases separated with ((((rfl | rfl) | rfl) | rfl) | rfl) | rfl <;> cases continues

theorem separates_of_isDigit {character : Char} (digit : character.isDigit = true) :
    separates character = false :=
  separates_of_continuesName (by simp [continuesName, Char.isAlphanum, digit])

theorem separates_of_isHexadecimal {character : Char} (digit : isHexadecimal character = true) :
    separates character = false := by
  by_contra separated
  rw [Bool.not_eq_false] at separated
  simp only [separates, isTokenBlank, Bool.or_eq_true, beq_iff_eq] at separated
  rcases separated with ((((rfl | rfl) | rfl) | rfl) | rfl) | rfl <;> cases digit

theorem IsExponent.separates {exponent : List Char} (isExponent : IsExponent exponent) :
    ∀ character ∈ exponent, Token.separates character = false := by
  obtain ⟨mark, sign, digits, isMark, isSign, isDigits, rfl⟩ := isExponent
  intro character member
  simp only [List.mem_cons, List.not_mem_nil, or_false] at isSign
  rcases List.mem_cons.mp member with rfl | member
  · rcases isMark with rfl | rfl <;> rfl
  rcases List.mem_append.mp member with member | member
  · rcases isSign with rfl | rfl | rfl
    · cases member
    · rw [List.mem_singleton.mp member]; rfl
    · rw [List.mem_singleton.mp member]; rfl
  · exact separates_of_isDigit (isDigits.each character member)

theorem IsNumeral.separates (isNumeral : IsNumeral word) :
    ∀ character ∈ word, Token.separates character = false := by
  obtain ⟨whole, fraction, exponent, isDigits, isFraction, isExponent, rfl⟩ := isNumeral
  intro character member
  rcases List.mem_append.mp member with member | member
  · exact separates_of_isDigit (isDigits.each character member)
  rcases List.mem_append.mp member with member | member
  · rcases isFraction with rfl | ⟨digits, isDigits, rfl⟩
    · cases member
    rcases List.mem_cons.mp member with rfl | member
    · rfl
    · exact separates_of_isDigit (isDigits.each character member)
  · rcases isExponent with rfl | isExponent
    · cases member
    · exact isExponent.separates character member

/-- **Only text literals hold what separates words**, and the comma is itself a word. -/
theorem Shape.cases_separates (shape : Shape word) :
    (∃ body, IsBody body ∧ word = '"' :: (body ++ ['"'])) ∨ word = [','] ∨
      ∀ character ∈ word, separates character = false := by
  cases shape with
  | number digit isNumber =>
      refine .inr (.inr ?_)
      rcases isNumber with isNumeral | ⟨mark, digits, isMark, -, each, same⟩
      · exact isNumeral.separates
      · rw [same]
        intro character member
        rcases List.mem_cons.mp member with rfl | member
        · rfl
        rcases List.mem_cons.mp member with rfl | member
        · rcases isMark with rfl | rfl <;> rfl
        · exact separates_of_isHexadecimal (each character member)
  | @string body isBody => exact .inl ⟨body, isBody, rfl⟩
  | @word first tail starts onward =>
      have continues : continuesName first = true := by
        simp only [startsName, continuesName, Char.isAlphanum, Bool.or_eq_true] at starts ⊢
        tauto
      refine .inr (.inr fun character member => ?_)
      rcases List.mem_cons.mp member with rfl | member
      · exact separates_of_continuesName continues
      · exact separates_of_continuesName (List.all_eq_true.mp onward character member)
  | @symbol token member =>
      have each : ∀ token ∈ symbols, token.text.toList = [','] ∨
          token.text.toList.any separates = false := by decide
      refine .inr ((each token member).imp_right fun none character member => ?_)
      exact Bool.eq_false_iff.mpr (List.any_eq_false.mp none character member)

/-- **The longest word stays the longest one** if what follows it changes behind a separator. -/
theorem Longest.of_covers (longest : Longest (word ++ behind) word) (covers : Covers behind behind') :
    Longest (word ++ behind') word := by
  refine ⟨List.prefix_append _ _, longest.isWord, fun other front isWord => ?_⟩
  by_contra longer
  -- a longer word would go on behind this one
  obtain ⟨further, onward, rfl⟩ := (prefix_append_cases front).resolve_left fun within =>
    longer within.length_le
  have present : further ≠ [] := by
    rintro rfl
    rw [List.append_nil] at longer
    exact longer (Nat.le_refl _)
  have ⟨_, written⟩ := isWord
  have ⟨_, written'⟩ := longest.isWord
  obtain ⟨first, tail, rfl⟩ := written'.shape.exists_first
  rcases written.shape.cases_separates with ⟨body, isBody, same⟩ | same | each
  · -- both are text literals, and the first one has its closing quote
    obtain ⟨quote, same⟩ := List.cons.inj same
    obtain ⟨body', isBody', rfl⟩ := written'.shape.string_of_quote quote
    obtain rfl := isBody'.eq_of_front isBody ⟨further, same⟩
    exact present (List.append_right_eq_self.mp same)
  · exact present (List.append_eq_nil_iff.mp (List.cons.inj same).2).2
  · have within := covers further onward fun character member =>
      each character (List.mem_append_right _ member)
    exact longer (longest.longest _ ((List.prefix_append_right_inj _).mpr within) isWord)

/-! ## Partitions in other surroundings -/

/-- A piece with more blanks in front of its word. -/
structure Piece.Widens (piece wider : Piece) : Prop where
  gap : piece.gap.Sublist wider.gap
  blank : AllBlank wider.gap
  word : wider.word = piece.word
  token : wider.token = piece.token

theorem map_token_of_widens (wider : List.Forall₂ Piece.Widens pieces pieces') :
    pieces'.map Piece.token = pieces.map Piece.token := by
  induction wider with
  | nil => rfl
  | cons widens _ ih => rw [List.map_cons, List.map_cons, widens.token, ih]

/-- Blanks that are added between words hide what stands behind them. -/
theorem covers_spell (wider : List.Forall₂ Piece.Widens pieces pieces') (covers : Covers rest rest') :
    Covers (spell pieces rest) (spell pieces' rest') := by
  induction wider with
  | nil => exact covers
  | @cons piece piece' pieces pieces' widens _ ih =>
      rw [spell, spell, widens.word]
      cases gap : piece'.gap with
      | nil =>
          have none : piece.gap = [] := List.sublist_nil.mp (gap ▸ widens.gap)
          rw [none]
          exact ih.append piece.word
      | cons blank others =>
          exact covers_of_first (separates_of_isTokenBlank (widens.blank blank (gap ▸ .head _))) _ _

/-- **A text is cut into the same words** with more blanks between them, and with another rest that
is covered by the first one. -/
theorem Partition.widen (partition : Partition pieces rest)
    (wider : List.Forall₂ Piece.Widens pieces pieces') (covers : Covers rest rest') :
    Partition pieces' rest' := by
  induction wider with
  | nil => exact .none rest'
  | @cons piece piece' pieces pieces' widens onward ih =>
      cases partition with
      | piece blank longest written partition =>
          refine .piece widens.blank ?_ ?_ (ih partition)
          · rw [widens.word]
            exact longest.of_covers (covers_spell onward covers)
          · rw [widens.word, widens.token]
            exact written

/-- A text is cut as before if only what stands behind its words changes. -/
theorem Partition.of_covers (partition : Partition pieces rest) (covers : Covers rest rest') :
    Partition pieces rest' := by
  have same : List.Forall₂ Piece.Widens pieces pieces := by
    clear covers
    induction pieces with
    | nil => exact .nil
    | cons piece pieces ih =>
        cases partition with
        | piece blank longest written onward =>
            exact .cons ⟨List.Sublist.refl _, blank, rfl, rfl⟩ (ih onward)
  exact partition.widen same covers

/-! ## Partitions and the scanner -/

theorem cut_blanks {gap : List Char} (blank : AllBlank gap) (offset : Nat) (rest : List Char) :
    Cut gap offset [] rest := by
  induction gap generalizing offset with
  | nil => exact cut_nil offset rest
  | cons first gap ih =>
      have one := cut_blank (blank first (.head _)) offset (gap ++ rest)
      exact one.append (ih (fun character member => blank character (.tail _ member)) _)

/-- The longest word that a text starts with is cut into its token. -/
theorem cut_word {token : Token} (longest : Longest (word ++ rest) word)
    (written : Written word (some token)) (offset : Nat) :
    Cut word offset [⟨token, offset⟩] rest := by
  obtain ⟨first, tail, rfl⟩ := written.shape.exists_first
  exact cut_of_scan (scan_eq_token.mpr ⟨longest, written⟩) offset

/-- **Pieces are cut into their tokens**, each at its place. -/
theorem Partition.cut (partition : Partition pieces rest) (offset : Nat) :
    Cut (spell pieces []) offset (place offset pieces) rest := by
  induction partition generalizing offset with
  | none rest => exact cut_nil offset rest
  | @piece piece pieces rest blank longest written _ ih =>
      rw [← List.nil_append rest, spell_rest] at longest
      rw [spell, place]
      have gap := cut_blanks blank offset (piece.word ++ spell pieces [] ++ rest)
      have word := cut_word longest written (offset + bytes piece.gap)
      exact gap.append (word.append (ih _))

/-- A text is nothing but pieces, with blanks behind the last one. -/
structure SpelledBy (source : String) (pieces : List Piece) (last : List Char) : Prop where
  text : source.toList = spell pieces last
  partition : Partition pieces last
  blank : AllBlank last

/-- The tokens of a text that is nothing but pieces and blanks. -/
theorem SpelledBy.sequence_eq {source : String} {last : List Char}
    (spelled : SpelledBy source pieces last) :
    sequence source = .ok ⟨place 0 pieces, source.utf8ByteSize⟩ := by
  have cut : Cut source.toList 0 (place 0 pieces ++ []) [] := by
    rw [spelled.text, ← List.nil_append last, spell_rest]
    refine Cut.append ?_ (cut_blanks spelled.blank _ [])
    rw [List.append_nil]
    exact spelled.partition.cut 0
  rw [List.append_nil] at cut
  exact cut.sequence_eq

/-- What stands behind all pieces and blanks: nothing, or a character at which no token starts. -/
inductive Unscanned : List Char → Prop where
  | nothing : Unscanned []
  | refused {first : Char} {tail : List Char} (refused : List Char) :
      isTokenBlank first = false → scan first tail = .refused refused → Unscanned (first :: tail)

/-- **Every text starts with pieces**, up to its end or up to where no token starts. -/
theorem exists_partition (text : List Char) :
    ∃ pieces gap rest, text = spell pieces (gap ++ rest) ∧ Partition pieces (gap ++ rest) ∧
      AllBlank gap ∧ Unscanned rest := by
  induction length : text.length using Nat.strongRecOn generalizing text with
  | _ count ih =>
  cases text with
  | nil => exact ⟨[], [], [], rfl, .none [], nofun, .nothing⟩
  | cons first tail =>
      by_cases isBlank : isTokenBlank first = true
      · -- a blank goes to the first gap that there is
        have shorter : tail.length < count := length ▸ Nat.lt_succ_self _
        have extended {gap : List Char} (blank : AllBlank gap) : AllBlank (first :: gap) := by
          intro character member
          rcases List.mem_cons.mp member with rfl | member
          · exact isBlank
          · exact blank character member
        obtain ⟨pieces, gap, rest, rfl, partition, blank, unscanned⟩ := ih _ shorter tail rfl
        cases partition with
        | none => exact ⟨[], first :: gap, rest, rfl, .none _, extended blank, unscanned⟩
        | @piece piece pieces _ blank' longest written onward =>
            exact ⟨{ piece with gap := first :: piece.gap } :: pieces, gap, rest, rfl,
              .piece (extended blank') longest written onward, blank, unscanned⟩
      · cases scanned : scan first tail with
        | refused refused =>
            exact ⟨[], [], first :: tail, rfl, .none _, nofun,
              .refused refused (Bool.eq_false_iff.mpr isBlank) scanned⟩
        | token token word =>
            obtain ⟨longest, written⟩ := scan_eq_token.mp scanned
            obtain ⟨behind, same⟩ := longest.front
            obtain ⟨first', tail', rfl⟩ := written.shape.exists_first
            have shorter : behind.length < count := by
              rw [← length, ← same, List.length_append, List.length_cons]
              omega
            obtain ⟨pieces, gap, rest, rfl, partition, blank, unscanned⟩ := ih _ shorter behind rfl
            rw [← same] at longest ⊢
            exact ⟨⟨[], _, token⟩ :: pieces, gap, rest, rfl, .piece nofun longest written partition,
              blank, unscanned⟩

/-- A text without a token at its start is refused there. -/
theorem lexemesFrom_of_refused {first : Char} {tail refused : List Char}
    (visible : isTokenBlank first = false) (scanned : scan first tail = .refused refused)
    (offset : Nat) :
    lexemesFrom 0 offset (first :: tail) = .error (.unrecognised (String.ofList refused) offset) := by
  rw [lexemesFrom]
  simp only [visible, Bool.false_eq_true, if_false, scanned]

/-- Where a text cannot be cut: behind the pieces in front and some blanks, at the offset that the
failure gives, there is something that starts with no token. -/
structure FailsBehind (source : String) (cause : ParseError) (pieces : List Piece)
    (gap rest : List Char) : Prop where
  text : source.toList = spell pieces (gap ++ rest)
  partition : Partition pieces (gap ++ rest)
  blank : AllBlank gap
  present : rest ≠ []
  refused : ∀ word token, Longest rest word → ¬ Written word (some token)
  cause : ∃ text, cause = .unrecognised text (bytes (spell pieces gap))

/-- **A text is cut as far as it can be**: all of it, or up to where it fails. -/
theorem spelled_or_fails (source : String) :
    (∃ pieces last, SpelledBy source pieces last) ∨
      ∃ cause pieces gap rest, sequence source = .error cause ∧
        FailsBehind source cause pieces gap rest := by
  obtain ⟨pieces, gap, rest, text, partition, blank, unscanned⟩ := exists_partition source.toList
  cases unscanned with
  | nothing =>
      rw [List.append_nil] at text partition
      exact .inl ⟨pieces, gap, text, partition, blank⟩
  | @refused first tail refused visible scanned =>
      refine .inr ⟨.unrecognised (String.ofList refused) (bytes (spell pieces gap)), pieces, gap,
        first :: tail, ?_, text, partition, blank, nofun, ?_, _, rfl⟩
      · have cut := (partition.cut 0).append (cut_blanks blank _ (first :: tail))
        rw [← spell_rest, List.nil_append, Cut, ← spell_rest, ← text,
          lexemesFrom_of_refused visible scanned, Nat.zero_add] at cut
        rw [sequence, cut]
        rfl
      · intro word token longest
        exact not_written_of_refused scanned longest

/-- A text that is cut into tokens is nothing but pieces and blanks. -/
theorem exists_spelled {source : String} {sequence : TokenSequence}
    (cut : Token.sequence source = .ok sequence) : ∃ pieces last,
      SpelledBy source pieces last ∧ sequence = ⟨place 0 pieces, source.utf8ByteSize⟩ := by
  rcases spelled_or_fails source with ⟨pieces, last, spelled⟩ | ⟨cause, _, _, _, fails, _⟩
  · exact ⟨pieces, last, spelled, Except.ok.inj (cut.symm.trans spelled.sequence_eq)⟩
  · cases cut.symm.trans fails

/-- A text that cannot be cut into tokens fails as one. -/
theorem isLexical_of_sequence {source : String} {cause : ParseError}
    (failed : sequence source = .error cause) : cause.isLexical = true := by
  rcases spelled_or_fails source with ⟨_, _, spelled⟩ | ⟨cause', _, _, _, failed', fails⟩
  · cases failed.symm.trans spelled.sequence_eq
  · obtain rfl := Except.error.inj (failed.symm.trans failed')
    obtain ⟨text, rfl⟩ := fails.cause
    rfl

/-- The text in front of a failure is cut into the pieces in front of it. -/
theorem FailsBehind.spelled_front {source : String} {cause : ParseError} {gap : List Char}
    (fails : FailsBehind source cause pieces gap rest) :
    SpelledBy (String.ofList (spell pieces gap)) pieces gap :=
  ⟨String.toList_ofList, fails.partition.of_covers (.of_shorter (List.prefix_append gap rest)),
    fails.blank⟩

/-- **Words with blanks between them.**

A text has tokens just if it is nothing but words with blanks around them, each word the longest one
that the text goes on with, and then these are the tokens of the words, at the offsets at which the
words start, up to the end of the text.  Further blanks between the words, in front of them or behind
them do not change the tokens.  And where a text has no tokens, the text in front of the place at
which it fails has those that were found. -/
theorem sequence_partition (source : String) :
    (∀ sequence, Token.sequence source = .ok sequence ↔ ∃ pieces last,
      SpelledBy source pieces last ∧ sequence = ⟨place 0 pieces, source.utf8ByteSize⟩) ∧
    (∀ pieces last, SpelledBy source pieces last → ∀ source' pieces' last',
      List.Forall₂ Piece.Widens pieces pieces' → AllBlank last' →
      source'.toList = spell pieces' last' →
      ∃ sequence sequence', Token.sequence source = .ok sequence ∧
        Token.sequence source' = .ok sequence' ∧
        sequence'.lexemes.map Lexeme.token = sequence.lexemes.map Lexeme.token) ∧
    ∀ cause, Token.sequence source = .error cause → ∃ pieces gap rest,
      FailsBehind source cause pieces gap rest ∧
      ∃ front back, source = front ++ back ∧ front.utf8ByteSize = bytes (spell pieces gap) ∧
        Token.sequence front = .ok ⟨place 0 pieces, front.utf8ByteSize⟩ := by
  refine ⟨fun sequence => ⟨exists_spelled, ?_⟩, ?_, ?_⟩
  · rintro ⟨pieces, last, spelled, rfl⟩
    exact spelled.sequence_eq
  · intro pieces last spelled source' pieces' last' wider blank text
    have covers : Covers last last' := by
      cases last' with
      | nil => exact .of_shorter List.nil_prefix
      | cons first tail =>
          exact covers_of_first (separates_of_isTokenBlank (blank first (.head _))) last tail
    have spelled' : SpelledBy source' pieces' last' :=
      ⟨text, spelled.partition.widen wider covers, blank⟩
    refine ⟨_, _, spelled.sequence_eq, spelled'.sequence_eq, ?_⟩
    rw [map_token_place, map_token_place, map_token_of_widens wider]
  · intro cause failed
    rcases spelled_or_fails source with ⟨_, _, spelled⟩ | ⟨cause', pieces, gap, rest, failed', fails⟩
    · cases failed.symm.trans spelled.sequence_eq
    obtain rfl : cause = cause' := Except.error.inj (failed.symm.trans failed')
    refine ⟨pieces, gap, rest, fails, String.ofList (spell pieces gap), String.ofList rest, ?_, ?_,
      fails.spelled_front.sequence_eq⟩
    · rw [← String.ofList_append, ← spell_rest, ← fails.text, String.ofList_toList]
    · rw [utf8ByteSize_eq_bytes, String.toList_ofList]

/-- The words of `1e+<=x`, of which the first two look like the start of a number. -/
def exponentPieces : List Piece :=
  [⟨[], ['1'], .int 1⟩, ⟨[], ['e'], .identifier "e"⟩, ⟨[], ['+'], .operator .add⟩,
    ⟨[], ['<', '='], .operator .lessEqual⟩, ⟨[], ['x'], .identifier "x"⟩]

/-- The same words with blanks between them. -/
def spacedPieces : List Piece :=
  [⟨[' '], ['1'], .int 1⟩, ⟨['\t'], ['e'], .identifier "e"⟩, ⟨[' ', '\n'], ['+'], .operator .add⟩,
    ⟨['\r'], ['<', '='], .operator .lessEqual⟩, ⟨['\x0c'], ['x'], .identifier "x"⟩]

/-- These words have the same tokens with blanks and without, and a stray character behind the third
one leaves the first three. -/
theorem sequence_partition_exponent :
    SpelledBy "1e+<=x" exponentPieces [] ∧
    List.Forall₂ Piece.Widens exponentPieces spacedPieces ∧
    (∃ sequence sequence', Token.sequence "1e+<=x" = .ok sequence ∧
      Token.sequence " 1\te \n+\r<=\x0cx " = .ok sequence' ∧
      sequence'.lexemes.map Lexeme.token = sequence.lexemes.map Lexeme.token) ∧
    Token.sequence "1e+$" = .error (.unrecognised "$" 3) ∧
    ∃ pieces gap rest, FailsBehind "1e+$" (.unrecognised "$" 3) pieces gap rest ∧
      ∃ front back, "1e+$" = front ++ back ∧ front.utf8ByteSize = bytes (spell pieces gap) ∧
        Token.sequence front = .ok ⟨place 0 pieces, front.utf8ByteSize⟩ := by
  have spelled : SpelledBy "1e+<=x" exponentPieces [] := by
    refine ⟨rfl, ?_, nofun⟩
    exact .scanned nofun rfl (.scanned nofun rfl (.scanned nofun rfl (.scanned nofun rfl
      (.scanned nofun rfl (.none [])))))
  have wider : List.Forall₂ Piece.Widens exponentPieces spacedPieces := by
    have widens (blanks word : List Char) (token : Token) (blank : AllBlank blanks) :
        Piece.Widens ⟨[], word, token⟩ ⟨blanks, word, token⟩ :=
      ⟨List.nil_sublist blanks, blank, rfl, rfl⟩
    exact .cons (widens _ _ _ (by decide)) (.cons (widens _ _ _ (by decide))
      (.cons (widens _ _ _ (by decide)) (.cons (widens _ _ _ (by decide))
        (.cons (widens _ _ _ (by decide)) .nil))))
  have fails : Token.sequence "1e+$" = .error (.unrecognised "$" 3) := by cbv
  exact ⟨spelled, wider,
    (sequence_partition "1e+<=x").2.1 exponentPieces [] spelled " 1\te \n+\r<=\x0cx " spacedPieces
      [' '] wider (by decide) rfl,
    fails, (sequence_partition "1e+$").2.2 _ fails⟩

end CommentDirectives.Token
