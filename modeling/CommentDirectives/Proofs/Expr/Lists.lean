import CommentDirectives.Proofs.Expr.Parentheses
import CommentDirectives.Proofs.Expr.Recognition
import CommentDirectives.Proofs.Token.Partition

/-!
# Lists of expressions

A list is read as its items are read one by one: it is the texts of the items with commas between
them, and the trees are those of the texts, with the offsets counted from the start of the list
(`parseList_parts`).

Both halves rest on how tokens stand to their text.  A comma is a word wherever it stands between
words, so that the tokens of joined texts are those of the texts with commas between them
(`SpelledBy.join`), and a text is cut in two at any of its commas that is a token
(`SpelledBy.split`).  And the grammar does not look at offsets: a tree is one of the same tokens at
other places, with its own offsets changed in the same way (`Derives.mapOffsets`).
-/

namespace CommentDirectives

set_option autoImplicit false

/-! ## Other offsets -/

/-- A token with another offset. -/
def Lexeme.mapOffset (change : Nat → Nat) (lexeme : Lexeme) : Lexeme :=
  ⟨lexeme.token, change lexeme.offset⟩

mutual
/-- An expression with other offsets. -/
def Expr.mapOffsets (change : Nat → Nat) : Expr → Expr
  | .literal value offset => .literal value (change offset)
  | .variable name offset => .variable name (change offset)
  | .unary operator operand offset => .unary operator (operand.mapOffsets change) (change offset)
  | .binary operator left right offset =>
    .binary operator (left.mapOffsets change) (right.mapOffsets change) (change offset)
  | .call function arguments offset =>
    .call function (Expr.mapAllOffsets change arguments) (change offset)

/-- Some expressions with other offsets. -/
def Expr.mapAllOffsets (change : Nat → Nat) : List Expr → List Expr
  | [] => []
  | first :: rest => first.mapOffsets change :: Expr.mapAllOffsets change rest
end

/-- An expression whose text starts at an offset of a longer one. -/
def Expr.shift (start : Nat) (expr : Expr) : Expr := expr.mapOffsets (start + ·)

theorem Expr.mapAllOffsets_eq_map (change : Nat → Nat) (exprs : List Expr) :
    mapAllOffsets change exprs = exprs.map (mapOffsets change) := by
  induction exprs with
  | nil => rfl
  | cons first rest ih => rw [mapAllOffsets, ih, List.map_cons]

namespace Token

/-- The tokens of pieces that start elsewhere. -/
theorem place_add (start offset : Nat) (pieces : List Piece) :
    place (start + offset) pieces = (place offset pieces).map (Lexeme.mapOffset (start + ·)) := by
  induction pieces generalizing offset with
  | nil => rfl
  | cons piece pieces ih =>
      rw [place, place, List.map_cons, Lexeme.mapOffset, ← ih, Nat.add_assoc, Nat.add_assoc,
        Nat.add_assoc]

theorem place_sub (start : Nat) (pieces : List Piece) :
    (place start pieces).map (Lexeme.mapOffset (· - start)) = place 0 pieces := by
  have back : Lexeme.mapOffset (· - start) ∘ Lexeme.mapOffset (start + ·) = id := by
    funext lexeme
    simp [Lexeme.mapOffset]
  have moved := place_add start 0 pieces
  rw [Nat.add_zero] at moved
  rw [moved, List.map_map, back, List.map_id]

end Token

namespace Grammar

open CommentDirectives.Expr

/-- Some tokens and their tree with other offsets. -/
def mapPart (change : Nat → Nat) (part : List Lexeme × Expr) : List Lexeme × Expr :=
  (part.1.map (Lexeme.mapOffset change), part.2.mapOffsets change)

theorem map_fst_mapPart (change : Nat → Nat) (parts : List (List Lexeme × Expr)) :
    (parts.map (mapPart change)).map Prod.fst =
      (parts.map Prod.fst).map (List.map (Lexeme.mapOffset change)) := by
  rw [List.map_map, List.map_map]
  rfl

theorem map_snd_mapPart (change : Nat → Nat) (parts : List (List Lexeme × Expr)) :
    (parts.map (mapPart change)).map Prod.snd = mapAllOffsets change (parts.map Prod.snd) := by
  rw [mapAllOffsets_eq_map, List.map_map, List.map_map]
  rfl

theorem Separated.map {parts : List (List Lexeme)} {lexemes : List Lexeme} (change : Nat → Nat)
    (separated : Separated parts lexemes) :
    Separated (parts.map (List.map (Lexeme.mapOffset change)))
      (lexemes.map (Lexeme.mapOffset change)) := by
  induction separated with
  | none => exact .none
  | one part => exact .one _
  | more part offset _ ih =>
      rw [List.map_append, List.map_cons]
      exact .more _ (change offset) ih

/-- **The grammar does not look at offsets.** -/
theorem Derives.mapOffsets {layer : Nat} {lexemes : List Lexeme} {expr : Expr} (change : Nat → Nat)
    (derives : Derives layer lexemes expr) :
    Derives layer (lexemes.map (Lexeme.mapOffset change)) (expr.mapOffsets change) := by
  induction derives with
  | looser _ ih => exact ih.looser
  | binary offset inTier member _ _ left right =>
      rw [List.map_append, List.map_cons]
      exact .binary (change offset) inTier member left right
  | unary operator offset _ ih => exact .unary operator (change offset) ih
  | literal value offset => exact .literal value (change offset)
  | «variable» name offset => exact .variable name (change offset)
  | @call builtin name offset opened closed parts lexemes same accepted separated _ ih =>
      have separated' := Separated.map change separated
      rw [← map_fst_mapPart] at separated'
      have accepted' : builtin.arity.accepts (parts.map (mapPart change)).length = true := by
        rw [List.length_map]
        exact accepted
      have each : ∀ part ∈ parts.map (mapPart change), Derives 0 part.1 part.2 := by
        intro part member
        obtain ⟨part, isPart, rfl⟩ := List.mem_map.mp member
        exact ih part isPart
      have call := Derives.call builtin (change offset) (change opened) (change closed) same
        accepted' separated' each
      rw [map_snd_mapPart] at call
      rw [List.map_cons, List.map_cons, List.map_append]
      exact call
  | group opened closed _ ih =>
      rw [List.map_cons, List.map_append]
      exact .group (change opened) (change closed) ih

/-- The grammar has one tree at most for some tokens. -/
theorem Derives.unique {lexemes : List Lexeme} {expr expr' : Expr}
    (derives : Derives 0 lexemes expr) (derives' : Derives 0 lexemes expr') : expr = expr' := by
  have reads {expr : Expr} (derives : Derives 0 lexemes expr) :
      ReadsExpression 0 (lexemes ++ []) expr [] :=
    readsExpression_of_chain (chain_of_derives derives) rfl
  obtain ⟨read, succeeds, same, -⟩ := reads derives
  obtain ⟨read', succeeds', same', -⟩ := reads derives'
  rw [← same, ← same', Except.ok.inj (succeeds.symm.trans succeeds')]

end Grammar

/-! ## Texts joined by commas -/

namespace Token

variable {source source' : String} {pieces pieces' : List Piece} {last last' : List Char}

/-- Only one word is a comma. -/
theorem Written.word_of_comma {word : List Char} (written : Written word (some .comma)) :
    word = [','] := by
  generalize same : some Token.comma = value at written
  cases written with
  | fractional | exponential | hexadecimal | decimal | string =>
      obtain ⟨_, _, other⟩ := Option.map_eq_some_iff.mp same.symm
      cases other
  | truth | name => cases same
  | symbol =>
      obtain rfl := Option.some.inj same
      rfl

theorem scan_comma (rest : List Char) : scan ',' rest = .token .comma [','] := by
  cases rest <;> rfl

/-- **The tokens of two texts with a comma between them.** -/
theorem SpelledBy.join (first : SpelledBy source pieces last)
    (second : SpelledBy source' pieces' last') :
    SpelledBy (source ++ "," ++ source') (pieces ++ ⟨last, [','], .comma⟩ :: pieces') last' := by
  refine ⟨?_, ?_, second.blank⟩
  · rw [String.toList_append, String.toList_append, first.text, second.text, spell_append, spell,
      spell_rest, List.append_assoc]
    rfl
  · refine Partition.append ?_ (.scanned first.blank (scan_comma _) second.partition)
    exact first.partition.of_covers (covers_separated rfl _ _)

theorem SpelledBy.place_join (first : SpelledBy source pieces last) (start : Nat)
    (pieces' : List Piece) :
    place start (pieces ++ ⟨last, [','], .comma⟩ :: pieces') = place start pieces ++
      ⟨.comma, start + source.utf8ByteSize⟩ :: place (start + source.utf8ByteSize + 1) pieces' := by
  have size : source.utf8ByteSize = bytes (spell pieces []) + bytes last := by
    rw [utf8ByteSize_eq_bytes, first.text, ← bytes_append, ← spell_rest, List.nil_append]
  rw [place_append, place, size, Nat.add_assoc]
  rfl

/-- **A text is cut in two at a comma.** -/
theorem SpelledBy.split {piece : Piece} (isComma : piece.token = .comma)
    (spelled : SpelledBy source (pieces ++ piece :: pieces') last) :
    ∃ front back, source = front ++ "," ++ back ∧ SpelledBy front pieces piece.gap ∧
      SpelledBy back pieces' last ∧ piece = ⟨piece.gap, [','], .comma⟩ := by
  obtain ⟨partition, others⟩ := spelled.partition.of_append
  obtain ⟨gap, word, token⟩ := piece
  obtain rfl : token = .comma := isComma
  cases others with
  | piece blank longest written partition' =>
      obtain rfl : word = [','] := written.word_of_comma
      refine ⟨String.ofList (spell pieces gap), String.ofList (spell pieces' last), ?_, ?_, ?_, rfl⟩
      · apply String.toList_inj.mp
        have comma : ",".toList = [','] := rfl
        rw [spelled.text, spell_append, spell, spell_rest]
        simp only [String.toList_append, String.toList_ofList, comma, List.append_assoc]
      · exact ⟨String.toList_ofList, partition.of_covers (.of_shorter (List.prefix_append gap _)),
          blank⟩
      · exact ⟨String.toList_ofList, partition', spelled.blank⟩

/-- Each token is that of a piece. -/
theorem exists_piece {start : Nat} {front back : List Lexeme} {lexeme : Lexeme}
    (placed : place start pieces = front ++ lexeme :: back) :
    ∃ pieces₁ piece pieces₂, pieces = pieces₁ ++ piece :: pieces₂ ∧
      place start pieces₁ = front ∧ piece.token = lexeme.token := by
  induction front generalizing start pieces with
  | nil =>
      cases pieces with
      | nil => cases placed
      | cons piece pieces =>
          obtain ⟨rfl, -⟩ := List.cons.inj placed
          exact ⟨[], piece, pieces, rfl, rfl, rfl⟩
  | cons first front ih =>
      cases pieces with
      | nil => cases placed
      | cons piece pieces =>
          obtain ⟨rfl, onward⟩ := List.cons.inj placed
          obtain ⟨pieces₁, other, pieces₂, rfl, same, token⟩ := ih onward
          exact ⟨piece :: pieces₁, other, pieces₂, rfl, by rw [place, same], token⟩

end Token

/-! ## Lists and their parts -/

namespace Expr

open Grammar Token

/-- Some texts with commas between them. -/
def joined (parts : List (String × Expr)) : String := ",".intercalate (parts.map Prod.fst)

/-- The trees of texts with commas between them, each shifted to where its text starts. -/
def placed (start : Nat) : List (String × Expr) → List Expr
  | [] => []
  | part :: rest => part.2.shift start :: placed (start + part.1.utf8ByteSize + 1) rest

/-- A comma at an offset of a text is a token and stands in no parentheses. -/
def IsSeparator (source : String) (offset : Nat) : Prop :=
  ∃ sequence before behind, Token.sequence source = .ok sequence ∧
    sequence.lexemes = before ++ ⟨.comma, offset⟩ :: behind ∧ Balanced before

variable {source : String} {parts front back : List (String × Expr)}

theorem joined_cons (part next : String × Expr) (rest : List (String × Expr)) :
    joined (part :: next :: rest) = part.1 ++ "," ++ joined (next :: rest) := by
  rw [joined, List.map_cons, List.map_cons, String.intercalate_cons_cons, joined, List.map_cons]

theorem joined_append (someFront : front ≠ []) (someBack : back ≠ []) :
    joined (front ++ back) = joined front ++ "," ++ joined back := by
  induction front with
  | nil => exact absurd rfl someFront
  | cons part front ih =>
      cases front with
      | nil =>
          obtain ⟨next, back, rfl⟩ := List.exists_cons_of_ne_nil someBack
          rw [List.singleton_append, joined_cons]
          rfl
      | cons next front =>
          rw [List.cons_append, List.cons_append, joined_cons, ← List.cons_append,
            ih (List.cons_ne_nil _ _), joined_cons]
          simp only [String.append_assoc]

/-- An expression is read off the words of its text. -/
theorem parse_eq_ok_iff_spelled {expr : Expr} : parse source = .ok expr ↔
    ∃ pieces last, SpelledBy source pieces last ∧ Derives 0 (place 0 pieces) expr := by
  rw [parse_eq_ok]
  constructor
  · rintro ⟨sequence, cut, derives⟩
    obtain ⟨pieces, last, spelled, rfl⟩ := exists_spelled cut
    exact ⟨pieces, last, spelled, derives⟩
  · rintro ⟨pieces, last, spelled, derives⟩
    exact ⟨_, spelled.sequence_eq, derives⟩

/-- A tree for the tokens of a text is one for those of the text further behind. -/
theorem derives_shift {pieces : List Piece} {expr : Expr} (start : Nat)
    (derives : Derives 0 (place 0 pieces) expr) :
    Derives 0 (place start pieces) (expr.shift start) := by
  have moved := derives.mapOffsets (start + ·)
  rwa [← place_add, Nat.add_zero] at moved

/-- A tree for the tokens of a text further behind is the one that is read off the text, since there
is no other. -/
theorem exists_unshifted {pieces : List Piece} {last : List Char} {item : Expr} {start : Nat}
    (spelled : SpelledBy source pieces last) (derives : Derives 0 (place start pieces) item) :
    ∃ expr, parse source = .ok expr ∧ expr.shift start = item := by
  have moved := derives.mapOffsets (· - start)
  rw [place_sub] at moved
  exact ⟨_, parse_eq_ok_iff_spelled.mpr ⟨pieces, last, spelled, moved⟩,
    (derives_shift start moved).unique derives⟩

theorem DerivesItems.balanced {lexemes : List Lexeme} {items : List Expr}
    (list : DerivesItems lexemes items) : Balanced lexemes := by
  obtain ⟨parts, separated, each, -⟩ := list
  refine .of_separated separated fun part member => ?_
  obtain ⟨pair, isPart, rfl⟩ := List.mem_map.mp member
  exact .of_derives (each pair isPart)

/-- The items of a list: one, or one and others behind a comma. -/
theorem DerivesItems.cases_cons {lexemes : List Lexeme} {item : Expr} {items : List Expr}
    (list : DerivesItems lexemes (item :: items)) :
    (Derives 0 lexemes item ∧ items = []) ∨ ∃ taken offset others, Derives 0 taken item ∧
      lexemes = taken ++ ⟨.comma, offset⟩ :: others ∧ DerivesItems others items ∧ items ≠ [] := by
  obtain ⟨parts, separated, each, same⟩ := list
  match parts with
  | [] => cases same
  | [part] =>
      cases separated
      obtain ⟨rfl, rfl⟩ := List.cons.inj same
      exact .inl ⟨each part (.head _), rfl⟩
  | part :: next :: parts =>
      obtain ⟨rfl, rfl⟩ := List.cons.inj same
      cases separated with
      | more _ offset separated =>
          exact .inr ⟨_, offset, _, each part (.head _), rfl,
            ⟨next :: parts, separated, fun other member => each other (.tail _ member), rfl⟩, nofun⟩

/-- **Joined texts are read one by one.** -/
theorem spelled_joined (present : parts ≠ [])
    (each : ∀ part ∈ parts, parse part.1 = .ok part.2) :
    ∃ pieces last, SpelledBy (joined parts) pieces last ∧
      ∀ start, DerivesItems (place start pieces) (placed start parts) := by
  induction parts with
  | nil => exact absurd rfl present
  | cons part parts ih =>
      obtain ⟨pieces, last, spelled, derives⟩ := parse_eq_ok_iff_spelled.mp (each part (.head _))
      cases parts with
      | nil => exact ⟨pieces, last, spelled, fun start => .one (derives_shift start derives)⟩
      | cons next parts =>
          obtain ⟨pieces', last', spelled', list⟩ := ih (List.cons_ne_nil _ _)
            fun other member => each other (.tail _ member)
          refine ⟨_, last', joined_cons part next parts ▸ spelled.join spelled', fun start => ?_⟩
          rw [spelled.place_join, placed]
          exact .more (derives_shift start derives) _ (list _) (List.cons_ne_nil _ _)

/-- Joined texts are split where they are joined. -/
theorem isSeparator_joined (someFront : front ≠ []) (someBack : back ≠ [])
    (each : ∀ part ∈ front ++ back, parse part.1 = .ok part.2) :
    IsSeparator (joined (front ++ back)) (joined front).utf8ByteSize := by
  obtain ⟨pieces, last, spelled, list⟩ :=
    spelled_joined someFront fun part member => each part (List.mem_append_left back member)
  obtain ⟨pieces', last', spelled', -⟩ :=
    spelled_joined someBack fun part member => each part (List.mem_append_right front member)
  rw [joined_append someFront someBack]
  refine ⟨_, place 0 pieces, place ((joined front).utf8ByteSize + 1) pieces',
    (spelled.join spelled').sequence_eq, ?_, (list 0).balanced⟩
  have placed := spelled.place_join 0 pieces'
  rwa [Nat.zero_add] at placed

/-- **The items of a list are read off parts of its text.** -/
theorem exists_joined {items : List Expr} (present : items ≠ []) {pieces : List Piece}
    {last : List Char} (spelled : SpelledBy source pieces last) {start : Nat}
    (list : DerivesItems (place start pieces) items) :
    ∃ parts, source = joined parts ∧ (∀ part ∈ parts, parse part.1 = .ok part.2) ∧
      placed start parts = items := by
  induction items generalizing source pieces start with
  | nil => exact absurd rfl present
  | cons item items ih =>
      rcases list.cases_cons with
        ⟨derives, rfl⟩ | ⟨taken, offset, others, derives, placed', list', further⟩
      · obtain ⟨expr, succeeds, rfl⟩ := exists_unshifted spelled derives
        refine ⟨[(source, expr)], (String.intercalate_singleton ..).symm, ?_, rfl⟩
        intro part member
        rw [List.mem_singleton.mp member]
        exact succeeds
      · obtain ⟨pieces₁, piece, pieces₂, rfl, rfl, isComma⟩ := exists_piece placed'
        obtain ⟨front, back, rfl, spelled₁, spelled₂, same⟩ := spelled.split isComma
        rw [same, spelled₁.place_join] at placed'
        obtain ⟨-, rfl⟩ := List.cons.inj (List.append_cancel_left placed')
        obtain ⟨expr, succeeds, rfl⟩ := exists_unshifted spelled₁ derives
        obtain ⟨parts, rfl, each, rfl⟩ := ih further spelled₂ list'
        obtain ⟨next, parts, rfl⟩ := List.exists_cons_of_ne_nil fun none =>
          further (congrArg (placed (start + front.utf8ByteSize + 1)) none)
        refine ⟨(front, expr) :: next :: parts, ?_, ?_, rfl⟩
        · rw [joined_cons]
        · intro part member
          rcases List.mem_cons.mp member with rfl | member
          · exact succeeds
          · exact each part member

/-- **A list is read as its items are.**

Texts that are expressions make up a list when they are joined by commas, and its items are their
trees, each shifted to where its text starts.  And every list that is not empty is made up like this:
its text is split by commas that stand in no parentheses and in no text literals into as many texts
as there are items, and each is read as its item, but for the shift. -/
theorem parseList_parts :
    (∀ parts : List (String × Expr), parts ≠ [] → (∀ part ∈ parts, parse part.1 = .ok part.2) →
      parseList (joined parts) = .ok (placed 0 parts)) ∧
    ∀ source items, parseList source = .ok items → items ≠ [] →
      ∃ parts : List (String × Expr), source = joined parts ∧
        (∀ part ∈ parts, parse part.1 = .ok part.2) ∧ items = placed 0 parts ∧
        ∀ front back, parts = front ++ back → front ≠ [] → back ≠ [] →
          IsSeparator source (joined front).utf8ByteSize := by
  constructor
  · intro parts present each
    obtain ⟨pieces, last, spelled, list⟩ := spelled_joined present each
    exact (parseList_eq_ok _ _).mpr ⟨_, spelled.sequence_eq, list 0⟩
  · intro source items succeeds present
    obtain ⟨sequence, cut, list⟩ := (parseList_eq_ok source items).mp succeeds
    obtain ⟨pieces, last, spelled, rfl⟩ := exists_spelled cut
    obtain ⟨parts, rfl, each, rfl⟩ := exists_joined present spelled list
    refine ⟨parts, rfl, each, rfl, ?_⟩
    rintro front back rfl someFront someBack
    exact isSeparator_joined someFront someBack each

/-- A call with a comma between its arguments and one in a text literal, and a negation. -/
def callAndNegation : List (String × Expr) :=
  [("set(1, \",\")", .call "set" [.literal (.int 1) 4, .literal (.string ",") 7] 0),
    (" -x", .unary .negate (.variable "x" 2) 1)]

/-- A list of two items with three commas, of which one separates the items. -/
theorem parseList_parts_callAndNegation :
    (∀ part ∈ callAndNegation, parse part.1 = .ok part.2) ∧
    joined callAndNegation = "set(1, \",\"), -x" ∧
    parseList (joined callAndNegation) = .ok (placed 0 callAndNegation) ∧
    ∃ parts : List (String × Expr), "set(1, \",\"), -x" = joined parts ∧
      (∀ part ∈ parts, parse part.1 = .ok part.2) ∧
      placed 0 callAndNegation = placed 0 parts ∧
      ∀ front back, parts = front ++ back → front ≠ [] → back ≠ [] →
        IsSeparator "set(1, \",\"), -x" (joined front).utf8ByteSize := by
  have call : parse "set(1, \",\")" =
      .ok (.call "set" [.literal (.int 1) 4, .literal (.string ",") 7] 0) := by cbv
  have negation : parse " -x" = .ok (.unary .negate (.variable "x" 2) 1) := by cbv
  have each : ∀ part ∈ callAndNegation, parse part.1 = .ok part.2 :=
    List.forall_mem_cons.mpr ⟨call, List.forall_mem_singleton.mpr negation⟩
  have text : joined callAndNegation = "set(1, \",\"), -x" := by cbv
  have read := parseList_parts.1 callAndNegation (List.cons_ne_nil _ _) each
  exact ⟨each, text, read,
    parseList_parts.2 _ _ (text ▸ read) (List.cons_ne_nil _ _)⟩

end Expr

end CommentDirectives
