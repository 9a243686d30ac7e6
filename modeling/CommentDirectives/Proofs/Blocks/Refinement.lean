import CommentDirectives.Proofs.Blocks.Document

/-!
# Blocks mean what they look like

The reading of a file decides line by line, with one frame for each open block,
whether lines count.  Read in this way, the lines of a document do to a session
what the interpretation of the document does, which follows the structure of the
blocks and knows no frames (`Document.processText_alike`).

The proof goes along the document.  Where lines do not count, a whole document or
the rest of a block is skipped, and the frames behind it are those in front of it
(`skips_document`, `skips_branches`).  Where lines count, a document is followed as
it is interpreted (`follows_document`), and so are the branches of a block in which
no branch was taken so far (`follows_branches`).
-/

namespace CommentDirectives

set_option autoImplicit false

/-- A branch behind one that was taken is left out. -/
theorem Nesting.BranchState.afterElse_of_taken {state : BranchState}
    (taken : state ≠ .awaitingBranch) : Nesting.BranchState.afterElse state = .branchTaken := by
  cases state with
  | active | branchTaken => rfl
  | awaitingBranch => exact absurd rfl taken

/-! ## Runs that follow an interpretation -/

/-- A session of a run under some open blocks, which is alike to a session of an interpretation,
where no block is open. -/
abbrev Session.Mirrors (nesting : Nesting) (session session' : Session) : Prop :=
  AlikeWith (fun here there => here = nesting ∧ there = Nesting.empty) session session'

namespace Session.Mirrors

/-- The open blocks of a session that mirrors another. -/
theorem frames {frames : List Frame} {session session' : Session}
    (mirrors : session.Mirrors ⟨frames⟩ session') : session.nesting.frames = frames :=
  congrArg Nesting.frames mirrors.nesting.1

/-- Lines count by the open blocks. -/
theorem isActive {nesting : Nesting} {session session' : Session}
    (mirrors : session.Mirrors nesting session') : session.isActive = nesting.isActive :=
  congrArg Nesting.isActive mirrors.nesting.1

/-- An open block is one of the only file. -/
theorem own {frame : Frame} {outer : List Frame} {session session' : Session}
    (mirrors : session.Mirrors ⟨frame :: outer⟩ session') : 0 < session.nesting.depth := by
  rw [Nesting.depth, mirrors.frames]
  exact Nat.succ_pos _

/-- A session of a run is alike to a session of an interpretation if its predecessor is, but for
the blocks that were changed. -/
theorem of_onlyNests {nesting nesting' : Nesting} {session session' : Session}
    {context : LineContext} {line : List Char} (mirrors : session.Mirrors nesting session')
    (nests : session.OnlyNests context line nesting') :
    ∃ after : Session, after.Mirrors nesting' (session'.skip context.config) ∧
      session.processLine context line = (after, .ok .next) := by
  obtain ⟨after, skipped, blocks, outcome⟩ := nests
  have alike := mirrors.skip context.config
  exact ⟨after, { toAlike := skipped.trans alike.toAlike, nesting := ⟨blocks, alike.nesting.2⟩ },
    outcome⟩

end Session.Mirrors

/-- A run that does what an interpretation says and then goes on with some lines, under some open
blocks. -/
def Follows (config : Config) (tree : FileTree) (path : String) (nesting : Nesting) (number : Nat)
    (rest : List (List Char)) (processing : Processing) : Interpretation → Prop
  | (session, some failure) => ∃ last : Processing,
    processing.run config tree = (last, .failed failure) ∧ last.session.Alike session
  | (session, none) => ∃ reached : Session, reached.Mirrors nesting session ∧
    processing.run config tree = Processing.run config tree ⟨[⟨path, number, rest, 0⟩], reached⟩

namespace Follows

variable {config : Config} {tree : FileTree} {path : String} {nesting nesting' : Nesting}
  {number number' : Nat} {rest rest' : List (List Char)} {processing earlier : Processing}

/-- A run of a state whose run goes on as that of another state. -/
theorem of_run_eq {interpretation : Interpretation}
    (same : earlier.run config tree = processing.run config tree)
    (follows : Follows config tree path nesting number rest processing interpretation) :
    Follows config tree path nesting number rest earlier interpretation := by
  obtain ⟨session, failure⟩ := interpretation
  cases failure with
  | some failure =>
      obtain ⟨last, ran, alike⟩ := follows
      exact ⟨last, same.trans ran, alike⟩
  | none =>
      obtain ⟨reached, mirrors, ran⟩ := follows
      exact ⟨reached, mirrors, same.trans ran⟩

/-- A run that has nothing to do any more. -/
theorem here {session session' : Session} (mirrors : session.Mirrors nesting session') :
    Follows config tree path nesting number rest ⟨[⟨path, number, rest, 0⟩], session⟩
      (session', none) :=
  ⟨session, mirrors, rfl⟩

/-- A run that follows an interpretation and then another. -/
theorem andThen {first : Interpretation} {next : Session → Interpretation}
    (follows : Follows config tree path nesting number rest processing first)
    (onward : ∀ reached session : Session, reached.Mirrors nesting session →
      Follows config tree path nesting' number' rest' ⟨[⟨path, number, rest, 0⟩], reached⟩
        (next session)) :
    Follows config tree path nesting' number' rest' processing (first.andThen next) := by
  obtain ⟨session, failure⟩ := first
  cases failure with
  | some failure => exact follows
  | none =>
      obtain ⟨reached, mirrors, ran⟩ := follows
      exact of_run_eq ran (onward reached session mirrors)

/-- A run that follows an interpretation behind lines that are done. -/
theorem behind {session : Session} {interpretation : Interpretation}
    (follows : Follows config tree path nesting number rest processing (session, none))
    (onward : ∀ reached : Session, reached.Mirrors nesting session →
      Follows config tree path nesting' number' rest' ⟨[⟨path, number, rest, 0⟩], reached⟩
        interpretation) :
    Follows config tree path nesting' number' rest' processing interpretation := by
  obtain ⟨reached, mirrors, ran⟩ := follows
  exact of_run_eq ran (onward reached mirrors)

/-- A run over a line that changes nothing but the open blocks. -/
theorem of_onlyNests {session session' : Session} {line : List Char}
    (mirrors : session.Mirrors nesting session')
    (nests : session.OnlyNests ⟨config, Processing.lineLocation path number line, 0⟩ line
      nesting') :
    Follows config tree path nesting' (number + 1) rest
      ⟨[⟨path, number, line :: rest, 0⟩], session⟩ (session'.skip config, none) := by
  obtain ⟨after, mirrorsBehind, outcome⟩ := mirrors.of_onlyNests nests
  exact ⟨after, mirrorsBehind, Processing.run_of_next outcome⟩

/-- A run over the closing line of a block. -/
theorem of_closing {session session' : Session} {frame : Frame} {outer : List Frame}
    (mirrors : session.Mirrors ⟨frame :: outer⟩ session')
    (closing : BareLine config.allowBlanks .close) :
    Follows config tree path ⟨outer⟩ (number + 1) rest
      ⟨[⟨path, number, closing.line :: rest, 0⟩], session⟩ (session'.skip config, none) :=
  of_onlyNests mirrors
    (Session.onlyNests_of_close mirrors.frames mirrors.own closing.form closing.bare)

/-- A run over a line that fails. -/
theorem of_failure {session session' after : Session} {line : List Char} {cause : LineError}
    (alike : after.Alike session')
    (fails : session.processLine ⟨config, Processing.lineLocation path number line, 0⟩ line =
      (after, .error cause)) :
    Follows config tree path nesting number' rest' ⟨[⟨path, number, line :: rest, 0⟩], session⟩
      (session', some (.line (Processing.lineLocation path number line) cause)) :=
  ⟨_, Processing.run_of_error fails, alike⟩

end Follows

variable {config : Config} {tree : FileTree} {path : String}

/-! ## Numbers of lines -/

section Length

variable {allowBlanks : Bool}

theorem Document.length_lines_line (ordinary : OrdinaryLine allowBlanks)
    (remaining : Document allowBlanks) (number : Nat) :
    number + (Document.line ordinary remaining).lines.length =
      number + 1 + remaining.lines.length := by
  simp only [Document.lines, List.length_cons]
  omega

theorem Document.length_lines_block (opening : OpeningLine allowBlanks)
    (body : Document allowBlanks) (branches : Branches allowBlanks)
    (remaining : Document allowBlanks) (number : Nat) :
    number + (Document.block opening body branches remaining).lines.length =
      number + 1 + body.lines.length + branches.lines.length + remaining.lines.length := by
  simp only [Document.lines, List.length_cons, List.length_append]
  omega

theorem Branches.length_lines_otherwise (starting : BareLine allowBlanks .otherwise)
    (body : Document allowBlanks) (closing : BareLine allowBlanks .close) (number : Nat) :
    number + (Branches.otherwise starting body closing).lines.length =
      number + 1 + body.lines.length + 1 := by
  simp only [Branches.lines, List.length_cons, List.length_append, List.length_nil]
  omega

theorem Branches.length_lines_elseIf (starting : AlternativeLine allowBlanks)
    (body : Document allowBlanks) (others : Branches allowBlanks) (number : Nat) :
    number + (Branches.elseIf starting body others).lines.length =
      number + 1 + body.lines.length + others.lines.length := by
  simp only [Branches.lines, List.length_cons, List.length_append]
  omega

end Length

/-! ## Where lines do not count -/

mutual
/-- Where lines do not count, a document is skipped. -/
theorem skips_document : ∀ (document : Document config.allowBlanks) {nesting : Nesting}
    {session session' : Session} (number : Nat) (rest : List (List Char)),
    session.Mirrors nesting session' → nesting.isActive = false →
      Follows config tree path nesting (number + document.lines.length) rest
        ⟨[⟨path, number, document.lines ++ rest, 0⟩], session⟩
        (session'.skipLines config document.lines.length, none)
  | .empty, _, _, _, _, _, mirrors, _ => Follows.here mirrors
  | .line ordinary remaining, nesting, session, session', number, rest, mirrors, suppressed => by
      have inactive : session.isActive = false := mirrors.isActive.trans suppressed
      have skipped : session.OnlyNests
          ⟨config, Processing.lineLocation path number ordinary.line, 0⟩ ordinary.line nesting :=
        ⟨session.skip config, Session.Alike.refl _,
          (Session.nesting_skip session config).trans mirrors.nesting.1,
          Session.processLine_of_inactive inactive
            (LineForm.isConditional_of_isOrdinary ordinary.ordinary)⟩
      rw [Document.length_lines_line]
      simp only [Document.lines, List.length_cons, Session.skipLines_succ]
      refine (Follows.of_onlyNests mirrors skipped).behind fun reached mirrorsBehind => ?_
      exact skips_document remaining (number + 1) rest mirrorsBehind suppressed
  | .block opening body branches remaining, nesting, session, session', number, rest, mirrors,
      suppressed => by
      have inactive : session.isActive = false := mirrors.isActive.trans suppressed
      -- the new block is left out as a whole, so that none of its branches is awaited
      have opens : session.OnlyNests ⟨config, Processing.lineLocation path number opening.line, 0⟩
          opening.line (session.nesting.pushSuppressed _) :=
        Session.onlyNests_of_opening_of_inactive opening.form inactive
      rw [mirrors.nesting.1] at opens
      rw [Document.length_lines_block]
      simp only [Document.lines, List.length_cons, List.length_append, List.cons_append,
        List.append_assoc, Session.skipLines_succ, Session.skipLines_add]
      refine (Follows.of_onlyNests mirrors opens).behind fun inside mirrorsInside => ?_
      refine (skips_document body _ _ mirrorsInside rfl).behind fun reached mirrorsBody => ?_
      refine (skips_branches branches _ _ mirrorsBody nofun rfl).behind
        fun closed mirrorsBlock => ?_
      exact skips_document remaining _ rest mirrorsBlock suppressed

/-- The branches of a block that follow a branch that was taken, or those of a block where lines
do not count, are skipped. -/
theorem skips_branches : ∀ (branches : Branches config.allowBlanks) {frame : Frame}
    {outer : List Frame} {session session' : Session} (number : Nat) (rest : List (List Char)),
    session.Mirrors ⟨frame :: outer⟩ session' → frame.state ≠ .awaitingBranch →
    frame.elseSeen = false →
      Follows config tree path ⟨outer⟩ (number + branches.lines.length) rest
        ⟨[⟨path, number, branches.lines ++ rest, 0⟩], session⟩
        (session'.skipLines config branches.lines.length, none)
  | .close closing, _, _, _, _, _, _, mirrors, _, _ => Follows.of_closing mirrors closing
  | .otherwise starting body closing, frame, outer, session, session', number, rest, mirrors,
      taken, early => by
      have starts : session.OnlyNests ⟨config, Processing.lineLocation path number starting.line, 0⟩
          starting.line ⟨{ frame with state := _, elseSeen := true } :: outer⟩ :=
        Session.onlyNests_of_otherwise mirrors.frames mirrors.own starting.form starting.bare early
      rw [Nesting.BranchState.afterElse_of_taken taken] at starts
      have all : session'.skipLines config (Branches.otherwise starting body closing).lines.length =
          ((session'.skip config).skipLines config body.lines.length).skip config := by
        simp only [Branches.lines, List.length_cons, List.length_append]
        rw [Session.skipLines_succ, Session.skipLines_add]
        rfl
      rw [Branches.length_lines_otherwise, all]
      simp only [Branches.lines, List.cons_append, List.append_assoc, List.nil_append]
      refine (Follows.of_onlyNests mirrors starts).behind fun inside mirrorsInside => ?_
      refine (skips_document body _ _ mirrorsInside rfl).behind fun reached mirrorsBody => ?_
      exact Follows.of_closing mirrorsBody closing
  | .elseIf starting body others, frame, outer, session, session', number, rest, mirrors,
      taken, early => by
      have starts : session.OnlyNests ⟨config, Processing.lineLocation path number starting.line, 0⟩
          starting.line ⟨{ frame with state := .branchTaken } :: outer⟩ :=
        Session.onlyNests_of_alternative_of_taken mirrors.frames mirrors.own starting.form early
          taken
      rw [Branches.length_lines_elseIf]
      simp only [Branches.lines, List.length_cons, List.length_append, List.cons_append,
        List.append_assoc, Session.skipLines_succ, Session.skipLines_add]
      refine (Follows.of_onlyNests mirrors starts).behind fun inside mirrorsInside => ?_
      refine (skips_document body _ _ mirrorsInside rfl).behind fun reached mirrorsBody => ?_
      exact skips_branches others _ rest mirrorsBody nofun early
end

/-! ## Where lines count -/

mutual
/-- Where lines count, a document is followed as it is interpreted. -/
theorem follows_document : ∀ (document : Document config.allowBlanks) {nesting : Nesting}
    {session session' : Session} (number : Nat) (rest : List (List Char)),
    session.Mirrors nesting session' → nesting.isActive = true →
      Follows config tree path nesting (number + document.lines.length) rest
        ⟨[⟨path, number, document.lines ++ rest, 0⟩], session⟩
        (document.interpret config path number session')
  | .empty, _, _, _, _, _, mirrors, _ => Follows.here mirrors
  | .line ordinary remaining, nesting, session, session', number, rest, mirrors, counts => by
      have active : session.isActive = session'.isActive := by
        rw [mirrors.isActive, Session.isActive, mirrors.nesting.2, counts]
        rfl
      obtain ⟨after, after', outcome, ran, ran', mirrorsBehind⟩ :=
        (mirrors.processLine_of_not_conditional config
          (Processing.lineLocation path number ordinary.line) 0 0 active
          (LineForm.isConditional_of_isOrdinary ordinary.ordinary)).parts
      rw [Document.length_lines_line, Document.interpret, ran']
      cases outcome with
      | error cause => exact Follows.of_failure mirrorsBehind.toAlike ran
      | ok flow =>
          obtain rfl := Session.flow_of_ordinary ordinary.ordinary (congrArg Prod.snd ran)
          refine Follows.of_run_eq (Processing.run_of_next ran) ?_
          exact follows_document remaining (number + 1) rest mirrorsBehind counts
  | .block opening body branches remaining, nesting, session, session', number, rest, mirrors,
      counts => by
      have active : session.isActive = true := mirrors.isActive.trans counts
      have answers := (mirrors.skip config).readTest config
        (Processing.lineLocation path number opening.line) 0 0 opening.tail opening.test
      rw [Document.length_lines_block, Document.interpret]
      simp only [Document.lines, List.cons_append, List.append_assoc]
      refine Follows.andThen
        (?_ : Follows config tree path nesting
          (number + 1 + body.lines.length + branches.lines.length) (remaining.lines ++ rest) _ _)
        fun closed session mirrorsBlock => follows_document remaining _ rest mirrorsBlock counts
      rw [← answers]
      -- without an answer the run ends here; otherwise that decides which part is left out
      cases answer : (session.skip config).readTest
          ⟨config, Processing.lineLocation path number opening.line, 0⟩ opening.tail
          opening.test with
      | error cause =>
          obtain ⟨after, alike, fails⟩ : session.OnlyFails
              ⟨config, Processing.lineLocation path number opening.line, 0⟩ opening.line cause :=
            Session.fails_of_opening opening.form active answer
          exact Follows.of_failure (alike.trans (mirrors.skip config).toAlike) fails
      | ok holds =>
          have opens : session.OnlyNests
              ⟨config, Processing.lineLocation path number opening.line, 0⟩ opening.line
              (session.nesting.push holds _) :=
            Session.onlyNests_of_opening_of_active opening.form active answer
          rw [mirrors.nesting.1] at opens
          refine (Follows.of_onlyNests mirrors opens).behind fun inside mirrorsInside => ?_
          cases holds with
          | true =>
              refine (follows_document body _ _ mirrorsInside counts).andThen
                fun reached session mirrorsBody => ?_
              exact skips_branches branches _ _ mirrorsBody nofun rfl
          | false =>
              refine (skips_document body _ _ mirrorsInside rfl).behind
                fun reached mirrorsBody => ?_
              exact follows_branches branches _ _ mirrorsBody rfl rfl counts

/-- Where lines count, the branches of a block in which no branch was taken so far are followed
as they are interpreted. -/
theorem follows_branches : ∀ (branches : Branches config.allowBlanks) {frame : Frame}
    {outer : List Frame} {session session' : Session} (number : Nat) (rest : List (List Char)),
    session.Mirrors ⟨frame :: outer⟩ session' → frame.state = .awaitingBranch →
    frame.elseSeen = false → Nesting.isActive ⟨outer⟩ = true →
      Follows config tree path ⟨outer⟩ (number + branches.lines.length) rest
        ⟨[⟨path, number, branches.lines ++ rest, 0⟩], session⟩
        (branches.interpret config path number session')
  | .close closing, frame, outer, session, session', number, rest, mirrors, _, _, _ => by
      rw [Branches.interpret]
      exact Follows.of_closing mirrors closing
  | .otherwise starting body closing, frame, outer, session, session', number, rest, mirrors,
      awaiting, early, counts => by
      have starts : session.OnlyNests ⟨config, Processing.lineLocation path number starting.line, 0⟩
          starting.line ⟨{ frame with state := _, elseSeen := true } :: outer⟩ :=
        Session.onlyNests_of_otherwise mirrors.frames mirrors.own starting.form starting.bare early
      rw [awaiting] at starts
      rw [Branches.length_lines_otherwise, Branches.interpret]
      simp only [Branches.lines, List.cons_append, List.append_assoc, List.nil_append]
      refine (Follows.of_onlyNests mirrors starts).behind fun inside mirrorsInside => ?_
      refine (follows_document body _ _ mirrorsInside counts).andThen
        fun reached session mirrorsBody => ?_
      exact Follows.of_closing mirrorsBody closing
  | .elseIf starting body others, frame, outer, session, session', number, rest, mirrors,
      awaiting, early, counts => by
      have answers := (mirrors.skip config).readCondition config
        (Processing.lineLocation path number starting.line) 0 0 starting.tail
      rw [Branches.length_lines_elseIf, Branches.interpret, ← answers]
      simp only [Branches.lines, List.cons_append, List.append_assoc]
      cases answer : (session.skip config).readCondition
          ⟨config, Processing.lineLocation path number starting.line, 0⟩ starting.tail with
      | error cause =>
          obtain ⟨after, alike, fails⟩ : session.OnlyFails
              ⟨config, Processing.lineLocation path number starting.line, 0⟩ starting.line cause :=
            Session.fails_of_alternative mirrors.frames mirrors.own starting.form early awaiting
              answer
          exact Follows.of_failure (alike.trans (mirrors.skip config).toAlike) fails
      | ok holds =>
          have starts : session.OnlyNests
              ⟨config, Processing.lineLocation path number starting.line, 0⟩ starting.line
              ⟨{ frame with state := if holds then .active else .awaitingBranch } :: outer⟩ :=
            Session.onlyNests_of_alternative_of_awaiting mirrors.frames mirrors.own starting.form
              early awaiting answer
          refine (Follows.of_onlyNests mirrors starts).behind fun inside mirrorsInside => ?_
          cases holds with
          | true =>
              refine (follows_document body _ _ mirrorsInside counts).andThen
                fun reached session mirrorsBody => ?_
              exact skips_branches others _ rest mirrorsBody nofun early
          | false =>
              refine (skips_document body _ _ mirrorsInside rfl).behind
                fun reached mirrorsBody => ?_
              exact follows_branches others _ rest mirrorsBody rfl early counts
end

/-! ## Whole files -/

/-- **The lines of a document do what their blocks say.**  Whatever blocks a text is made of, to
any depth, reading it line by line gives the same output or fails at the same line for the same
cause as the interpretation of the blocks does, and leaves the same variables, providers and
reports behind. -/
theorem Document.processText_alike (config : Config) (tree : FileTree) (globals : Layer)
    (providers : List Provider) (path text : String) (document : Document config.allowBlanks)
    (written : Text.lines text.toList = document.lines) :
    FileResult.Alike (config.processText tree globals providers path text)
      (document.result config globals providers path text) := by
  have starts : Processing.start globals providers path text =
      ⟨[⟨path, 0, document.lines ++ [], 0⟩], { globals := globals, providers := providers }⟩ := by
    rw [List.append_nil, ← written]
    rfl
  have mirrors : Session.Mirrors Nesting.empty
      { globals := globals, providers := providers }
      { globals := globals, providers := providers } :=
    { toAlike := Session.Alike.refl _, nesting := ⟨rfl, rfl⟩ }
  have follows : Follows config tree path _ _ _ _ _ :=
    follows_document document 0 [] mirrors rfl
  rw [← starts] at follows
  rw [Config.processText, Document.result]
  obtain ⟨⟨session, failure⟩, interpreted⟩ : ∃ interpretation, document.interpret config path 0
    { globals := globals, providers := providers } = interpretation := ⟨_, rfl⟩
  rw [interpreted] at follows ⊢
  cases failure with
  | some failure =>
      obtain ⟨last, ran, alike⟩ := follows
      rw [ran]
      exact FileResult.alike_ofEnding config text alike (.failed failure)
  | none =>
      obtain ⟨reached, mirrorsEnd, ran⟩ := follows
      rw [ran, Processing.run_of_complete rfl mirrorsEnd.nesting.1]
      exact FileResult.alike_ofEnding config text mirrorsEnd.toAlike .complete

/-- A block of two branches, with a block inside the first one whose condition cannot be read. -/
def Document.unreadInside : Document false :=
  .block ⟨"//#ifdef debug".toList, .defined, " debug".toList, by decide⟩
    (.block ⟨"//#if (".toList, .condition, " (".toList, by decide⟩
      (.line ⟨"inside".toList, by decide⟩ .empty)
      (.close ⟨"//#endif".toList, [], by decide, .inl rfl⟩)
      .empty)
    (.otherwise ⟨"//#else".toList, [], by decide, .inl rfl⟩
      (.line ⟨"last".toList, by decide⟩ .empty)
      ⟨"//#endif // debug".toList, " // debug".toList, by decide, .inr (by decide)⟩)
    .empty

/-- The text of `Document.unreadInside`. -/
def Document.unreadInsideText : String :=
  "//#ifdef debug\n//#if (\ninside\n//#endif\n//#else\nlast\n//#endif // debug"

/-- Where the name has no value, the condition inside is not read and the last branch is taken. -/
theorem Document.outcome_unreadInside :
    Text.lines unreadInsideText.toList = unreadInside.lines ∧
      (Config.processText {} (FileTree.empty []) Layer.empty [] "a.txt"
        unreadInsideText).outcome = .ok (.text "last\n") := by
  have written : Text.lines unreadInsideText.toList = unreadInside.lines := by decide
  have alike := Document.processText_alike {} (FileTree.empty []) Layer.empty [] "a.txt"
    unreadInsideText unreadInside written
  have interpreted : (unreadInside.result {} Layer.empty [] "a.txt" unreadInsideText).outcome =
      .ok (.text "last\n") := by cbv
  exact ⟨written, alike.outcome.trans interpreted⟩

end CommentDirectives
