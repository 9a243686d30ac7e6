import CommentDirectives.Proofs.FileTree.Parents
import CommentDirectives.Proofs.Inclusion.Calls
import CommentDirectives.Proofs.Session.Flow

/-!
# Included files are called

The reading of files keeps a list of the files that are open and one stack with the
blocks of all of them.  It gives the same results as the interpreter that calls
itself for each included file and knows the blocks of that file alone
(`Config.processText_alike_interpretText`).

A source cannot tell whether there are blocks of its callers below its own ones as
long as all of them count (`Nesting.above_bisimulation`), and a file is included
only where lines count.  So each line does the same on both sides, and the reading
of an included file returns to its caller with the callers' blocks as they were
(`serves_call`, `returns_readLines`).

The interpreter joins the path of a target to the folder of the source by itself
(`Inclusion.joined`).  Where the joined path leads is told by the places alone: on
from the folder that the source is in, or on from the root (`Inclusion.placeOf_joined`).
-/

namespace CommentDirectives

set_option autoImplicit false

/-! ## Blocks above the blocks of the callers -/

namespace Nesting

/-- The blocks of a source, which stand above those of its callers. -/
def Above (below : List Frame) (here own : Nesting) : Prop :=
  here.frames = own.frames ++ below

section Above

variable {below : List Frame} {here own : Nesting}

/-- The innermost block is one of the source if the source opened any. -/
theorem Above.innermost (above : Above below here own) (opened : below.length < here.depth) :
    ∃ frame outer, own.frames = frame :: outer ∧ here.frames = frame :: (outer ++ below) := by
  cases frames : own.frames with
  | nil =>
      rw [depth, above, frames] at opened
      exact absurd opened (Nat.lt_irrefl _)
  | cons frame outer => exact ⟨frame, outer, rfl, by rw [above, frames, List.cons_append]⟩

/-- **Blocks of callers that count are not seen.** -/
theorem above_bisimulation (counts : isActive ⟨below⟩ = true) :
    Bisimulation (Above below) below.length 0 where
  isActive {here own} above := by
    obtain ⟨frames⟩ := here
    obtain rfl : frames = own.frames ++ below := above
    rw [isActive_append, counts, Bool.and_true]
  depth_le {here own} above := by
    rw [depth, depth, above, List.length_append]
    omega
  push above holds opened _ := by rw [Above, push, push, above, List.cons_append]
  pushSuppressed above opened := by
    rw [Above, pushSuppressed, pushSuppressed, above, List.cons_append]
  wantsCondition above opened := by
    obtain ⟨frame, outer, frames, framesHere⟩ := above.innermost opened
    simp only [wantsCondition, frames, framesHere]
  elif above opened holds := by
    obtain ⟨frame, outer, frames, framesHere⟩ := above.innermost opened
    simp only [elif, frames, framesHere]
    split
    · exact .error _
    · exact .ok rfl
  elseBranch above opened := by
    obtain ⟨frame, outer, frames, framesHere⟩ := above.innermost opened
    simp only [elseBranch, frames, framesHere]
    split
    · exact .error _
    · exact .ok rfl
  pop above opened := by
    obtain ⟨frame, outer, frames, framesHere⟩ := above.innermost opened
    simp only [pop, frames, framesHere]
    exact .ok rfl

/-- What is left when the blocks of a source are dropped. -/
theorem Above.truncate (above : Above below here own) :
    here.truncate below.length = ⟨below⟩ := by
  obtain ⟨frames⟩ := here
  obtain rfl : frames = own.frames ++ below := above
  exact truncate_append own.frames below

end Above

end Nesting

namespace Inclusion

variable {config : Config} {tree : FileTree} {outer : List OpenFile} {below : List Frame}

/-! ## Runs that return -/

/-- A run that reads a source as an interpreter says, and then goes on with the open files that are
left, under the blocks of these. -/
def Returns (config : Config) (tree : FileTree) (outer : List OpenFile) (below : List Frame)
    (processing : Processing) : SourceResult → Prop
  | (session, .failed cause) => ∃ last : Processing,
    processing.run config tree = (last, .failed cause) ∧ last.session.Alike session
  | (session, .excluded) => ∃ last : Processing,
    processing.run config tree = (last, .excluded) ∧ last.session.Alike session
  | (session, .finished unread) => ∃ reached : Session,
    reached.Alike (session.skipLines config (if outer.isEmpty then unread else 0)) ∧
      reached.nesting = ⟨below⟩ ∧
      processing.run config tree = Processing.run config tree ⟨outer, reached⟩

/-- A run of a state whose run goes on as that of another state. -/
theorem Returns.of_run_eq {earlier processing : Processing} {result : SourceResult}
    (same : earlier.run config tree = processing.run config tree)
    (returns : Returns config tree outer below processing result) :
    Returns config tree outer below earlier result := by
  obtain ⟨session, ending⟩ := result
  cases ending with
  | failed cause =>
      obtain ⟨last, ran, alike⟩ := returns
      exact ⟨last, same.trans ran, alike⟩
  | excluded =>
      obtain ⟨last, ran, alike⟩ := returns
      exact ⟨last, same.trans ran, alike⟩
  | finished unread =>
      obtain ⟨reached, alike, blocks, ran⟩ := returns
      exact ⟨reached, alike, blocks, same.trans ran⟩

/-- A call that does what a line does that includes a file, where so many levels are left. -/
def Serves (config : Config) (tree : FileTree) (levels : Nat) (call : Call) : Prop :=
  ∀ (processing : Processing) (file : OpenFile) (outer : List OpenFile) (session session' : Session)
    (location : Location) (target : String),
    outer.length + levels = includeLimit → session.Alike session' → session.isActive = true →
    processing.advance config tree =
      Processing.includeFile tree session location (file :: outer) target →
    Returns config tree (file :: outer) session.nesting.frames processing
      (call session' location target)

/-! ## Reading a source -/

/-- At the end of a source, the blocks of the source have to be closed. -/
theorem returns_end {session session' : Session} {file : OpenFile} {call : Call} {path : String}
    {number : Nat} (alike : session.AlikeWith (Nesting.Above below) session')
    (base : file.baseDepth = below.length) (ended : file.rest = []) :
    Returns config tree outer below ⟨file :: outer, session⟩
      (readLines config path call number [] session') := by
  have above := alike.nesting
  have leaves : Processing.advance config tree ⟨file :: outer, session⟩ =
      Processing.endFile session file outer := by
    simp only [Processing.advance, ended]
  rw [readLines]
  cases frames : session'.nesting.frames with
  | nil =>
      rw [Nesting.Above, frames, List.nil_append] at above
      have closed : Processing.endFile session file outer = .proceed ⟨outer, session⟩ := by
        have level : ¬file.baseDepth < session.nesting.depth := by
          rw [base, Nesting.depth, above]
          exact Nat.lt_irrefl _
        unfold Processing.endFile
        split
        · exact if_neg level
        · rfl
      simp only [Nesting.innermost?, frames, List.head?_nil]
      refine ⟨session, ?_, congrArg Nesting.mk above,
        Processing.run_of_proceed (leaves.trans closed)⟩
      rw [ite_self]
      exact alike.toAlike
  | cons frame own =>
      rw [Nesting.Above, frames, List.cons_append] at above
      have unclosed : Processing.endFile session file outer =
          .stop ⟨outer, session⟩ (.failed (.line frame.opened (.unbalanced .unclosed))) := by
        have deeper : file.baseDepth < session.nesting.depth := by
          rw [base, Nesting.depth, above, List.length_cons, List.length_append]
          omega
        simp only [Processing.endFile, Nesting.innermost?, above, List.head?_cons]
        exact if_pos deeper
      simp only [Nesting.innermost?, frames, List.head?_cons]
      exact ⟨_, Processing.run_of_stop (leaves.trans unclosed), alike.toAlike⟩

/-- A source that is left drops its blocks. -/
theorem returns_leave {session session' : Session} {file : OpenFile}
    (alike : session.AlikeWith (Nesting.Above below) session')
    (base : file.baseDepth = below.length) {processing : Processing}
    (ran : processing.run config tree =
      (Processing.leaveFile config session file outer).run config tree) :
    Returns config tree outer below processing (session', .finished file.rest.length) := by
  have dropped : session.nesting.truncate file.baseDepth = ⟨below⟩ := by
    rw [base]
    exact alike.nesting.truncate
  have same : Session.Alike { session with nesting := ⟨below⟩ } session' :=
    alike.toAlike.withNesting ⟨below⟩ session'.nesting
  rw [Processing.leaveFile, dropped] at ran
  exact ⟨_, (same.regardless.skipLines config _).toAlike, Session.nesting_skipLines _ config _, ran⟩

/-- **A source is read as the interpreter reads it**, with a call that does what inclusion does. -/
theorem returns_readLines {levels : Nat} {call : Call} (serves : Serves config tree levels call)
    (room : outer.length + levels = includeLimit) (counts : Nesting.isActive ⟨below⟩ = true)
    (path : String) (rest : List (List Char)) (number : Nat) (session session' : Session)
    (alike : session.AlikeWith (Nesting.Above below) session') :
    Returns config tree outer below ⟨⟨path, number, rest, below.length⟩ :: outer, session⟩
      (readLines config path call number rest session') := by
  induction rest generalizing number session session' with
  | nil => exact returns_end alike rfl rfl
  | cons line rest ih =>
      obtain ⟨after, after', outcome, ran, ran', alikeBehind⟩ :=
        (alike.processLine_of_bisimulation config (Processing.lineLocation path number line)
          below.length 0 (Nesting.above_bisimulation counts) line).parts
      simp only [readLines, ran']
      cases outcome with
      | error cause => exact ⟨_, Processing.run_of_error ran, alikeBehind.toAlike⟩
      | ok flow =>
          cases flow with
          | next =>
              exact (ih (number + 1) after after' alikeBehind).of_run_eq
                (Processing.run_of_next ran)
          | leaveFile => exact returns_leave alikeBehind rfl (Processing.run_of_leaveFile ran)
          | excludeFile =>
              exact ⟨_, Processing.run_of_excludeFile ran,
                (alikeBehind.untrace _ _).toAlike⟩
          | «include» target =>
              obtain ⟨active, unchanged⟩ := Session.counts_of_flow (congrArg Prod.snd ran) nofun
              rw [ran] at unchanged
              have activeBehind : after.isActive = true := by
                rw [Session.isActive, unchanged]
                exact active
              -- the included file stands above all blocks that are open now, and these count
              have returns := serves _ ⟨path, number + 1, rest, below.length⟩ outer after after' _
                target room alikeBehind.toAlike activeBehind (Processing.advance_of_include ran)
              obtain ⟨returned, ending, called⟩ : ∃ returned ending,
                call after' (Processing.lineLocation path number line) target =
                  (returned, ending) := ⟨_, _, rfl⟩
              rw [called] at returns
              simp only [called]
              cases ending with
              | failed cause => exact returns
              | excluded => exact returns
              | finished unread =>
                  obtain ⟨reached, alikeReached, blocks, ranCall⟩ := returns
                  have alikeOnward : reached.Alike { returned with nesting := after'.nesting } :=
                    alikeReached.withNesting reached.nesting after'.nesting
                  refine Returns.of_run_eq ranCall (ih (number + 1) reached _ ?_)
                  refine { toAlike := alikeOnward, nesting := ?_ }
                  rw [blocks]
                  exact alikeBehind.nesting

/-! ## Targets -/

/-- Inclusion joins paths as calls do. -/
theorem includedPath_eq_joined (source target : String) :
    Processing.includedPath source target = joined source target := by
  rw [Processing.includedPath, joined]
  cases Path.parent? source <;> rfl

/-- **A target leads on from the folder that its source is in**, unless it starts from the root. -/
theorem placeOf_joined (tree : FileTree) {source name : String} (target : String)
    (named : Path.fileName? source = some name) :
    tree.placeOf (joined source target) =
      Path.along (if Path.isAbsolute target then [] else (tree.placeOf source).dropLast)
        (Path.splitSlashes target.toList) := by
  obtain ⟨folder, parent, place⟩ := tree.placeOf_parent named
  simp only [joined, parent]
  rw [tree.placeOf_join_eq_along, place, List.dropLast_concat]

/-! ## Calling a source -/

/-- Where no level is left, a call fails as inclusion does. -/
theorem serves_refuse : Serves config tree 0 refuse := by
  intro processing file outer session session' location target room alike _ includes
  have deep : includeLimit < (file :: outer).length := by
    rw [List.length_cons, ← room]
    exact Nat.lt_succ_self _
  rw [Processing.includeFile, if_pos deep] at includes
  exact ⟨_, Processing.run_of_stop includes, alike⟩

/-- A call of a file does what inclusion does if the calls in that file do. -/
theorem serves_callFile {levels : Nat} {deeper : Call} (serves : Serves config tree levels deeper) :
    Serves config tree (levels + 1) (callFile config tree deeper) := by
  intro processing file outer session session' location target room alike active includes
  have shallow : ¬includeLimit < (file :: outer).length := by
    rw [List.length_cons, ← room]
    omega
  rw [Processing.includeFile, if_neg shallow, includedPath_eq_joined] at includes
  unfold callFile
  cases content : tree.readText (joined location.file target) with
  | error cause =>
      simp only [content] at includes ⊢
      exact ⟨_, Processing.run_of_stop includes, alike⟩
  | ok text =>
      simp only [content] at includes ⊢
      refine Returns.of_run_eq (Processing.run_of_proceed includes) ?_
      refine returns_readLines serves ?_ active _ _ 0 _ _ ?_
      · rw [List.length_cons]
        omega
      · have traced := (alike.regardless.untrace "include"
          [("file", joined location.file target),
            ("depth", toString (file :: outer).length)]).toAlike
        exact {
          toAlike := traced.withNesting session.nesting Nesting.empty
          nesting := (List.nil_append _).symm }

/-- **A call does what inclusion does**, at every number of levels that are left. -/
theorem serves_call (levels : Nat) : Serves config tree levels (call config tree levels) := by
  induction levels with
  | zero => exact serves_refuse
  | succ levels ih => exact serves_callFile ih

end Inclusion

/-! ## Whole files -/

/-- **Including a file is calling it.**  For all files, configurations, variables and texts, the
reading of a text over a list of open files with one stack of blocks gives the same output, or
fails at the same line for the same cause, as the interpreter that calls itself for each included
file, and leaves the same variables, providers, state of comments and reports behind.  The path that
is called for a target leads on from the folder of the source that includes it. -/
theorem Config.processText_alike_interpretText (config : Config) (tree : FileTree)
    (globals : Layer) (providers : List Provider) (path text : String) :
    FileResult.Alike (config.processText tree globals providers path text)
      (config.interpretText tree globals providers path text) ∧
    ∀ source name target, Path.fileName? source = some name →
      tree.placeOf (Inclusion.joined source target) =
        Path.along (if Path.isAbsolute target then [] else (tree.placeOf source).dropLast)
          (Path.splitSlashes target.toList) := by
  refine ⟨?_, fun source name target named => Inclusion.placeOf_joined tree target named⟩
  have returns : Inclusion.Returns config tree [] []
      (Processing.start globals providers path text) _ :=
    Inclusion.returns_readLines (Inclusion.serves_call includeLimit) (Nat.zero_add _) rfl path
      (Text.lines text.toList) 0 { globals := globals, providers := providers }
      { globals := globals, providers := providers }
      { toAlike := Session.Alike.refl _, nesting := rfl }
  obtain ⟨⟨session, ending⟩, called⟩ : ∃ result, Inclusion.readLines config path
    (Inclusion.call config tree includeLimit) 0 (Text.lines text.toList)
    { globals := globals, providers := providers } = result := ⟨_, rfl⟩
  rw [called] at returns
  rw [Config.processText, Config.interpretText, called]
  cases ending with
  | failed cause =>
      obtain ⟨last, ran, alike⟩ := returns
      rw [ran]
      exact FileResult.alike_ofEnding config text alike (.failed cause)
  | excluded =>
      obtain ⟨last, ran, alike⟩ := returns
      rw [ran]
      exact FileResult.alike_ofEnding config text alike .excluded
  | finished unread =>
      obtain ⟨reached, alike, _, ran⟩ := returns
      rw [ran, Processing.run_of_stop rfl]
      exact FileResult.alike_ofEnding config text alike .complete

/-- A target that leads out of the folder of its source. -/
theorem Config.processText_alike_interpretText_upwards :
    Path.fileName? "pages/./a.txt" = some "a.txt" ∧
      (FileTree.empty ["home"]).placeOf (Inclusion.joined "pages/./a.txt" "../b.txt") =
        ["home", "b.txt"] := by
  have named : Path.fileName? "pages/./a.txt" = some "a.txt" := by decide
  have leads := (Config.processText_alike_interpretText {} (FileTree.empty ["home"])
    Layer.empty [] "pages/./a.txt" "").2 "pages/./a.txt" "a.txt" "../b.txt" named
  exact ⟨named, leads.trans (by decide)⟩

end CommentDirectives
