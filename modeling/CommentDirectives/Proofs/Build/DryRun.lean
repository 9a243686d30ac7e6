import CommentDirectives.Proofs.Build.Alongside
import CommentDirectives.Proofs.Build.Apart
import CommentDirectives.Proofs.Build.Outputs

/-!
# A dry run foretells the run

A dry run leaves the tree as it is, so it reads every file in the tree that the run starts from, and
compares every output with what is at its target then.  Where the roots of the run stand apart from
its destination, that makes no difference to what is read, nor to what is at a target when its turn
comes.  So if the run itself returns a summary without failures, the dry run ends with the same
variables and counts the same (`Build.run_of_dryRun`).

Two things are not foretold.  A dry run does not clear the destination either, so it counts a file
as unchanged whose output the run puts back behind the clearing; only which of the files are
processed, copied or unchanged is told wrong (`Summary.Foretells`).  And a dry run does not make the
folders that the run makes, so nothing may be found by a path through one of them
(`Build.FindsFromStart`).
-/

namespace CommentDirectives

set_option autoImplicit false

open FileTree (AgreesBut Keeps)

/-- What the summary of a dry run tells of the summary of the run: all of it, unless the destination
is cleared and files are left alone whose outputs are there already.  Then these files are counted
as unchanged and not by what the run does. -/
structure Summary.Foretells (cleared skipping : Bool) (real dry : Summary) : Prop where
  same : cleared = false ∨ skipping = false → dry = real
  put : cleared = true → real.unchanged = 0
  processed : dry.processed ≤ real.processed
  copied : dry.copied ≤ real.copied
  delivered : dry.delivered = real.delivered
  excluded : dry.excluded = real.excluded
  failed : dry.failed = real.failed

/-- What the treatment of a file in a dry run tells of its treatment in the run. -/
structure Treatment.Foretells (cleared skipping : Bool) (real dry : Treatment) : Prop where
  put : cleared = true → real ≠ .unchanged
  same : dry = real ∨ cleared = true ∧ skipping = true ∧ dry = .unchanged ∧ real ≠ .excluded

/-- One more file that is foretold. -/
theorem Summary.Foretells.record {cleared skipping : Bool} {real dry : Summary}
    (foretells : real.Foretells cleared skipping dry) {treatment treatment' : Treatment}
    (told : treatment.Foretells cleared skipping treatment') :
    (real.record treatment).Foretells cleared skipping (dry.record treatment') := by
  obtain ⟨same, put, processed, copied, delivered, excluded, failed⟩ := foretells
  unfold Summary.delivered at delivered
  obtain ⟨given, rfl | ⟨clears, skips, rfl, notExcluded⟩⟩ := told
  · refine ⟨fun exact_ => by rw [same exact_], fun clears => ?_, ?_, ?_, ?_, ?_, ?_⟩
    · cases treatment' <;> first | exact put clears | exact absurd rfl (given clears)
    all_goals cases treatment' <;> simp only [Summary.delivered, Summary.record] <;> omega
  · have unlike : ¬(cleared = false ∨ skipping = false) := by
      rw [clears, skips]
      decide
    refine ⟨fun exact_ => absurd exact_ unlike, fun clears => ?_, ?_, ?_, ?_, ?_, ?_⟩
    · cases treatment <;> first | exact put clears | exact absurd rfl (given clears)
    all_goals
      cases treatment <;>
        first | contradiction | (simp only [Summary.delivered, Summary.record]; omega)

namespace Build

variable {build : Build} {tree : FileTree} {summary : Summary} {visit : Visit} {turn : Turn}

/-! ## Openings -/

theorem opened_of_dryRun (dry : build.config.dryRun = true) (tree : FileTree) :
    (opening build tree).2 = .ok () := by
  simp only [opening, clear, dry, if_true]
  split
  · split <;> rfl
  · rfl

/-- Nothing is below the destination once it is cleared. -/
theorem node?_opening_of_cleared (clears : build.config.clearDestination = true)
    (wet : build.config.dryRun = false) (opened : (opening build tree).2 = .ok ())
    (there : (tree.node? (build.destination tree)).isSome = true →
      tree.contains build.config.destination = true)
    {names : List String} (someNames : names ≠ []) :
    (opening build tree).1.tree.node? (build.destination tree ++ names) = none := by
  rw [opening, clears, if_pos rfl, clear] at opened ⊢
  dsimp only at opened ⊢
  split
  · next present =>
    rw [if_pos present, wet, if_neg Bool.false_ne_true] at opened
    rw [wet, if_neg Bool.false_ne_true]
    dsimp only [BuildState.progress, BuildState.report] at opened ⊢
    cases removed : tree.removeFolder build.config.destination with
    | error cause =>
        rw [removed] at opened
        cases opened
    | ok after =>
        rw [FileTree.removeFolder] at removed
        split at removed
        · cases removed
        · next place located =>
          obtain rfl := FileTree.locate_eq_placeOf located
          split at removed <;> cases removed
          rw [FileTree.node?_of_ne_nil (List.append_ne_nil_of_right_ne_nil _ someNames),
            FileTree.get?_removeBelow]
          exact if_pos (List.prefix_append _ _)
  · next absent =>
    cases present : tree.node? (build.destination tree ++ names) with
    | none => rfl
    | some node =>
        have above := FileTree.node?_above someNames (Option.isSome_of_eq_some present)
        exact absurd (there (Option.isSome_of_eq_some above)) absent

/-! ## What is found from the start -/

/-- Whatever a run finds by the path of a root, of a file that is included or, to compare an output
with it, of the destination, is found from the start: none of these paths leads through a folder
that the run makes or removes. -/
structure FindsFromStart (build : Build) (tree : FileTree) : Prop where
  roots : ∀ turn ∈ turns build tree,
    turn.state.tree.contains turn.root = tree.contains turn.root
  includes : ∀ visit ∈ visits build tree,
    ∀ path ∈ includesOf build.config visit.state visit.file, tree.contains path = true
  destination : build.config.skipUnchanged = true →
    (tree.node? (build.destination tree)).isSome = true →
      tree.contains build.config.destination = true

/-- Every file that the run comes to is read from the start. -/
theorem FindsFromStart.readBytes_source (finds : build.FindsFromStart tree)
    (apart : build.SetApart tree) (inside : visit ∈ visits build tree) {bytes : ByteArray}
    (read : visit.state.tree.readBytes visit.file.path = .ok bytes) :
    tree.readBytes visit.file.path = .ok bytes := by
  obtain ⟨turn, come, there, among, _⟩ := apart.separate.collected inside
  have before := (apart.separate.around_turn come).1
  have fromStart : tree.contains turn.root = true := (finds.roots turn come).symm.trans there
  rw [Collection.files_eq before
    (fun place below => apart.separate.not_prefix (root_mem_of_turns come) below) fromStart there]
    at among
  have collected := Collection.collected_of_mem apart.named fromStart among
  obtain ⟨_, found⟩ := FileTree.readBytes_eq_ok.mp read
  obtain ⟨plain, _⟩ := FileTree.locate_eq_ok.mp (FileTree.lookup_eq_ok.mp found).1
  exact (apart.separate.around_visit inside).1.readBytes_before
    (apart.separate.source_not_prefix inside) (collected.located plain) read

/-- Every file that is included is read from the start. -/
theorem FindsFromStart.readBytes_included (finds : build.FindsFromStart tree)
    (apart : build.SetApart tree) (inside : visit ∈ visits build tree) {path : String}
    (asked : path ∈ includesOf build.config visit.state visit.file) {bytes : ByteArray}
    (read : visit.state.tree.readBytes path = .ok bytes) : tree.readBytes path = .ok bytes :=
  (apart.separate.around_visit inside).1.readBytes_before (apart.includes visit inside path asked)
    (FileTree.contains_iff.mp (finds.includes visit inside path asked)).1 read

/-! ## Targets -/

/-- **A target holds an output when its turn comes if it does from the start**, unless the
destination is cleared. -/
theorem FindsFromStart.holds_target (finds : build.FindsFromStart tree)
    (apart : build.SetApart tree) (notCleared : build.config.clearDestination = false)
    (skips : build.config.skipUnchanged = true) (inside : visit ∈ visits build tree)
    (bytes : ByteArray) :
    holds visit.state.tree (targetOf build.config visit.file) bytes =
      holds tree (targetOf build.config visit.file) bytes := by
  obtain ⟨earlier, later, made⟩ := List.append_of_mem inside
  obtain ⟨front, _⟩ := walk_around_visit made
  have opened := tree_opening_of_not_cleared notCleared tree
  have untouched := apart.separate.untouched made
  have kept := apart.separate.keeps (fun visit inside => made ▸ List.mem_append_left _ inside)
    (congrArg FileTree.workingFolder opened) front
  rw [opened] at untouched kept
  obtain ⟨names, relative, someNames, isName, target⟩ := apart.separate.placeOf_target inside
  rw [Bool.eq_iff_iff, holds_iff, holds_iff]
  constructor
  · intro read
    refine untouched.readBytes_before (fun other => other rfl) ?_ read
    obtain ⟨mode, found⟩ := FileTree.readBytes_eq_ok.mp read
    obtain ⟨located, file⟩ := FileTree.lookup_eq_ok.mp found
    obtain ⟨plain, _⟩ := FileTree.locate_eq_ok.mp located
    rw [kept.placeOf] at file
    have stands := untouched.file_before (fun other => other rfl) file
    rw [target] at stands ⊢
    have below := Option.isSome_of_eq_some stands
    have folder := FileTree.node?_above someNames below
    have leads := (FileTree.contains_iff.mp
      (finds.destination skips (Option.isSome_of_eq_some folder))).1
    rw [targetOf, relative] at plain ⊢
    exact FileTree.locate_join leads isName someNames below plain
  · intro read
    obtain ⟨mode, found⟩ := FileTree.readBytes_eq_ok.mp read
    obtain ⟨located, file⟩ := FileTree.lookup_eq_ok.mp found
    refine FileTree.readBytes_eq_ok.mpr ⟨mode, FileTree.lookup_eq_ok.mpr ?_⟩
    rw [kept.placeOf]
    exact ⟨kept.locate located, untouched.node (fun other => other rfl) file⟩

/-- **No target holds anything when its turn comes**, if the destination is cleared. -/
theorem FindsFromStart.not_holds_target (finds : build.FindsFromStart tree)
    (apart : build.SetApart tree) (clears : build.config.clearDestination = true)
    (wet : build.config.dryRun = false) (skips : build.config.skipUnchanged = true)
    (opened : (opening build tree).2 = .ok ()) (inside : visit ∈ visits build tree)
    (bytes : ByteArray) :
    holds visit.state.tree (targetOf build.config visit.file) bytes = false := by
  rw [Bool.eq_false_iff]
  intro held
  obtain ⟨mode, found⟩ := FileTree.readBytes_eq_ok.mp (holds_iff.mp held)
  obtain ⟨_, file⟩ := FileTree.lookup_eq_ok.mp found
  obtain ⟨earlier, later, made⟩ := List.append_of_mem inside
  obtain ⟨names, _, someNames, _, target⟩ := apart.separate.placeOf_target inside
  rw [(apart.separate.around_visit inside).1.placeOf] at file
  have stands := (apart.separate.untouched made).file_before (fun other => other rfl) file
  rw [target] at stands
  cases (node?_opening_of_cleared clears wet opened (finds.destination skips) someNames).symm.trans
    stands

/-! ## Files of a dry run -/

/-- A file that is read alike in a dry run is treated alike, but for what is at its target. -/
theorem treat_of_foretold {config : Config} {state other prepared prepared' : BuildState}
    {file : SourceFile} {result : Option (ByteArray × Treatment)} {treatment : Treatment}
    (reading : prepare config state file = (prepared, .ok result))
    (reading' : prepare { config with dryRun := true } other file = (prepared', .ok result))
    (treated : (treat config state file).2 = .ok treatment)
    (kept : config.skipUnchanged = true → config.clearDestination = false → ∀ bytes,
      holds state.tree (targetOf config file) bytes = holds other.tree (targetOf config file) bytes)
    (free : config.skipUnchanged = true → config.clearDestination = true → ∀ bytes,
      holds state.tree (targetOf config file) bytes = false) :
    ∃ treatment', (treat { config with dryRun := true } other file).2 = .ok treatment' ∧
      treatment.Foretells config.clearDestination config.skipUnchanged treatment' := by
  have same := tree_prepare config state file
  have same' := tree_prepare { config with dryRun := true } other file
  rw [reading] at same
  rw [reading'] at same'
  dsimp only at same same'
  rcases result with _ | ⟨bytes, kind⟩
  · rw [treat_of_left_out reading] at treated
    rw [treat_of_left_out reading']
    cases treated
    exact ⟨.excluded, rfl, nofun, .inl rfl⟩
  · have given : kind ≠ .unchanged ∧ kind ≠ .excluded := by
      rcases treatment_prepare (congrArg Prod.snd reading) with rfl | rfl <;> decide
    rw [treat_of_given reading] at treated
    rw [treat_of_given reading', deliver_of_dryRun rfl, treatment_of_deliver treated, same, same']
    refine ⟨_, rfl, ?_⟩
    -- Without leaving files alone nothing is compared, and both runs put the file.
    cases skips : config.skipUnchanged with
    | false => exact ⟨fun _ => given.1, .inl rfl⟩
    | true =>
        cases clears : config.clearDestination with
        | false =>
            rw [kept skips clears]
            exact ⟨nofun, .inl rfl⟩
        | true =>
            rw [free skips clears]
            refine ⟨fun _ => given.1, ?_⟩
            rw [Bool.true_and, Bool.true_and, if_neg Bool.false_ne_true]
            split
            · exact .inr ⟨rfl, rfl, rfl, given.2⟩
            · exact .inl rfl

/-- The run as a dry one. -/
def rehearsal (build : Build) : Build :=
  { build with config := { build.config with dryRun := true } }

/-- **A dry run makes of every file what it tells of the run.** -/
theorem foretells_visit (finds : build.FindsFromStart tree) (apart : build.SetApart tree)
    (wet : build.config.dryRun = false) (ran : (run build tree).2 = .ok summary)
    (noFailure : summary.failed = 0) (inside : visit ∈ visits build tree) :
    AlongsideAt
      (Shadows (Summary.Foretells build.config.clearDestination build.config.skipUnchanged) tree)
      build (rehearsal build) visit := by
  intro other related
  obtain ⟨treatment, treated⟩ := treated_of_run ran noFailure inside
  obtain ⟨prepared, prepared', result, reading, reading', _, _, globals, providers⟩ :=
    prepare_of_treated treated related.globals related.providers
      (fun bytes read => related.tree ▸ finds.readBytes_source apart inside read)
      (fun path asked bytes read => related.tree ▸ finds.readBytes_included apart inside asked read)
      true build.config.skipUnchanged build.config.providers
  have reading' : prepare (rehearsal build).config other visit.file = (prepared', .ok result) :=
    reading'
  obtain ⟨treatment', treated', told⟩ := treat_of_foretold reading reading' treated
    (fun skips notCleared bytes =>
      related.tree ▸ finds.holds_target apart notCleared skips inside bytes)
    (fun skips clears bytes =>
      finds.not_holds_target apart clears wet skips (opened_of_run ran) inside bytes)
  have treated' : (treat (rehearsal build).config other visit.file).2 = .ok treatment' := treated'
  refine related.outcome treated treated' ?_ ?_ (tree_treat_of_dryRun rfl other visit.file)
    (related.summary.record told)
  · rw [reading, reading', globals]
  · rw [reading, reading', providers]

/-- **A dry run finds the same at every root.** -/
theorem foundAlike_rehearsal {counts : Summary → Summary → Prop}
    (finds : build.FindsFromStart tree) (apart : build.SetApart tree)
    (come : turn ∈ turns build tree) {other : BuildState}
    (related : Shadows counts tree turn.state other) :
    FoundAlike build (rehearsal build) turn other := by
  have there := finds.roots turn come
  refine ⟨?_, fun found => ?_⟩ <;> rw [related.tree]
  · exact there.symm
  · exact (Collection.files_eq (apart.separate.around_turn come).1
      (fun place below => apart.separate.not_prefix (root_mem_of_turns come) below)
      (there ▸ found)
      found).symm

/-- **A dry run changes nothing and foretells the run.**  It leaves the tree as it is, whatever the
settings.  If the run itself returns a summary without failures, its roots stand apart from its
destination, and it finds by its paths what is there from the start, then the dry run can start,
returns a summary and ends with the same variables.  The summary is the same, unless the destination
is cleared and files are left alone whose outputs are there already; then it differs at most in
which of the files that are not excluded it counts as unchanged, which are none for the run. -/
theorem run_of_dryRun (config : Config) (tree : FileTree) :
    (∀ dry, new { config with dryRun := true } tree = .ok dry → (dry.run tree).1.tree = tree) ∧
      ∀ build, new { config with dryRun := false } tree = .ok build →
        build.SetApart tree → build.FindsFromStart tree →
        ∀ summary, (build.run tree).2 = .ok summary → summary.failed = 0 →
          ∃ dry, new { config with dryRun := true } tree = .ok dry ∧
            (dry.run tree).1.globals = (build.run tree).1.globals ∧
            ∃ summary', (dry.run tree).2 = .ok summary' ∧
              summary.Foretells config.clearDestination config.skipUnchanged summary' := by
  refine ⟨fun dry made => ?_, fun build made apart finds summary ran noFailure => ?_⟩
  · refine tree_run_of_dryRun ?_ tree
    rw [config_of_new made]
  · have settings := config_of_new made
    have wet : build.config.dryRun = false := by rw [settings]
    have clearing : config.clearDestination = build.config.clearDestination := by rw [settings]
    have skipping : config.skipUnchanged = build.config.skipUnchanged := by rw [settings]
    have made' : new { config with dryRun := true } tree = .ok (rehearsal build) := by
      rw [rehearsal, settings]
      exact new_of_reads made (fun _ _ _ read => read) true config.skipUnchanged config.providers
    obtain ⟨globals, providers, nothing⟩ := opening_keeps build tree
    obtain ⟨globals', providers', nothing'⟩ := opening_keeps (rehearsal build) tree
    have starts : Alongside
        (Shadows (Summary.Foretells build.config.clearDestination build.config.skipUnchanged) tree)
        (opening build tree) (opening (rehearsal build) tree) := by
      refine ⟨⟨tree_opening_of_dryRun rfl tree, globals'.trans globals.symm,
        providers'.trans providers.symm, ?_⟩, ?_⟩
      · rw [nothing, nothing']
        exact ⟨fun _ => rfl, fun _ => rfl, le_rfl, le_rfl, rfl, rfl, rfl⟩
      · rw [opened_of_run ran]
        exact opened_of_dryRun rfl tree
    have ignoring : (rehearsal build).config.ignoreMissing = build.config.ignoreMissing := rfl
    obtain ⟨related, ended⟩ := run_alongside Shadows.of_alike ignoring rfl
      (fun turn come _ => foundAlike_rehearsal finds apart come)
      (fun visit inside => foretells_visit finds apart wet ran noFailure inside) starts
    rw [ran] at ended
    have told := related.summary
    rw [summary_of_run ran, ← clearing, ← skipping] at told
    exact ⟨rehearsal build, made', related.globals, _, ended, told⟩

/-! ### Runs that are rehearsed -/

/-- Settings of a run that leaves unchanged files alone. -/
def careful : Config where
  sources := ["src"]
  destination := "out"
  skipUnchanged := true

/-- A tree with one output that is there already. -/
def carefulTree : FileTree :=
  .ofFiles [("src/a.md", "old"), ("src/b.md", "new"), ("src/c.xml", "left out"), ("out/a.md", "old")]

/-- The dry run counts the same and puts nothing. -/
theorem run_of_dryRun_careful :
    let build : Build := ⟨careful, [], Layer.empty⟩
    let summary : Summary := { copied := 1, unchanged := 1, excluded := 1 }
    new careful carefulTree = .ok build ∧ build.SetApart carefulTree ∧
      build.FindsFromStart carefulTree ∧ (build.run carefulTree).2 = .ok summary ∧
      ∃ dry, new { careful with dryRun := true } carefulTree = .ok dry ∧
        (dry.run carefulTree).1.tree = carefulTree ∧
        (dry.run carefulTree).1.globals = (build.run carefulTree).1.globals ∧
        (dry.run carefulTree).2 = .ok summary := by
  intro build summary
  have made : new careful carefulTree = .ok build := rfl
  have apart : build.SetApart carefulTree :=
    ⟨FileTree.named_ofFiles _, by decide +kernel, nofun, by decide +kernel, by decide +kernel⟩
  have finds : build.FindsFromStart carefulTree :=
    ⟨by decide +kernel, by decide +kernel, by decide +kernel⟩
  have counted : (build.run carefulTree).1.summary = summary := by decide +kernel
  have ran : (build.run carefulTree).2 = .ok summary := by
    rw [ran_of_isOk (by decide +kernel), counted]
  obtain ⟨untouched, told⟩ := run_of_dryRun careful carefulTree
  obtain ⟨dry, made', globals, summary', ended, foretells⟩ :=
    told build made apart finds summary ran rfl
  rw [foretells.same (.inl rfl)] at ended
  exact ⟨made, apart, finds, ran, dry, made', untouched dry made', globals, ended⟩

/-- Whether a dry run returns just the summary of the run, if the roots stand apart from the
destination. -/
def TellsSummary (config : Config) (tree : FileTree) : Prop :=
  ∀ build dry, new { config with dryRun := false } tree = .ok build →
    new { config with dryRun := true } tree = .ok dry → build.SetApart tree →
    ∀ summary, (build.run tree).2 = .ok summary → summary.failed = 0 →
      (dry.run tree).2 = .ok summary

/-- Settings of a run whose second root is found by a path through a folder that it makes. -/
def laterRoot : Config where
  sources := ["src", "build/../more"]
  destination := "build/out"

def laterRootTree : FileTree := .ofFiles [("src/a.md", "first"), ("more/b.md", "second")]

/-- Settings of a run whose destination is found by a path through a folder that it makes. -/
def laterOutput : Config where
  sources := ["src"]
  destination := "build/../out"
  skipUnchanged := true

def laterOutputTree : FileTree :=
  .ofFiles [("src/a.md", "new"), ("src/b.md", "old"), ("out/b.md", "old")]

/-- A dry run does not tell all of the summary where a destination is cleared that holds an output
already, nor where the run makes a folder that paths lead through. -/
theorem not_tellsSummary :
    ¬TellsSummary { careful with clearDestination := true } carefulTree ∧
      ¬TellsSummary laterRoot laterRootTree ∧ ¬TellsSummary laterOutput laterOutputTree := by
  refine ⟨fun tells => ?_, fun tells => ?_, fun tells => ?_⟩
  · let build : Build := ⟨{ careful with clearDestination := true }, [], Layer.empty⟩
    have apart : build.SetApart carefulTree :=
      ⟨FileTree.named_ofFiles _, by decide +kernel, nofun, by decide +kernel, by decide +kernel⟩
    have told := summary_of_run (tells build (rehearsal build) rfl rfl apart _
      (ran_of_isOk (by decide +kernel)) (by decide +kernel))
    revert told
    decide +kernel
  · let build : Build := ⟨laterRoot, [], Layer.empty⟩
    have apart : build.SetApart laterRootTree :=
      ⟨FileTree.named_ofFiles _, by decide +kernel, nofun, by decide +kernel, by decide +kernel⟩
    have told := tells build (rehearsal build) rfl rfl apart _ (ran_of_isOk (by decide +kernel))
      (by decide +kernel)
    have fails : ((rehearsal build).run laterRootTree).2.isOk = false := by decide +kernel
    rw [told] at fails
    cases fails
  · let build : Build := ⟨laterOutput, [], Layer.empty⟩
    have apart : build.SetApart laterOutputTree :=
      ⟨FileTree.named_ofFiles _, by decide +kernel, nofun, by decide +kernel, by decide +kernel⟩
    have told := summary_of_run (tells build (rehearsal build) rfl rfl apart _
      (ran_of_isOk (by decide +kernel)) (by decide +kernel))
    revert told
    decide +kernel

end Build

end CommentDirectives
