import CommentDirectives.Proofs.Build.Alongside
import CommentDirectives.Proofs.Build.Apart
import CommentDirectives.Proofs.Build.Outputs

/-!
# A second run changes nothing

Where the roots of a run stand apart from its destination, a second run finds the same files with
the same contents, gives every file the same output, and finds that output at its target already.
So it leaves the tree as it is, whether it writes the outputs again or leaves unchanged files alone
(`Build.run_again`).

A root that the first run has passed over because it did not exist must still not exist: a path like
`build/../extra` leads somewhere as soon as the run has made the folder `build`, even if the root is
not in the destination.
-/

namespace CommentDirectives

set_option autoImplicit false

open FileTree (AgreesBut Keeps)

/-! ## Counts of a second run -/

/-- How the counts of a second run are related to those of the first. -/
structure Summary.Repeats (skip : Bool) (first second : Summary) : Prop where
  excluded : second.excluded = first.excluded
  failed : second.failed = first.failed
  delivered : second.delivered = first.delivered
  skipped : skip = true → second.processed = 0 ∧ second.copied = 0

/-- What a second run makes of a file, by what the first has made of it. -/
def Treatment.Repeats (skip : Bool) (first second : Treatment) : Prop :=
  first = .excluded ∧ second = .excluded ∨
    first ≠ .excluded ∧ second ≠ .excluded ∧ (skip = true → second = .unchanged)

/-- A file counts alike in both runs, but for whether it was put or found. -/
theorem Summary.Repeats.record {skip : Bool} {first second : Summary}
    (repeats : first.Repeats skip second) {treatment treatment' : Treatment}
    (again : treatment.Repeats skip treatment') :
    (first.record treatment).Repeats skip (second.record treatment') := by
  obtain ⟨excluded, failed, delivered, skipped⟩ := repeats
  unfold Summary.delivered at delivered
  rcases again with ⟨rfl, rfl⟩ | ⟨given, given', unchanged⟩
  · exact ⟨congrArg (· + 1) excluded, failed, delivered, skipped⟩
  · refine ⟨?_, ?_, ?_, fun skip => ?_⟩
    · cases treatment <;> cases treatment' <;> first | exact excluded | contradiction
    · cases treatment <;> cases treatment' <;> exact failed
    · cases treatment <;> cases treatment' <;>
        first | contradiction | (simp only [Summary.delivered, Summary.record]; omega)
    · rw [unchanged skip]
      exact skipped skip

namespace Build

variable {config : Config} {build : Build} {tree : FileTree} {summary : Summary}

/-! ## Providers -/

/-- Visits leave providers that refuse changes as they are. -/
theorem Walk.providers {before after : BuildState} {visits : List Visit}
    (walk : Walk config before visits after)
    (readOnly : ∀ provider ∈ before.providers, provider.writable = false) :
    after.providers = before.providers := by
  induction visits generalizing before with
  | nil => exact BuildState.Alike.providers walk
  | cons visit later ih =>
      obtain ⟨alike, onward⟩ := walk
      have kept : (outcome config visit).1.providers = visit.state.providers := by
        rw [(outcome_keeps config visit).2, providers_prepare (alike.providers ▸ readOnly)]
      rw [alike.providers] at kept
      rw [ih onward (kept ▸ readOnly), kept]

/-! ## Files of a second run -/

/-- A file whose output is at its target already is left alone or put there again, which changes
nothing. -/
theorem treat_of_held {state other prepared prepared' : BuildState} {file : SourceFile}
    {result : Option (ByteArray × Treatment)} {treatment : Treatment} {again : Config}
    (wet : again.dryRun = false) (modes : again.keepMode = false)
    (reading : prepare config state file = (prepared, .ok result))
    (reading' : prepare again other file = (prepared', .ok result))
    (treated : (treat config state file).2 = .ok treatment)
    (held : ∀ bytes, output? config state file = some bytes →
      other.tree.readBytes (targetOf again file) = .ok bytes) :
    ∃ treatment', (treat again other file).2 = .ok treatment' ∧
      (treat again other file).1.tree = other.tree ∧
      Treatment.Repeats again.skipUnchanged treatment treatment' := by
  have kept := tree_prepare again other file
  rw [reading'] at kept
  rcases result with _ | ⟨bytes, kind⟩
  · rw [treat_of_left_out reading] at treated
    rw [treat_of_left_out reading']
    cases treated
    exact ⟨.excluded, rfl, kept, .inl ⟨rfl, rfl⟩⟩
  · have gives : output? config state file = some bytes := by
      rw [output?, reading]
    have there : holds prepared'.tree (targetOf again file) bytes = true := by
      rw [kept]
      exact holds_iff.mpr (held bytes gives)
    have notExcluded : kind ≠ .excluded := by
      rcases treatment_prepare (congrArg Prod.snd reading) with rfl | rfl <;> decide
    have given : treatment ≠ .excluded := by
      rw [treat_of_given reading] at treated
      rw [treatment_of_deliver treated]
      split
      · decide
      · exact notExcluded
    rw [treat_of_given reading']
    rcases deliver_cases again prepared' file.path (targetOf again file) bytes kind
      with ⟨_, _, delivered⟩ | ⟨differs, ⟨dry, _⟩ | ⟨_, delivered⟩⟩
    · rw [delivered]
      exact ⟨.unchanged, rfl, kept, .inr ⟨given, by decide, fun _ => rfl⟩⟩
    · cases wet.symm.trans dry
    · rw [there, Bool.and_true] at differs
      rw [delivered, put_of_holds modes there]
      refine ⟨kind, rfl, kept, .inr ⟨given, notExcluded, fun skipped => ?_⟩⟩
      cases differs.symm.trans skipped

/-- The run with other switches for unchanged files, and with other providers. -/
def again (build : Build) (skip : Bool) (given : List Provider) : Build :=
  { build with config := { build.config with skipUnchanged := skip, providers := given } }

/-- **A second run finds the same at every root**, if no root has come to exist. -/
theorem foundAlike_again (apart : build.SetApart tree) (skip : Bool) (given : List Provider)
    (missing : ∀ turn ∈ turns build tree, turn.state.tree.contains turn.root = false →
      (run build tree).1.tree.contains turn.root = false)
    {turn : Turn} (come : turn ∈ turns build tree) {other : BuildState}
    (related : Shadows (Summary.Repeats skip) (run build tree).1.tree turn.state other) :
    FoundAlike build (again build skip given) turn other := by
  obtain ⟨before, behind⟩ := apart.separate.around_turn come
  have stillThere (there : turn.state.tree.contains turn.root = true) :
      other.tree.contains turn.root = true := by
    rw [related.tree]
    exact behind.contains there
  refine ⟨?_, fun there => ?_⟩
  · cases there : turn.state.tree.contains turn.root with
    | true => exact stillThere there
    | false =>
        rw [related.tree]
        exact missing turn come there
  · have agrees : AgreesBut (build.destination tree <+: ·) turn.state.tree other.tree := by
      rw [related.tree]
      exact behind.toAgreesBut
    refine Collection.files_eq agrees (fun place below => ?_) there (stillThere there)
    rw [before.placeOf] at below
    exact apart.separate.not_prefix (root_mem_of_turns come) below

/-- **A second run makes the same of every file, and finds its output at the target.** -/
theorem repeats_visit (apart : build.SetApart tree) (wet : build.config.dryRun = false)
    (modes : build.config.keepMode = false) (ran : (run build tree).2 = .ok summary)
    (noFailure : summary.failed = 0) (skip : Bool) (given : List Provider) {visit : Visit}
    (inside : visit ∈ visits build tree) :
    AlongsideAt (Shadows (Summary.Repeats skip) (run build tree).1.tree) build
      (again build skip given) visit := by
  intro other related
  obtain ⟨treatment, treated⟩ := treated_of_run ran noFailure inside
  obtain ⟨before, behind⟩ := apart.separate.around_visit inside
  have reads {path : String} (outside : ¬build.destination tree <+: tree.placeOf path)
      (bytes : ByteArray) (read : visit.state.tree.readBytes path = .ok bytes) :
      other.tree.readBytes path = .ok bytes := by
    rw [related.tree]
    refine behind.readBytes ?_ read
    rwa [before.placeOf]
  obtain ⟨prepared, prepared', result, reading, reading', _, _, globals, providers⟩ :=
    prepare_of_treated treated related.globals related.providers
      (reads (apart.separate.source_not_prefix inside))
      (fun path asked => reads (apart.includes visit inside path asked))
      build.config.dryRun skip given
  have reading' : prepare (again build skip given).config other visit.file =
    (prepared', .ok result) := reading'
  have wet' : (again build skip given).config.dryRun = false := wet
  have modes' : (again build skip given).config.keepMode = false := modes
  obtain ⟨treatment', treated', kept, repeated⟩ :=
    treat_of_held wet' modes' reading reading' treated fun bytes gives => by
      rw [related.tree]
      exact apart.separate.readBytes_target wet inside treated gives
  refine related.outcome treated treated' ?_ ?_ kept (related.summary.record repeated)
  · rw [reading, reading', globals]
  · rw [reading, reading', providers]

/-- **A second run can start**, with the same variables. -/
theorem new_again {config : Config} (made : new config tree = .ok build)
    (notCleared : build.config.clearDestination = false) (apart : build.SetApart tree)
    (skip : Bool) (given : List Provider) :
    new { config with skipUnchanged := skip, providers := given } (run build tree).1.tree =
      .ok (again build skip given) := by
  have settings := config_of_new made
  have kept : Keeps (build.destination tree <+: ·) tree (run build tree).1.tree := by
    have opened := tree_opening_of_not_cleared notCleared tree
    have kept := apart.separate.keeps (fun _ inside => inside)
      (congrArg FileTree.workingFolder opened) (walk_run build tree)
    rwa [opened] at kept
  rw [again, settings]
  exact new_of_reads made
    (fun path asked bytes read =>
      kept.readBytes (apart.settings path (settings ▸ asked)) read) config.dryRun skip given

/-- **A second run opens as the first does**, with the tree that this has left. -/
theorem opening_again (notCleared : build.config.clearDestination = false) (skip : Bool)
    {given : List Provider} (providers : given = build.config.providers) (final : FileTree) :
    Alongside (Shadows (Summary.Repeats skip) final) (opening build tree)
      (opening (again build skip given) final) := by
  have notCleared' : (again build skip given).config.clearDestination = false := notCleared
  rw [opening, opening, notCleared, notCleared', if_neg Bool.false_ne_true,
    if_neg Bool.false_ne_true]
  exact ⟨⟨rfl, rfl, providers, rfl, rfl, rfl, fun _ => ⟨rfl, rfl⟩⟩, rfl⟩

/-- **A second run changes nothing.**  Take a run that is not a dry one, does not clear its
destination and does not hand on modes, whose providers refuse changes and whose roots stand apart
from its destination.  If it returns a summary without failures, and no root that it has passed over
exists behind it, then the same run again, with or without leaving unchanged files alone, can start,
returns a summary, and leaves the tree and the variables as they are; as many files are excluded and
as many delivered.  If unchanged files are left alone, then all files that are not excluded are. -/
theorem run_again (config : Config) (tree : FileTree) (build : Build) (summary : Summary)
    (skip : Bool) (made : new config tree = .ok build)
    (wet : config.dryRun = false) (notCleared : config.clearDestination = false)
    (modes : config.keepMode = false)
    (readOnly : ∀ provider ∈ config.providers, provider.writable = false)
    (apart : build.SetApart tree) (ran : (build.run tree).2 = .ok summary)
    (noFailure : summary.failed = 0)
    (missing : ∀ turn ∈ build.turns tree, turn.state.tree.contains turn.root = false →
      (build.run tree).1.tree.contains turn.root = false) :
    let first := (build.run tree).1
    let config' := { config with skipUnchanged := skip, providers := first.providers }
    ∃ build', new config' first.tree = .ok build' ∧
      ∃ summary', (build'.run first.tree).2 = .ok summary' ∧
        (build'.run first.tree).1.tree = first.tree ∧
        (build'.run first.tree).1.globals = first.globals ∧
        summary'.excluded = summary.excluded ∧ summary'.failed = 0 ∧
        summary'.processed + summary'.copied + summary'.unchanged =
          summary.processed + summary.copied + summary.unchanged ∧
        (skip = true →
          summary'.processed = 0 ∧ summary'.copied = 0 ∧
          summary'.unchanged = summary.processed + summary.copied + summary.unchanged ∧
          ∀ visit ∈ build'.visits first.tree,
            (treat build'.config visit.state visit.file).2 = .ok .unchanged ∨
              (treat build'.config visit.state visit.file).2 = .ok .excluded) := by
  intro first config'
  obtain rfl := config_of_new made
  have providers : first.providers = build.config.providers := by
    obtain ⟨_, opened, _⟩ := opening_keeps build tree
    rw [← opened]
    exact (walk_run build tree).providers (opened ▸ readOnly)
  have ignoring : (again build skip first.providers).config.ignoreMissing =
    build.config.ignoreMissing := rfl
  obtain ⟨related, ended⟩ := run_alongside Shadows.of_alike ignoring rfl
    (fun turn come _ => foundAlike_again apart skip _ missing come)
    (fun visit inside => repeats_visit apart wet modes ran noFailure skip _ inside)
    (opening_again notCleared skip providers first.tree)
  rw [ran] at ended
  have counted := summary_of_run ran
  obtain ⟨same, globals, _, excluded, failed, delivered, skipped⟩ := related
  rw [counted] at excluded failed delivered
  rw [noFailure] at failed
  refine ⟨_, new_again made notCleared apart skip first.providers, _, ended, same, globals,
    excluded, failed, delivered, fun skips => ?_⟩
  obtain ⟨noneProcessed, noneCopied⟩ := skipped skips
  refine ⟨noneProcessed, noneCopied, ?_, fun visit inside =>
    left_alone_of_run ended failed noneProcessed noneCopied inside⟩
  unfold Summary.delivered at delivered
  rw [noneProcessed, noneCopied] at delivered
  simpa only [Nat.zero_add] using delivered

/-! ### Runs that are done twice -/

/-- A run that passes over a root. -/
def twice : Build :=
  ⟨{ sources := ["absent", "src"], destination := "out", ignoreMissing := true }, [], Layer.empty⟩

/-- A tree for that run. -/
def twiceTree : FileTree :=
  .ofFiles [("src/a.md", "new"), ("src/b.xml", "left out"), ("src/c/d.md", "other"),
    ("out/a.md", "old")]

theorem setApart_twice : twice.SetApart twiceTree where
  named := FileTree.named_ofFiles _
  roots := by decide +kernel
  settings := nofun
  includes := by decide +kernel
  distinct := by decide +kernel

/-- Both files that are copied are left alone the second time. -/
theorem run_again_twice :
    let summary : Summary := { copied := 2, excluded := 1 }
    let first := (twice.run twiceTree).1
    let config := { twice.config with skipUnchanged := true, providers := first.providers }
    new twice.config twiceTree = .ok twice ∧ twice.SetApart twiceTree ∧
      (twice.run twiceTree).2 = .ok summary ∧
      (∀ turn ∈ twice.turns twiceTree, turn.state.tree.contains turn.root = false →
        first.tree.contains turn.root = false) ∧
      ∃ build, new config first.tree = .ok build ∧
        ∃ summary', (build.run first.tree).2 = .ok summary' ∧
          (build.run first.tree).1.tree = first.tree ∧ summary'.processed = 0 ∧
          summary'.copied = 0 ∧ summary'.unchanged = 2 ∧ summary'.excluded = 1 := by
  intro summary first config
  have made : new twice.config twiceTree = .ok twice := rfl
  have readOnly : ∀ provider ∈ twice.config.providers, provider.writable = false := nofun
  have counted : (twice.run twiceTree).1.summary = summary := by decide +kernel
  have ran : (twice.run twiceTree).2 = .ok summary := by
    rw [ran_of_isOk (by decide +kernel), counted]
  have missing : ∀ turn ∈ twice.turns twiceTree, turn.state.tree.contains turn.root = false →
      first.tree.contains turn.root = false := by decide +kernel
  obtain ⟨build, starts, summary', ended, same, _, excluded, _, _, skipped⟩ :=
    run_again twice.config twiceTree twice summary true made rfl rfl rfl readOnly setApart_twice ran
      rfl missing
  obtain ⟨noneProcessed, noneCopied, unchanged, _⟩ := skipped rfl
  exact ⟨made, setApart_twice, ran, missing, build, starts, summary', ended, same, noneProcessed,
    noneCopied, unchanged, excluded⟩

/-- A run that passes over a root whose path leads through a folder that the run makes. -/
def growing : Build :=
  ⟨{ sources := ["build/../more", "src"], destination := "build/out", ignoreMissing := true }, [],
    Layer.empty⟩

/-- A tree for that run, in which that root exists under another path. -/
def growingTree : FileTree := .ofFiles [("src/a.md", "first"), ("more/b.md", "second")]

/-- The second time the root is found and its file put into the destination. -/
theorem run_again_growing :
    let first := (growing.run growingTree).1
    let second := (growing.run first.tree).1
    new growing.config growingTree = .ok growing ∧ new growing.config first.tree = .ok growing ∧
      growing.SetApart growingTree ∧ growing.config.dryRun = false ∧
      growing.config.clearDestination = false ∧ growing.config.keepMode = false ∧
      growing.config.providers = [] ∧
      (growing.run growingTree).2.isOk = true ∧ first.summary.failed = 0 ∧
      first.tree.node? ["build", "out", "b.md"] = none ∧
      (second.tree.node? ["build", "out", "b.md"]).isSome = true := by
  refine ⟨rfl, rfl, ⟨FileTree.named_ofFiles _, ?_, nofun, ?_, ?_⟩, rfl, rfl, rfl, rfl, ?_⟩ <;>
    decide +kernel

end Build

end CommentDirectives
