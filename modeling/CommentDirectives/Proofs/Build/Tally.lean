import CommentDirectives.Proofs.Build.Counting
import CommentDirectives.Proofs.Build.Listing
import CommentDirectives.Proofs.Build.Outputs

/-!
# Every file is counted once

A run that returns a summary has come to all its roots, and at each of them that exists to all files
that are collected there, in their order (`Build.files_visits`).  Every one of these visits adds one
to the count of what became of the file (`Build.Walk.tallied`), so the counts add up to the number
of the files (`Build.run_counts_every_file`).
-/

namespace CommentDirectives

set_option autoImplicit false

/-- How many files a summary counts. -/
def Summary.total (summary : Summary) : Nat :=
  summary.processed + summary.copied + summary.unchanged + summary.excluded + summary.failed

/-- A summary with one more file, by what became of it. -/
def Summary.tally (summary : Summary) : Except RunError Treatment → Summary
  | .ok treatment => summary.record treatment
  | .error _ => { summary with failed := summary.failed + 1 }

theorem Summary.total_tally (summary : Summary) (result : Except RunError Treatment) :
    (summary.tally result).total = summary.total + 1 := by
  cases result with
  | error cause => simp only [tally, total]; omega
  | ok treatment => cases treatment <;> simp only [tally, record, total] <;> omega

namespace Build

variable {config : Config} {build : Build} {tree : FileTree} {summary : Summary}

/-! ## Counts -/

/-- A file that does not end the run is counted once. -/
theorem summary_outcome {visit : Visit} (goesOn : (outcome config visit).2 = .ok ()) :
    (outcome config visit).1.summary =
      visit.state.summary.tally (treat config visit.state visit.file).2 := by
  cases treated : (treat config visit.state visit.file).2 with
  | ok treatment => rw [outcome_of_treated treated]; rfl
  | error cause =>
      rcases outcome_of_failed treated with ended | counted
      · cases ended.symm.trans goesOn
      · exact counted

/-- The counts behind some files. -/
def tallied (config : Config) (summary : Summary) (visits : List Visit) : Summary :=
  visits.foldl (fun summary visit => summary.tally (treat config visit.state visit.file).2) summary

theorem total_tallied (config : Config) (summary : Summary) (visits : List Visit) :
    (tallied config summary visits).total = summary.total + visits.length := by
  induction visits generalizing summary with
  | nil => rfl
  | cons visit later ih =>
      rw [tallied, List.foldl_cons, ← tallied, ih, Summary.total_tally, List.length_cons]
      omega

/-- **Every visit is counted once.** -/
theorem Walk.tallied {before after : BuildState} {visits : List Visit}
    (walk : Walk config before visits after)
    (goOn : ∀ visit ∈ visits, (outcome config visit).2 = .ok ()) :
    after.summary = Build.tallied config before.summary visits := by
  induction visits generalizing before with
  | nil => exact BuildState.Alike.summary walk
  | cons visit later ih =>
      obtain ⟨first, others⟩ := List.forall_mem_cons.mp goOn
      rw [ih walk.2 others, summary_outcome first, walk.1.summary]
      rfl

/-! ## Visits -/

/-- The files that are collected at a root, if it exists when its turn comes. -/
def filesAt (build : Build) (turn : Turn) : List SourceFile :=
  if turn.state.tree.contains turn.root then
    Collection.files turn.state.tree build.patterns turn.root
  else []

/-- Files of which none ends the run are all visited, in their order. -/
theorem files_visitsAmong {state : BuildState} {files : List SourceFile}
    (ended : (treatAll config state files).2 = .ok ()) :
    (visitsAmong config state files).map (fun visit => visit.file) = files := by
  induction files generalizing state with
  | nil => rfl
  | cons file rest ih =>
      rw [treatAll_cons config state file rest] at ended
      rw [visitsAmong, List.map_cons]
      cases first : treatAll config state [file] with
      | mk next result =>
          rw [first] at ended
          cases result with
          | error cause => cases ended
          | ok done => exact congrArg (file :: ·) (ih ended)

theorem files_visitsAt {turn : Turn} (ended : (treatRoot build turn.state turn.root).2 = .ok ()) :
    (visitsAt build turn).map (fun visit => visit.file) = filesAt build turn := by
  rw [treatRoot_eq] at ended
  unfold visitsAt filesAt
  split
  · next there =>
    rw [if_pos there] at ended
    exact files_visitsAmong ended
  · rfl

/-- **A run that returns a summary has come to all its roots and all their files**, each in its
turn. -/
theorem files_visits (ran : (run build tree).2 = .ok summary) :
    (visits build tree).map (fun visit => visit.file) =
      (turns build tree).flatMap (filesAt build) := by
  rw [visits, List.map_flatMap]
  exact List.flatMap_congr fun turn come => files_visitsAt ((turns_of_run ran).2 turn come)

/-- **Every file is visited once and counted once.**  From a root that is a folder, a walk that
skips what is in excluded folders collects exactly the files below the root to which no excluded
folder leads, each once, the names in a folder in ascending order and what is in a folder in its
place; from a root that is a file, just that file is collected.  A run that returns a summary has
come to its roots in their order, and at each one that exists to the files collected there; it has
counted every visit by what became of the file, so its counts add up to the number of these
files. -/
theorem run_counts_every_file (build : Build) (tree : FileTree) :
    (∀ (root : String) (place : Place), tree.locate root = .ok place →
      tree.node? place = some .folder →
      let listing := Collection.fileNames (Collection.walked build.patterns (tree.below place))
      Collection.files tree build.patterns root = listing.map (Collection.fileAt root) ∧
        Collection.Lists tree build.patterns place listing ∧ listing.Nodup ∧
        (tree.Named →
          ((Collection.files tree build.patterns root).map fun file => file.relative).Nodup ∧
            ∀ names ∈ listing,
              tree.placeOf (Collection.fileAt root names).path = place ++ names)) ∧
    (∀ root : String, tree.isFile root = true → ∃ name, Path.fileName? root = some name ∧
      Collection.files tree build.patterns root = [⟨root, name⟩]) ∧
    ∀ summary, (build.run tree).2 = .ok summary →
      (build.turns tree).map (fun turn => turn.root) = build.config.sources ∧
        (build.visits tree).map (fun visit => visit.file) =
          (build.turns tree).flatMap (filesAt build) ∧
        summary = tallied build.config {} (build.visits tree) ∧
        summary.processed + summary.copied + summary.unchanged + summary.excluded +
            summary.failed =
          ((build.turns tree).map fun turn => (filesAt build turn).length).sum := by
  refine ⟨fun root place located folder => Collection.files_of_folder _ located folder,
    fun root file => Collection.files_of_file _ file, fun summary ran => ?_⟩
  have visited := files_visits ran
  have counted : summary = tallied build.config {} (build.visits tree) := by
    rw [← summary_of_run ran, (walk_run build tree).tallied (ok_of_run ran),
      (opening_keeps build tree).2.2]
  refine ⟨(turns_of_run ran).1, visited, counted, ?_⟩
  calc
    summary.total = (build.visits tree).length := by
      rw [counted, total_tallied]
      exact Nat.zero_add _
    _ = ((build.turns tree).flatMap (filesAt build)).length := by
      rw [← visited, List.length_map]
    _ = ((build.turns tree).map fun turn => (filesAt build turn).length).sum :=
      List.length_flatMap

/-- A run over a folder, a root that does not exist, and a file. -/
def mixed : Build :=
  ⟨{ sources := ["src", "absent", "single.md"], destination := "out", skipUnchanged := true,
      ignoreMissing := true },
    [⟨.anyFolders :: "hidden".toList.map PatternPiece.character⟩], Layer.empty⟩

/-- A tree for that run, with excluded folders, a file that is left out, one whose output is there
already, and one with a folder at its target. -/
def mixedTree : FileTree :=
  .ofFiles [("src/a.md", "new"), ("src/b.xml", "left out"), ("src/c/d.md", "same"),
    ("src/c/hidden/e.md", "hidden"), ("src/c.md", "new"), ("src/hidden/f/g.md", "hidden"),
    ("src/z.md", "failing"), ("single.md", "single"), ("out/c/d.md", "same"), ("out/z.md/y", "")]

/-- The files of that run that are not hidden, in the order of a walk. -/
def mixedListing : List (List String) :=
  [["a.md"], ["b.xml"], ["c", "d.md"], ["c.md"], ["z.md"]]

/-- All six files that are not hidden are counted. -/
theorem run_counts_every_file_mixed :
    let summary : Summary := { copied := 3, unchanged := 1, excluded := 1, failed := 1 }
    mixedTree.locate "src" = .ok ["src"] ∧ mixedTree.node? ["src"] = some .folder ∧
      Collection.files mixedTree mixed.patterns "src" =
        mixedListing.map (Collection.fileAt "src") ∧
      Collection.Lists mixedTree mixed.patterns ["src"] mixedListing ∧
      mixedTree.isFile "single.md" = true ∧
      Collection.files mixedTree mixed.patterns "single.md" = [⟨"single.md", "single.md"⟩] ∧
      (mixed.run mixedTree).2 = .ok summary ∧
      ((mixed.turns mixedTree).map fun turn => (filesAt mixed turn).length).sum = 6 := by
  intro summary
  obtain ⟨fromFolder, fromFile, counts⟩ := run_counts_every_file mixed mixedTree
  have place : mixedTree.placeOf "src" = ["src"] := by decide +kernel
  have there : mixedTree.contains "src" = true := by decide +kernel
  have located : mixedTree.locate "src" = .ok ["src"] := by
    rw [← place]
    exact (FileTree.contains_iff.mp there).1
  have folder : mixedTree.node? ["src"] = some .folder := by decide +kernel
  have file : mixedTree.isFile "single.md" = true := by decide +kernel
  obtain ⟨collected, lists, _⟩ := fromFolder "src" ["src"] located folder
  have listing : Collection.fileNames (Collection.walked mixed.patterns (mixedTree.below ["src"])) =
      mixedListing := by
    rw [Collection.walked_eq_filter (Collection.connected_below _ _ _)]
    decide +kernel
  rw [listing] at collected lists
  obtain ⟨name, last, single⟩ := fromFile "single.md" file
  have given : Path.fileName? "single.md" = some "single.md" := by decide +kernel
  obtain rfl := Option.some.inj (given.symm.trans last)
  have counted : (mixed.run mixedTree).1.summary = summary := by decide +kernel
  have ran : (mixed.run mixedTree).2 = .ok summary := by
    rw [ran_of_isOk (by decide +kernel), counted]
  obtain ⟨_, _, _, total⟩ := counts summary ran
  exact ⟨located, folder, collected, lists, file, single, ran, total.symm⟩

end Build

end CommentDirectives
