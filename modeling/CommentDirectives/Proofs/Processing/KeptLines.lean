import CommentDirectives.Proofs.Processing.Entries
import CommentDirectives.Proofs.Session.OpenedComment

/-!
# Keeping lines only adds empty lines

Where lines are kept, empty entries of the output stand for lines that are left out.  Nothing else
comes of it: with the setting and without it, a text fails at the same place for the same cause, is
excluded, or has an output, it leaves the same variables behind, and the output without kept lines is
the other one without some of its empty entries (`Config.keptLines_thinned`).

The two runs are followed side by side (`Processing.thin_advance`).  The same files are open in both,
and the sessions differ in the output only, which no line looks at.
-/

namespace CommentDirectives

set_option autoImplicit false

/-- Entries, and the same entries without some that are empty. -/
inductive Thinned : List (List Char) → List (List Char) → Prop where
  | nil : Thinned [] []
  | entry (entry : List Char) {kept left : List (List Char)} (thinned : Thinned kept left) :
      Thinned (entry :: kept) (entry :: left)
  | blank {kept left : List (List Char)} (thinned : Thinned kept left) : Thinned ([] :: kept) left

namespace Thinned

variable {kept left : List (List Char)}

/-- The same entry is added to both. -/
theorem concat (thinned : Thinned kept left) (last : List Char) :
    Thinned (kept ++ [last]) (left ++ [last]) := by
  induction thinned with
  | nil => exact .entry last .nil
  | entry first _ ih => exact .entry first ih
  | blank _ ih => exact .blank ih

/-- An empty entry is added that is left out. -/
theorem concat_blank (thinned : Thinned kept left) : Thinned (kept ++ [[]]) left := by
  induction thinned with
  | nil => exact .blank .nil
  | entry first _ ih => exact .entry first ih
  | blank _ ih => exact .blank ih

end Thinned

/-- A configuration where lines are kept, or where they are not. -/
def Config.withKept (config : Config) (keep : Bool) : Config := { config with keepLines := keep }

namespace Session

/-- A session with another output. -/
def withOutput (output : Array (List Char)) (session : Session) : Session :=
  { session with output := output }

/-- No directive notices the output. -/
theorem unnoticed_withOutput (output : Array (List Char)) : Unnoticed (withOutput output) where
  globals _ := rfl
  locals _ := rfl
  providers _ := rfl
  nesting _ := rfl
  withGlobals _ _ := rfl
  withLocals _ _ := rfl
  withProviders _ _ := rfl
  withNesting _ _ := rfl
  report _ _ _ _ := rfl
  record _ _ := rfl

/-- A session that differs from another one in the output only, of which some empty entries are
missing. -/
inductive Thins (session : Session) : Session → Prop where
  | intro (output : Array (List Char)) (thinned : Thinned session.output.toList output.toList) :
      Thins session (session.withOutput output)

namespace Thins

variable {kept thin : Session} (thins : Thins kept thin) (config : Config)
include thins

theorem nesting : thin.nesting = kept.nesting := by
  cases thins
  rfl

theorem globals : thin.globals = kept.globals := by
  cases thins
  rfl

theorem providers : thin.providers = kept.providers := by
  cases thins
  rfl

theorem thinned : Thinned kept.output.toList thin.output.toList := by
  cases thins with
  | intro output thinned => exact thinned

theorem withNesting (nesting : Nesting) :
    Thins { kept with nesting := nesting } { thin with nesting := nesting } := by
  cases thins with
  | intro output thinned => exact .intro output thinned

theorem withComment (inBlock : Bool) (opened : Option Location) :
    Thins { kept with inBlock := inBlock, commentOpened := opened }
      { thin with inBlock := inBlock, commentOpened := opened } := by
  cases thins with
  | intro output thinned => exact .intro output thinned

theorem report (severity : Severity) (message : String) (details : List (String × String)) :
    Thins (kept.report severity message details) (thin.report severity message details) := by
  cases thins with
  | intro output thinned => exact .intro output thinned

theorem write (line : List Char) : Thins (kept.write line) (thin.write line) := by
  cases thins with
  | intro output thinned =>
      refine .intro (output.push line) ?_
      rw [output_write, Array.toList_push]
      exact thinned.concat line

theorem reportOpenComment :
    Thins (FileResult.reportOpenComment kept) (FileResult.reportOpenComment thin) := by
  cases thins with
  | intro output thinned =>
      have thins : Thins kept (kept.withOutput output) := .intro output thinned
      have opened : (kept.withOutput output).commentOpened = kept.commentOpened := rfl
      have inBlock : (kept.withOutput output).inBlock = kept.inBlock := rfl
      simp only [FileResult.reportOpenComment, opened, inBlock]
      split
      · split
        · exact thins.report _ _ _
        · exact thins
      · exact thins

/-- Where a line is left out, the empty entry is on one side only. -/
theorem skip : Thins (kept.skip (config.withKept true)) (thin.skip (config.withKept false)) := by
  cases thins with
  | intro output thinned =>
      refine .intro output ?_
      rw [output_skip]
      exact thinned.concat_blank

theorem skipLines (count : Nat) :
    Thins (kept.skipLines (config.withKept true) count)
      (thin.skipLines (config.withKept false) count) := by
  induction count with
  | zero => exact thins
  | succ count ih => exact ih.skip config

variable (location : Location) (base : Nat)

/-- A line of text adds the same entry on both sides, or is left out on both. -/
theorem writeText (text : List Char) :
    Thins (kept.writeText ⟨config.withKept true, location, base⟩ text)
      (thin.writeText ⟨config.withKept false, location, base⟩ text) := by
  have inBlock : thin.inBlock = kept.inBlock := by
    cases thins
    rfl
  have opened : thin.commentOpened = kept.commentOpened := by
    cases thins
    rfl
  cases comments : config.keepComments with
  | true =>
      have whole (session : Session) (keep : Bool) :
          session.writeText ⟨config.withKept keep, location, base⟩ text = session.write text :=
        if_pos comments
      rw [whole, whole]
      exact thins.write text
  | false =>
      rw [writeText_of_removal comments, writeText_of_removal comments]
      simp only [openedBehind, inBlock, opened]
      split
      · exact (thins.withComment _ _).skip config
      · exact (thins.withComment _ _).write _

/-- A directive does the same on both sides. -/
theorem followDirective (keyword : String) (tail : List Char) :
    Thins (kept.followDirective ⟨config.withKept true, location, base⟩ keyword tail).1
        (thin.followDirective ⟨config.withKept false, location, base⟩ keyword tail).1 ∧
      (thin.followDirective ⟨config.withKept false, location, base⟩ keyword tail).2 =
        (kept.followDirective ⟨config.withKept true, location, base⟩ keyword tail).2 := by
  have setting : thin.followDirective ⟨config.withKept false, location, base⟩ keyword tail =
    thin.followDirective ⟨config.withKept true, location, base⟩ keyword tail := rfl
  rw [setting]
  cases thins with
  | intro output thinned =>
      have same := output_followDirective kept ⟨config.withKept true, location, base⟩ keyword tail
      rw [(unnoticed_withOutput output).followDirective]
      refine ⟨.intro output ?_, rfl⟩
      rw [same]
      exact thinned

/-- **A line does the same on both sides.** -/
theorem processLine (line : List Char) :
    Thins (kept.processLine ⟨config.withKept true, location, base⟩ line).1
        (thin.processLine ⟨config.withKept false, location, base⟩ line).1 ∧
      (thin.processLine ⟨config.withKept false, location, base⟩ line).2 =
        (kept.processLine ⟨config.withKept true, location, base⟩ line).2 := by
  have substituted (text : List Char) :
      thin.substitute ⟨config.withKept false, location, base⟩ text =
        kept.substitute ⟨config.withKept true, location, base⟩ text := by
    cases thins
    rfl
  have active : thin.isActive = kept.isActive := congrArg Nesting.isActive thins.nesting
  have allowBlanks (keep : Bool) : (config.withKept keep).allowBlanks = config.allowBlanks := rfl
  simp only [Session.processLine, allowBlanks, active]
  cases LineForm.ofLine config.allowBlanks line with
  | directive keyword tail =>
      exact (thins.skip config).followDirective config location base keyword tail
  | uncomment indent text verbatim =>
      dsimp only
      split
      · simp only [Session.uncomment, substituted]
        cases (if verbatim then .ok text
          else kept.substitute ⟨config.withKept true, location, base⟩ text) with
        | error cause => exact ⟨thins, rfl⟩
        | ok body => exact ⟨thins.write _, rfl⟩
      · exact ⟨thins.skip config, rfl⟩
  | plain =>
      dsimp only
      split
      · rw [substituted]
        cases kept.substitute ⟨config.withKept true, location, base⟩ line with
        | error cause => exact ⟨thins, rfl⟩
        | ok text => exact ⟨thins.writeText config location base text, rfl⟩
      · exact ⟨thins.skip config, rfl⟩

end Thins

end Session

namespace Processing

variable {config : Config} {tree : FileTree} {kept thin : Session}

/-- States with the same open files, and with sessions that differ in the output only. -/
inductive ThinStates : Processing → Processing → Prop where
  | intro {kept thin : Session} (files : List OpenFile) (thins : kept.Thins thin) :
      ThinStates ⟨files, kept⟩ ⟨files, thin⟩

/-- What two runs leave in the same way, with sessions that differ in the output only. -/
def ThinEnds (ended ended' : Processing × Ending) : Prop :=
  ended.1.session.Thins ended'.1.session ∧ ended'.2 = ended.2

/-- Steps that lead on with the same open files, or stop in the same way, and sessions that differ
in the output only. -/
abbrev ThinSteps : Step → Step → Prop := Abreast ThinStates ThinEnds

section Steps

variable (thins : kept.Thins thin)
include thins

theorem thin_endFile (file : OpenFile) (outer : List OpenFile) :
    ThinSteps (endFile kept file outer) (endFile thin file outer) := by
  simp only [endFile, thins.nesting]
  split
  · split
    · exact .stop ⟨thins, rfl⟩
    · exact .proceed (.intro _ thins)
  · exact .proceed (.intro _ thins)

theorem thin_leaveFile (config : Config) (file : OpenFile) (outer : List OpenFile) :
    ThinSteps (.proceed (leaveFile (config.withKept true) kept file outer))
      (.proceed (leaveFile (config.withKept false) thin file outer)) := by
  have truncated := thins.withNesting (kept.nesting.truncate file.baseDepth)
  rw [leaveFile, leaveFile, thins.nesting]
  exact .proceed (.intro outer (truncated.skipLines config _))

theorem thin_includeFile (location : Location) (files : List OpenFile) (target : String) :
    ThinSteps (includeFile tree kept location files target)
      (includeFile tree thin location files target) := by
  unfold includeFile
  split
  · exact .stop ⟨thins, rfl⟩
  dsimp only
  split
  · exact .stop ⟨thins, rfl⟩
  · rw [(thins.report _ _ _).nesting]
    exact .proceed (.intro _ (thins.report _ _ _))

/-- **Steps stay side by side.** -/
theorem thin_advance (files : List OpenFile) :
    ThinSteps (advance (config.withKept true) tree ⟨files, kept⟩)
      (advance (config.withKept false) tree ⟨files, thin⟩) := by
  cases files with
  | nil => exact .stop ⟨thins, rfl⟩
  | cons file outer =>
      obtain ⟨path, number, lines, base⟩ := file
      cases lines with
      | nil => exact thin_endFile thins _ outer
      | cons line rest =>
          obtain ⟨onward, same⟩ := thins.processLine config (lineLocation path number line) base line
          rw [lineLocation] at onward same
          obtain ⟨after, result, ran⟩ : ∃ after result, kept.processLine
            ⟨config.withKept true, ⟨path, number + 1, String.ofList line⟩, base⟩ line =
              (after, result) := ⟨_, _, rfl⟩
          obtain ⟨after', result', ran'⟩ : ∃ after' result', thin.processLine
            ⟨config.withKept false, ⟨path, number + 1, String.ofList line⟩, base⟩ line =
              (after', result') := ⟨_, _, rfl⟩
          rw [ran, ran'] at onward same
          obtain rfl : result' = result := same
          simp only [advance, readLine, ran, ran']
          cases result' with
          | error cause => exact .stop ⟨onward, rfl⟩
          | ok flow =>
              cases flow with
              | next => exact .proceed (.intro _ onward)
              | leaveFile => exact thin_leaveFile onward config _ outer
              | excludeFile => exact .stop ⟨onward.report _ _ _, rfl⟩
              | «include» target => exact thin_includeFile onward _ _ target

end Steps

/-- Runs stay side by side. -/
theorem thin_run {first first' : Processing} (start : ThinStates first first') :
    ThinEnds (first.run (config.withKept true) tree) (first'.run (config.withKept false) tree) := by
  refine run_abreast ThinStates ThinEnds (fun left right _ states => ?_) start
  cases states with
  | intro files thins => exact thin_advance thins files

end Processing

/-- **Keeping lines only adds empty lines.**  With two configurations that differ in nothing but
whether lines are kept, a text fails at the same place for the same cause, is excluded, or has an
output.  The shared variables and the providers are the same behind it, and the entries of the output
are the same but for empty ones that are missing where lines are not kept. -/
theorem Config.keptLines_thinned (config : Config) (tree : FileTree) (globals : Layer)
    (providers : List Provider) (path text : String) :
    let kept := (config.withKept true).processText tree globals providers path text
    let thin := (config.withKept false).processText tree globals providers path text
    ((∃ cause, kept.outcome = .error cause ∧ thin.outcome = .error cause) ∨
      (kept.outcome = .ok .excluded ∧ thin.outcome = .ok .excluded) ∨
      (kept.outcome =
          .ok (.text (FileResult.render config text kept.session.output.toList)) ∧
        thin.outcome =
          .ok (.text (FileResult.render config text thin.session.output.toList)))) ∧
    thin.session.globals = kept.session.globals ∧
    thin.session.providers = kept.session.providers ∧
    Thinned kept.session.output.toList thin.session.output.toList := by
  intro kept thin
  let start := Processing.start globals providers path text
  have thins : start.session.Thins start.session := .intro #[] .nil
  obtain ⟨last, ending⟩ : Processing.ThinEnds (start.run (config.withKept true) tree)
    (start.run (config.withKept false) tree) := Processing.thin_run (.intro start.files thins)
  obtain ⟨ended, how⟩ : ∃ ended, (start.run (config.withKept true) tree).2 = ended := ⟨_, rfl⟩
  have result : kept = FileResult.ofEnding (config.withKept true) text
      (start.run (config.withKept true) tree).1.session ended := how ▸ rfl
  have result' : thin = FileResult.ofEnding (config.withKept false) text
      (start.run (config.withKept false) tree).1.session ended := (ending.trans how) ▸ rfl
  cases ended with
  | complete =>
      have behind : kept.session.Thins thin.session := by
        rw [result, result']
        exact last.reportOpenComment
      refine ⟨.inr (.inr ?_), behind.globals, behind.providers, behind.thinned⟩
      rw [result, result']
      simp only [FileResult.ofEnding, FileResult.output_reportOpenComment]
      exact ⟨rfl, rfl⟩
  | excluded =>
      rw [result, result']
      exact ⟨.inr (.inl ⟨rfl, rfl⟩), last.globals, last.providers, last.thinned⟩
  | failed cause =>
      rw [result, result']
      exact ⟨.inl ⟨cause, rfl, rfl⟩, last.globals, last.providers, last.thinned⟩

end CommentDirectives
