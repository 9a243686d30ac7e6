import CommentDirectives.Build
import CommentDirectives.Proofs.FileTree.Changes
import CommentDirectives.Proofs.Processing.Reading

/-!
# What becomes of a file

A file is treated in two parts.  First it is read: it is left out, or it gives some bytes, or it
fails, and nothing in the tree changes (`Build.prepare`, `Build.treat_eq`).  Only then are the bytes
put at the target, where they are held already, or not put because of a dry run, or written
(`Build.deliver_cases`).  So a file that gives no bytes leaves the tree as it is
(`Build.tree_treat_of_output?_eq_none`), and what is written is the whole of what it gives
(`Build.treat_cases`, `Build.keeps_treat`).

Reading depends on the file and the files that it includes, not on the tree as a whole
(`Build.prepare_of_reads`).
-/

namespace CommentDirectives

set_option autoImplicit false

open FileTree (Keeps Receives)

namespace Build

variable {config : Config} {state : BuildState} {tree : FileTree} {file : SourceFile}
  {source target : String} {bytes : ByteArray}

/-! ## Putting bytes -/

theorem holds_iff {path : String} :
    holds tree path bytes = true ↔ tree.readBytes path = .ok bytes := by
  unfold holds
  cases tree.readBytes path with
  | error failure => simp
  | ok content =>
      have same : (content == bytes) = (content.data == bytes.data) := rfl
      dsimp only
      rw [same, beq_iff_eq, ← ByteArray.ext_iff, Except.ok.injEq]

/-- Folders that are made for a path leave everything as it is. -/
theorem keeps_makeFoldersFor (tree : FileTree) (target : String) :
    Keeps (fun _ => False) tree (makeFoldersFor tree target).1 := by
  unfold makeFoldersFor
  split
  · exact .refl _ tree
  · exact FileTree.keeps_makeFolders _ _

/-- Bytes that are put at a path are there. -/
theorem receives_of_put {after : FileTree} (put : put config tree source target bytes = (after, .ok ())) :
    Receives (tree.placeOf target) bytes tree after ∧
      after.locate target = .ok (tree.placeOf target) := by
  have kept := keeps_makeFoldersFor tree target
  unfold Build.put at put
  split at put
  · cases put
  · next made _ making =>
    rw [making] at kept
    dsimp only at put
    split at put
    · cases put
    · next written writing =>
      cases put
      obtain ⟨located, _⟩ := FileTree.write_cases writing
      have received := FileTree.receives_of_write writing
      rw [kept.placeOf] at received located
      refine ⟨⟨(kept.mono fun _ => False.elim).trans received.toKeeps, received.received⟩, ?_⟩
      exact received.locate located

/-- Bytes that cannot be put leave everything as it is. -/
theorem keeps_of_put {after : FileTree} {cause : RunError}
    (put : put config tree source target bytes = (after, .error cause)) :
    Keeps (fun _ => False) tree after := by
  have kept := keeps_makeFoldersFor tree target
  unfold Build.put at put
  split at put
  · next made _ making =>
    cases put
    rwa [making] at kept
  · next made _ making =>
    rw [making] at kept
    dsimp only at put
    split at put <;> cases put
    exact kept

/-- Files and folders still have names when bytes are put at a path, or cannot be put there. -/
theorem named_put (named : tree.Named) (config : Config) (source target : String)
    (bytes : ByteArray) : (put config tree source target bytes).1.Named := by
  cases putting : put config tree source target bytes with
  | mk after result =>
      cases result with
      | error cause => exact (keeps_of_put putting).named named
      | ok done => exact (receives_of_put putting).1.named named

/-- Bytes that a file holds already can be put there, which changes nothing. -/
theorem put_of_holds (keepsMode : config.keepMode = false) (held : holds tree target bytes = true) :
    put config tree source target bytes = (tree, .ok ()) := by
  obtain ⟨mode, found⟩ := FileTree.readBytes_eq_ok.mp (holds_iff.mp held)
  obtain ⟨located, _⟩ := FileTree.lookup_eq_ok.mp found
  have folders : makeFoldersFor tree target = (tree, .ok ()) := by
    unfold makeFoldersFor
    split
    · rfl
    · next parent =>
      rw [FileTree.makeFolders_of_lookup located parent]
      rfl
  simp only [put, folders, keepsMode, Bool.false_eq_true, if_false, FileTree.write_same found]

/-- What becomes of bytes that are to be put at a path. -/
theorem deliver_cases (config : Config) (state : BuildState) (source target : String)
    (bytes : ByteArray) (treatment : Treatment) :
    (config.skipUnchanged = true ∧ holds state.tree target bytes = true ∧
        deliver config state source target bytes treatment =
          (state.report .debug "unchanged" [("file", target)], .ok .unchanged)) ∨
      (config.skipUnchanged && holds state.tree target bytes) = false ∧
        (config.dryRun = true ∧
            deliver config state source target bytes treatment = (state, .ok treatment) ∨
          config.dryRun = false ∧
            deliver config state source target bytes treatment =
              ({ state with tree := (put config state.tree source target bytes).1 },
                (put config state.tree source target bytes).2.map fun _ => treatment)) := by
  unfold deliver
  by_cases held : (config.skipUnchanged && holds state.tree target bytes) = true
  · obtain ⟨skip, same⟩ := Bool.and_eq_true_iff.mp held
    rw [if_pos held]
    exact .inl ⟨skip, same, rfl⟩
  · rw [if_neg held]
    refine .inr ⟨Bool.eq_false_iff.mpr held, ?_⟩
    cases dry : config.dryRun with
    | true => exact .inl ⟨rfl, rfl⟩
    | false => exact .inr ⟨rfl, rfl⟩

/-- Bytes that are delivered were found at their target, or they were put there. -/
theorem treatment_of_deliver {given treatment : Treatment}
    (delivered : (deliver config state source target bytes given).2 = .ok treatment) :
    treatment =
      if config.skipUnchanged && holds state.tree target bytes then .unchanged else given := by
  rcases deliver_cases config state source target bytes given with
    ⟨skips, held, result⟩ | ⟨differs, ⟨_, result⟩ | ⟨_, result⟩⟩ <;> rw [result] at delivered
  · cases delivered
    rw [skips, held]
    rfl
  · cases delivered
    rw [differs, if_neg Bool.false_ne_true]
  · rw [differs, if_neg Bool.false_ne_true]
    dsimp only at delivered
    cases putting : (put config state.tree source target bytes).2 with
    | error cause =>
        rw [putting] at delivered
        cases delivered
    | ok done =>
        rw [putting] at delivered
        cases delivered
        rfl

/-- A dry run tells for all bytes whether they are found at their target or would be put there. -/
theorem deliver_of_dryRun (dry : config.dryRun = true) (state : BuildState)
    (source target : String) (bytes : ByteArray) (given : Treatment) :
    (deliver config state source target bytes given).2 =
      .ok (if config.skipUnchanged && holds state.tree target bytes then .unchanged else given) := by
  rcases deliver_cases config state source target bytes given with
    ⟨skips, held, result⟩ | ⟨differs, ⟨_, result⟩ | ⟨wet, _⟩⟩
  · rw [result, skips, held]
    rfl
  · rw [result, differs, if_neg Bool.false_ne_true]
  · cases wet.symm.trans dry

/-! ## Reading files -/

/-- What a file gives before anything is put into the destination: the state behind it, and its
bytes with the treatment that puts them, unless it is left out. -/
def prepare (config : Config) (state : BuildState) (file : SourceFile) :
    BuildState × Except RunError (Option (ByteArray × Treatment)) :=
  if config.isExcluded file.path then (state.progress config "excluded" file.path, .ok none)
  else if config.isProcessed file.path then
    let result := config.processFile state.tree state.globals state.providers file.path
    let state := state.afterFile result.session
    match result.outcome with
    | .error cause => (state, .error cause)
    | .ok .excluded => (state.progress config "excluded by directive" file.path, .ok none)
    | .ok (.text text) =>
      (state.progress config "preprocessing" file.path, .ok (some (text.toUTF8, .processed)))
  else
    match state.tree.readBytes file.path with
    | .error cause => (state, .error (.file file.path cause))
    | .ok bytes => (state.progress config "copying" file.path, .ok (some (bytes, .copied)))

/-- The path that a file is put at. -/
def targetOf (config : Config) (file : SourceFile) : String :=
  Path.join config.destination file.relative

/-- **A file is read before anything is put into the destination.** -/
theorem treat_eq (config : Config) (state : BuildState) (file : SourceFile) :
    treat config state file =
      match prepare config state file with
      | (state, .error cause) => (state, .error cause)
      | (state, .ok none) => (state, .ok .excluded)
      | (state, .ok (some (bytes, treatment))) =>
        deliver config state file.path (targetOf config file) bytes treatment := by
  unfold treat prepare
  split
  · rfl
  · split
    · unfold processOne
      dsimp only
      cases (config.processFile state.tree state.globals state.providers file.path).outcome with
      | error cause => rfl
      | ok output => cases output <;> rfl
    · unfold copyOne
      cases state.tree.readBytes file.path <;> rfl

theorem treat_of_left_out {prepared : BuildState}
    (reading : prepare config state file = (prepared, .ok none)) :
    treat config state file = (prepared, .ok .excluded) := by
  rw [treat_eq, reading]

theorem treat_of_given {prepared : BuildState} {treatment : Treatment}
    (reading : prepare config state file = (prepared, .ok (some (bytes, treatment)))) :
    treat config state file =
      deliver config prepared file.path (targetOf config file) bytes treatment := by
  rw [treat_eq, reading]

/-- Reading a file changes nothing in the tree. -/
theorem tree_prepare (config : Config) (state : BuildState) (file : SourceFile) :
    (prepare config state file).1.tree = state.tree := by
  unfold prepare
  split
  · rfl
  · split
    · dsimp only
      split <;> rfl
    · split <;> rfl

theorem summary_prepare (config : Config) (state : BuildState) (file : SourceFile) :
    (prepare config state file).1.summary = state.summary := by
  unfold prepare
  split
  · rfl
  · split
    · dsimp only
      split <;> rfl
    · split <;> rfl

/-- Behind a file, the variables and providers are those that reading it leaves behind, and nothing
is counted yet. -/
theorem treat_keeps (config : Config) (state : BuildState) (file : SourceFile) :
    (treat config state file).1.globals = (prepare config state file).1.globals ∧
      (treat config state file).1.providers = (prepare config state file).1.providers ∧
      (treat config state file).1.summary = state.summary := by
  rw [← summary_prepare config state file, treat_eq]
  split
  · next prepared => rw [prepared]; exact ⟨rfl, rfl, rfl⟩
  · next prepared => rw [prepared]; exact ⟨rfl, rfl, rfl⟩
  · next prepared bytes treatment gives =>
    rw [gives]
    rcases deliver_cases config prepared file.path (targetOf config file) bytes treatment with
      ⟨_, _, delivered⟩ | ⟨_, ⟨_, delivered⟩ | ⟨_, delivered⟩⟩ <;>
    · rw [delivered]
      exact ⟨rfl, rfl, rfl⟩

/-- The treatment of a file that gives bytes. -/
theorem treatment_prepare {treatment : Treatment}
    (gives : (prepare config state file).2 = .ok (some (bytes, treatment))) :
    treatment = .processed ∨ treatment = .copied := by
  unfold prepare at gives
  split at gives
  · cases gives
  · split at gives
    · dsimp only at gives
      split at gives <;> cases gives
      exact .inl rfl
    · split at gives <;> cases gives
      exact .inr rfl

/-- The bytes that a file gives: its processed text or, for a file that is only copied, what it
holds; none if it is left out or cannot be read or processed. -/
def output? (config : Config) (state : BuildState) (file : SourceFile) : Option ByteArray :=
  match (prepare config state file).2 with
  | .ok (some (bytes, _)) => some bytes
  | _ => none

/-- The bytes that a file puts at its target; none also if nothing is written there. -/
def written? (config : Config) (state : BuildState) (file : SourceFile) : Option ByteArray :=
  if config.dryRun then none
  else
    match (treat config state file).2 with
    | .ok .processed | .ok .copied => output? config state file
    | _ => none

/-- **A file that gives no bytes leaves the tree as it is.** -/
theorem tree_treat_of_output?_eq_none (nothing : output? config state file = none) :
    (treat config state file).1.tree = state.tree := by
  have kept := tree_prepare config state file
  rw [treat_eq]
  unfold output? at nothing
  split
  · next prepared => rwa [prepared] at kept
  · next prepared => rwa [prepared] at kept
  · next prepared =>
    rw [prepared] at nothing
    cases nothing

/-- In a dry run the tree stays as it is. -/
theorem tree_treat_of_dryRun (dry : config.dryRun = true) (state : BuildState) (file : SourceFile) :
    (treat config state file).1.tree = state.tree := by
  have kept := tree_prepare config state file
  rw [treat_eq]
  split
  · next prepared => rwa [prepared] at kept
  · next prepared => rwa [prepared] at kept
  · next prepared bytes treatment gives =>
    rw [gives] at kept
    rcases deliver_cases config prepared file.path (targetOf config file) bytes treatment with
      ⟨_, _, delivered⟩ | ⟨_, ⟨_, delivered⟩ | ⟨wet, _⟩⟩
    · rw [delivered]
      exact kept
    · rw [delivered]
      exact kept
    · rw [dry] at wet
      cases wet

/-- **What a file writes is the whole of what it gives**, and all else that changes is that folders
are added. -/
theorem treat_cases (config : Config) (state : BuildState) (file : SourceFile) :
    (∃ bytes, written? config state file = some bytes ∧
        Receives (state.tree.placeOf (targetOf config file)) bytes state.tree
          (treat config state file).1.tree ∧
        (treat config state file).1.tree.locate (targetOf config file) =
          .ok (state.tree.placeOf (targetOf config file))) ∨
      written? config state file = none ∧
        Keeps (fun _ => False) state.tree (treat config state file).1.tree := by
  cases dry : config.dryRun with
  | true =>
      refine .inr ⟨by rw [written?, dry, if_pos rfl], ?_⟩
      rw [tree_treat_of_dryRun dry]
      exact .refl _ _
  | false =>
      have kept := tree_prepare config state file
      have written : written? config state file =
          match (treat config state file).2 with
          | .ok .processed | .ok .copied => output? config state file
          | _ => none := by
        rw [written?, dry, if_neg Bool.false_ne_true]
      obtain ⟨prepared, result, gives⟩ : ∃ prepared result, prepare config state file =
        (prepared, result) := ⟨_, _, rfl⟩
      rw [gives] at kept
      have treated := treat_eq config state file
      rw [gives] at treated
      rw [written, treated, ← kept]
      cases result with
      | error cause => exact .inr ⟨rfl, .refl _ _⟩
      | ok given =>
          cases given with
          | none => exact .inr ⟨rfl, .refl _ _⟩
          | some pair =>
              obtain ⟨bytes, treatment⟩ := pair
              have kind := treatment_prepare (congrArg Prod.snd gives)
              have output : output? config state file = some bytes := by
                rw [output?, gives]
              dsimp only
              rcases deliver_cases config prepared file.path (targetOf config file) bytes treatment
                with ⟨_, _, delivered⟩ | ⟨_, ⟨wet, _⟩ | ⟨_, delivered⟩⟩
              · rw [delivered]
                exact .inr ⟨rfl, .refl _ _⟩
              · cases dry.symm.trans wet
              · rw [delivered]
                obtain ⟨after, outcome, putting⟩ : ∃ after outcome,
                  put config prepared.tree file.path (targetOf config file) bytes =
                    (after, outcome) := ⟨_, _, rfl⟩
                rw [putting]
                cases outcome with
                | error cause => exact .inr ⟨rfl, keeps_of_put putting⟩
                | ok done =>
                    refine .inl ⟨bytes, ?_, receives_of_put putting⟩
                    rcases kind with rfl | rfl <;> exact output

/-- A file leaves everything as it is but for what it writes. -/
theorem keeps_treat (config : Config) (state : BuildState) (file : SourceFile) :
    Keeps (fun place => written? config state file ≠ none ∧
        state.tree.placeOf (targetOf config file) = place) state.tree
      (treat config state file).1.tree := by
  rcases treat_cases config state file with ⟨bytes, written, received, _⟩ | ⟨_, kept⟩
  · refine received.toKeeps.mono ?_
    rintro place rfl
    exact ⟨by rw [written]; exact nofun, rfl⟩
  · exact kept.mono fun _ => False.elim

/-- A file that is there behind the treatment of one was written by it, or was there in front of
it. -/
theorem origin_of_treat {place : Place} {mode : Nat}
    (present : (treat config state file).1.tree.node? place = some (.file bytes mode)) :
    (written? config state file = some bytes ∧
        state.tree.placeOf (targetOf config file) = place ∧
        (treat config state file).1.tree.locate (targetOf config file) = .ok place) ∨
      (state.tree.node? place = some (.file bytes mode) ∧
        ¬(written? config state file ≠ none ∧
          state.tree.placeOf (targetOf config file) = place)) := by
  rcases treat_cases config state file with ⟨given, written, received, located⟩ | ⟨unwritten, kept⟩
  · by_cases here : state.tree.placeOf (targetOf config file) = place
    · subst here
      obtain ⟨mode', put⟩ := received.received
      cases put.symm.trans present
      exact .inl ⟨written, rfl, located⟩
    · exact .inr ⟨received.file_before (fun same => here same.symm) present,
        fun wrote => here wrote.2⟩
  · exact .inr ⟨kept.file_before id present, fun wrote => wrote.1 unwritten⟩

/-- **What becomes of a file that is treated**, unless the run is a dry one: it is left out, or its
target holds what it gives and nothing changes, or that is put there. -/
theorem treated_cases (wet : config.dryRun = false) {treatment : Treatment}
    (treated : (treat config state file).2 = .ok treatment) :
    treatment = .excluded ∧ output? config state file = none ∨
      ∃ bytes, output? config state file = some bytes ∧
        (treatment = .unchanged ∧ config.skipUnchanged = true ∧
            holds state.tree (targetOf config file) bytes = true ∧
            (treat config state file).1.tree = state.tree ∨
          (treatment = .processed ∨ treatment = .copied) ∧
            put config state.tree file.path (targetOf config file) bytes =
              ((treat config state file).1.tree, .ok ())) := by
  have kept := tree_prepare config state file
  obtain ⟨prepared, result, reading⟩ : ∃ prepared result, prepare config state file =
    (prepared, result) := ⟨_, _, rfl⟩
  have whole := treat_eq config state file
  rw [reading] at whole kept
  rw [whole] at treated ⊢
  dsimp only at kept
  cases result with
  | error cause => cases treated
  | ok given =>
      cases given with
      | none =>
          cases treated
          exact .inl ⟨rfl, by rw [output?, reading]⟩
      | some pair =>
          obtain ⟨bytes, kind⟩ := pair
          refine .inr ⟨bytes, by rw [output?, reading], ?_⟩
          dsimp only at treated ⊢
          rcases deliver_cases config prepared file.path (targetOf config file) bytes kind with
            ⟨skips, held, delivered⟩ | ⟨_, ⟨dry, _⟩ | ⟨_, delivered⟩⟩
          · rw [delivered] at treated ⊢
            rw [kept] at held
            cases treated
            exact .inl ⟨rfl, skips, held, kept⟩
          · cases wet.symm.trans dry
          · rw [delivered, kept] at treated
            rw [delivered, kept]
            cases putting : put config state.tree file.path (targetOf config file) bytes with
            | mk after outcome =>
                rw [putting] at treated
                cases outcome with
                | error cause => cases treated
                | ok done =>
                    cases treated
                    exact .inr ⟨treatment_prepare (congrArg Prod.snd reading), rfl⟩

/-- **What a file gives is at its target behind its treatment**, if that does not fail and the run
is not a dry one. -/
theorem readBytes_treat (wet : config.dryRun = false) {treatment : Treatment}
    (treated : (treat config state file).2 = .ok treatment)
    (gives : output? config state file = some bytes) :
    (treat config state file).1.tree.readBytes (targetOf config file) = .ok bytes := by
  rcases treated_cases wet treated with
    ⟨_, nothing⟩ | ⟨given, gives', ⟨_, _, held, same⟩ | ⟨_, put⟩⟩
  · cases nothing.symm.trans gives
  · cases gives'.symm.trans gives
    rw [same]
    exact holds_iff.mp held
  · cases gives'.symm.trans gives
    obtain ⟨received, located⟩ := receives_of_put put
    obtain ⟨mode, there⟩ := received.received
    rw [← received.placeOf] at there located
    exact FileTree.readBytes_eq_ok.mpr ⟨mode, FileTree.lookup_eq_ok.mpr ⟨located, there⟩⟩

/-! ## Reading in two trees -/

/-- The files that are included where a file is processed. -/
def includesOf (config : Config) (state : BuildState) (file : SourceFile) : List String :=
  if config.isExcluded file.path then []
  else if config.isProcessed file.path then
    config.includes state.tree state.globals state.providers file.path
  else []

/-- **A file that is read without a failure gives the same in a state with the same variables and
providers, and with a tree where it and the files that it includes hold the same bytes.** -/
theorem prepare_of_reads {other : BuildState} (globals : other.globals = state.globals)
    (providers : other.providers = state.providers)
    (readsFile : ∀ bytes, state.tree.readBytes file.path = .ok bytes →
      other.tree.readBytes file.path = .ok bytes)
    (readsIncluded : ∀ path ∈ includesOf config state file, ∀ bytes,
      state.tree.readBytes path = .ok bytes → other.tree.readBytes path = .ok bytes)
    {prepared : BuildState} {result : Option (ByteArray × Treatment)}
    (gives : prepare config state file = (prepared, .ok result)) :
    ∃ prepared', prepare config other file = (prepared', .ok result) ∧
      prepared'.globals = prepared.globals ∧ prepared'.providers = prepared.providers := by
  unfold prepare at gives ⊢
  unfold includesOf at readsIncluded
  split at gives
  · next excluded =>
    cases gives
    rw [if_pos excluded]
    exact ⟨_, rfl, globals, providers⟩
  · next included =>
    rw [if_neg included] at readsIncluded ⊢
    split at gives
    · next followed =>
      rw [if_pos followed] at readsIncluded ⊢
      have succeeded (cause : RunError) :
          (config.processFile state.tree state.globals state.providers file.path).outcome ≠
            .error cause := by
        intro failed
        simp only [failed, Prod.mk.injEq, reduceCtorEq, and_false] at gives
      have same := Config.processFile_of_reads succeeded
        (fun _ => FileTree.readText_of_readBytes readsFile)
        fun path asked _ => FileTree.readText_of_readBytes (readsIncluded path asked)
      rw [globals, providers, same]
      dsimp only at gives ⊢
      split at gives <;> cases gives
      · next excluded => exact ⟨_, rfl, rfl, rfl⟩
      · next text => exact ⟨_, rfl, rfl, rfl⟩
    · next copied =>
      rw [if_neg copied]
      split at gives
      · cases gives
      · next bytes held =>
        cases gives
        rw [readsFile bytes held]
        exact ⟨_, rfl, globals, providers⟩

/-- What a run does with the results does not come into the reading of files. -/
theorem prepare_congr (config : Config) (state : BuildState) (file : SourceFile)
    (dryRun skipUnchanged : Bool) (given : List Provider) :
    prepare { config with dryRun := dryRun, skipUnchanged := skipUnchanged, providers := given }
      state file = prepare config state file := by
  unfold prepare
  rw [Config.processFile_congr]
  rfl

/-- **A file that is treated is read alike in another state**, one with the same variables and
providers and with a tree where it and the files that it includes hold the same bytes, whatever the
other run does with the results. -/
theorem prepare_of_treated {other : BuildState} {treatment : Treatment}
    (treated : (treat config state file).2 = .ok treatment)
    (globals : other.globals = state.globals) (providers : other.providers = state.providers)
    (readsFile : ∀ bytes, state.tree.readBytes file.path = .ok bytes →
      other.tree.readBytes file.path = .ok bytes)
    (readsIncluded : ∀ path ∈ includesOf config state file, ∀ bytes,
      state.tree.readBytes path = .ok bytes → other.tree.readBytes path = .ok bytes)
    (dryRun skipUnchanged : Bool) (given : List Provider) :
    ∃ prepared prepared' result, prepare config state file = (prepared, .ok result) ∧
      prepare { config with
          dryRun := dryRun, skipUnchanged := skipUnchanged, providers := given } other file =
        (prepared', .ok result) ∧
      prepared.tree = state.tree ∧ prepared'.tree = other.tree ∧
      prepared'.globals = prepared.globals ∧ prepared'.providers = prepared.providers := by
  have kept := tree_prepare config state file
  have kept' := tree_prepare config other file
  rw [treat_eq] at treated
  cases reading : prepare config state file with
  | mk prepared result =>
      rw [reading] at treated kept
      cases result with
      | error cause => cases treated
      | ok result =>
          obtain ⟨prepared', reading', sameGlobals, sameProviders⟩ :=
            prepare_of_reads globals providers readsFile readsIncluded reading
          rw [reading'] at kept'
          exact ⟨prepared, prepared', result, rfl, (prepare_congr ..).trans reading', kept, kept',
            sameGlobals, sameProviders⟩

/-- Providers that refuse changes are the same behind a file. -/
theorem providers_prepare (readOnly : ∀ provider ∈ state.providers, provider.writable = false) :
    (prepare config state file).1.providers = state.providers := by
  unfold prepare
  split
  · rfl
  · split
    · have kept := Config.providers_processFile config state.tree state.globals file.path readOnly
      dsimp only
      split <;> exact kept
    · split <;> rfl

end Build

end CommentDirectives
