import CommentDirectives.Proofs.Build.Collected
import Mathlib.Data.List.Nodup
import Mathlib.Data.List.TakeWhile

/-!
# The files below a folder

The files that are collected from a folder are those below it to which no excluded folder leads,
each once, in the order in which a walk comes to them (`Collection.files_of_folder`): what is in a
folder stands in the place of the folder, and the names in a folder ascend
(`Collection.Precedes`).  The two together tell the listing (`Collection.Lists.unique`).

The walk itself goes over all that is below the root and, where it comes to an excluded folder,
skips what is in it (`Collection.walked`).  That no more is skipped hangs on the order, in which
everything in a folder stands directly behind it (`Collection.isPrefix_between`); that no less is,
on the folders above a place standing in front of it.  So the walk finds just those files
(`Collection.files_eq_walked`).
-/

namespace CommentDirectives

set_option autoImplicit false

namespace Collection

variable {tree : FileTree} {patterns : List FolderPattern} {root : String} {place : Place}

/-! ## The order of a walk -/

/-- What a walk comes to earlier: in some folder, the name that leads to the earlier one is less. -/
def Precedes (earlier later : List String) : Prop :=
  ∃ folder name name', name < name' ∧ folder ++ [name] <+: earlier ∧ folder ++ [name'] <+: later

theorem Precedes.cons {earlier later : List String} (name : String)
    (precedes : Precedes earlier later) : Precedes (name :: earlier) (name :: later) := by
  obtain ⟨folder, first, second, less, front, back⟩ := precedes
  exact ⟨name :: folder, first, second, less, (List.prefix_cons_inj name).mpr front,
    (List.prefix_cons_inj name).mpr back⟩

/-- What is inside of the earlier one also comes earlier. -/
theorem Precedes.append {earlier later : List String} (precedes : Precedes earlier later)
    (names : List String) : Precedes (earlier ++ names) later := by
  obtain ⟨folder, name, name', less, front, back⟩ := precedes
  exact ⟨folder, name, name', less, front.trans (List.prefix_append _ _), back⟩

theorem Precedes.lt {earlier later : List String} (precedes : Precedes earlier later) :
    earlier < later := by
  obtain ⟨folder, name, name', less, ⟨rest, rfl⟩, ⟨rest', rfl⟩⟩ := precedes
  rw [List.append_assoc, List.append_assoc]
  exact List.append_left_lt (List.cons_lt_cons_iff.mpr (.inl less))

/-- Of two places in ascending order, the first leads to the second or comes earlier in a walk. -/
theorem prefix_or_precedes {earlier later : List String} (less : earlier < later) :
    earlier <+: later ∨ Precedes earlier later := by
  induction earlier generalizing later with
  | nil => exact .inl List.nil_prefix
  | cons name rest ih =>
      cases later with
      | nil => exact absurd less (List.not_lt_nil _)
      | cons name' rest' =>
          rcases List.cons_lt_cons_iff.mp less with before | ⟨rfl, behind⟩
          · exact .inr ⟨[], name, name', before, ⟨rest, rfl⟩, ⟨rest', rfl⟩⟩
          · rcases ih behind with leads | precedes
            · exact .inl ((List.prefix_cons_inj name).mpr leads)
            · exact .inr (precedes.cons name)

/-- **What stands between a folder and something in it is in the folder, too.** -/
theorem isPrefix_between {folder between inside : List String} (above : folder < between)
    (below : between < inside) (leads : folder <+: inside) : folder <+: between := by
  rcases prefix_or_precedes above with here | precedes
  · exact here
  · obtain ⟨names, rfl⟩ := leads
    exact absurd (KeyOrder.trans below (precedes.append names).lt) (KeyOrder.irrefl between)

theorem lt_of_append_lt {place earlier later : List String}
    (less : place ++ earlier < place ++ later) : earlier < later := by
  induction place with
  | nil => exact less
  | cons name place ih =>
      rcases List.cons_lt_cons_iff.mp less with before | ⟨_, behind⟩
      · exact absurd before (KeyOrder.irrefl name)
      · exact ih behind

/-! ## What is below a place -/

/-- What is below a place, by what the names lead to from there. -/
theorem mem_below {names : List String} {node : Node} :
    (names, node) ∈ tree.below place ↔ names ≠ [] ∧ tree.node? (place ++ names) = some node := by
  rw [FileTree.below, List.mem_filterMap]
  constructor
  · rintro ⟨⟨key, there⟩, inside, gives⟩
    dsimp only at gives
    split at gives
    · cases gives
    · cases gives
    · next found notHere leads =>
      cases gives
      have someNames : names ≠ [] := notHere
      obtain rfl := List.isPrefixOf?_eq_some_iff_append_eq.mp leads
      refine ⟨someNames, ?_⟩
      rw [FileTree.node?_of_ne_nil (List.append_ne_nil_of_right_ne_nil _ someNames)]
      exact SortedMap.find?_of_mem tree.nodes.ascending inside
  · rintro ⟨someNames, present⟩
    rw [FileTree.node?_of_ne_nil (List.append_ne_nil_of_right_ne_nil _ someNames)] at present
    refine ⟨(place ++ names, node), SortedMap.mem_of_find? present, ?_⟩
    have leads : place.isPrefixOf? (place ++ names) = some names :=
      List.isPrefixOf?_eq_some_iff_append_eq.mpr rfl
    dsimp only
    rw [leads]
    cases names with
    | nil => exact absurd rfl someNames
    | cons name names => rfl

/-- What is below a place comes out in ascending order. -/
theorem ascending_below (tree : FileTree) (place : Place) :
    (tree.below place).Pairwise fun earlier later => earlier.1 < later.1 := by
  refine tree.nodes.ascending.filterMap _ ?_
  rintro ⟨key, node⟩ ⟨key', node'⟩ less ⟨names, _⟩ gives ⟨names', _⟩ gives'
  dsimp only at gives gives' less ⊢
  split at gives
  · cases gives
  · cases gives
  · next leads =>
    split at gives'
    · cases gives'
    · cases gives'
    · next leads' =>
      cases gives
      cases gives'
      obtain rfl := List.isPrefixOf?_eq_some_iff_append_eq.mp leads
      obtain rfl := List.isPrefixOf?_eq_some_iff_append_eq.mp leads'
      exact lt_of_append_lt less

/-! ## Walks -/

/-- A folder below the root that leads to something in it. -/
structure Above (folder names : List String) : Prop where
  someNames : folder ≠ []
  leads : folder <+: names
  strict : folder ≠ names

theorem mem_foldersAbove {names folder : List String} :
    folder ∈ foldersAbove names ↔ Above folder names := by
  induction names using foldersAbove.induct generalizing folder with
  | case1 =>
      simp only [foldersAbove, List.not_mem_nil, false_iff]
      exact fun above => above.strict (List.prefix_nil.mp above.leads)
  | case2 name =>
      simp only [foldersAbove, List.not_mem_nil, false_iff]
      rintro ⟨someNames, leads, strict⟩
      rcases List.prefix_cons_iff.mp leads with rfl | ⟨rest, rfl, front⟩
      · exact someNames rfl
      · rw [List.prefix_nil.mp front] at strict
        exact strict rfl
  | case3 name rest more ih =>
      rw [foldersAbove.eq_3 _ _ more, List.mem_cons, List.mem_map]
      constructor
      · rintro (rfl | ⟨folder, inside, rfl⟩)
        · refine ⟨List.cons_ne_nil _ _, (List.prefix_cons_inj name).mpr List.nil_prefix, ?_⟩
          rintro ⟨⟩
          exact more rfl
        · obtain ⟨_, leads, strict⟩ := ih.mp inside
          refine ⟨List.cons_ne_nil _ _, (List.prefix_cons_inj name).mpr leads, ?_⟩
          rintro ⟨⟩
          exact strict rfl
      · rintro ⟨someNames, leads, strict⟩
        rcases List.prefix_cons_iff.mp leads with rfl | ⟨folder, rfl, front⟩
        · exact absurd rfl someNames
        · cases folder with
          | nil => exact .inl rfl
          | cons first others =>
              refine .inr ⟨first :: others, ih.mpr ⟨List.cons_ne_nil _ _, front, ?_⟩, rfl⟩
              rintro rfl
              exact strict rfl

/-- No folder above is excluded. -/
theorem isReached_iff {names : List String} :
    isReached patterns names = true ↔
      ∀ folder, Above folder names → isExcluded patterns folder = false := by
  simp only [isReached, List.all_eq_true, Bool.not_eq_true', mem_foldersAbove]

/-- Some entries without those in front that are in a folder. -/
def skipped (folder : List String) (entries : List (List String × Node)) :
    List (List String × Node) :=
  entries.dropWhile fun entry => folder.isPrefixOf entry.1

theorem skipped_sublist (folder : List String) (entries : List (List String × Node)) :
    (skipped folder entries).Sublist entries :=
  List.dropWhile_sublist _

/-- Only what is in the folder is skipped. -/
theorem exists_split_skipped (folder : List String) (entries : List (List String × Node)) :
    ∃ inside, entries = inside ++ skipped folder entries ∧
      ∀ entry ∈ inside, folder <+: entry.1 := by
  refine ⟨entries.takeWhile fun entry => folder.isPrefixOf entry.1,
    List.takeWhile_append_dropWhile.symm, fun entry taken => ?_⟩
  exact List.isPrefixOf_iff_prefix.mp
    (List.mem_takeWhile_imp (p := fun entry => folder.isPrefixOf (Prod.fst entry)) taken)

/-- A walk over what is below a root, in which a folder that is excluded is left out and all that is
in it is skipped. -/
def walked (patterns : List FolderPattern) : List (List String × Node) → List (List String × Node)
  | [] => []
  | (names, .file content mode) :: rest => (names, .file content mode) :: walked patterns rest
  | (names, .folder) :: rest =>
    if isExcluded patterns names then walked patterns (skipped names rest)
    else (names, .folder) :: walked patterns rest
termination_by entries => entries.length
decreasing_by
  · simp
  · exact Nat.lt_succ_of_le (skipped_sublist _ _).length_le
  · simp

/-- What a walk comes to: a folder that is excluded is left out. -/
def isWalked (patterns : List FolderPattern) (entry : List String × Node) : Bool :=
  isReached patterns entry.1 && !(entry.2 = .folder && isExcluded patterns entry.1)

/-- Some of what is below a root, in ascending order, with all folders on the way to it but for some
that are not excluded. -/
structure Connected (patterns : List FolderPattern) (entries : List (List String × Node)) :
    Prop where
  named : ∀ entry ∈ entries, entry.1 ≠ []
  ascending : entries.Pairwise fun earlier later => earlier.1 < later.1
  above : ∀ entry ∈ entries, ∀ folder, Above folder entry.1 →
    (folder, .folder) ∈ entries ∨ isExcluded patterns folder = false

namespace Connected

variable {entry : List String × Node} {rest : List (List String × Node)}

/-- All folders on the way to the first entry come before it, so none of them is excluded. -/
theorem isReached_head (connected : Connected patterns (entry :: rest)) :
    isReached patterns entry.1 = true := by
  refine isReached_iff.mpr fun folder above => ?_
  rcases connected.above entry List.mem_cons_self folder above with inside | kept
  · rcases List.mem_cons.mp inside with rfl | behind
    · exact absurd rfl above.strict
    · obtain ⟨names, split⟩ := above.leads
      have less := (List.pairwise_cons.mp connected.ascending).1 _ behind
      rw [← split] at less
      have notLess : ¬folder ++ names < folder := List.le_append_left
      exact absurd less notLess
  · exact kept

/-- Behind an entry that is no excluded folder. -/
theorem tail (connected : Connected patterns (entry :: rest))
    (kept : entry.2 = .folder → isExcluded patterns entry.1 = false) :
    Connected patterns rest := by
  refine ⟨fun other inside => connected.named other (List.mem_cons_of_mem _ inside),
    (List.pairwise_cons.mp connected.ascending).2, fun other inside folder above => ?_⟩
  rcases connected.above other (List.mem_cons_of_mem _ inside) folder above with there | kept'
  · rcases List.mem_cons.mp there with rfl | behind
    · exact .inr (kept rfl)
    · exact .inl behind
  · exact .inr kept'

/-- Whatever is in a folder stands directly behind it. -/
theorem not_prefix_of_mem_skipped {folder : List String} {node : Node}
    (connected : Connected patterns ((folder, node) :: rest))
    (behind : entry ∈ skipped folder rest) : ¬folder <+: entry.1 := by
  obtain ⟨above, ascending⟩ := List.pairwise_cons.mp connected.ascending
  have sublist := skipped_sublist folder rest
  have sorted := ascending.sublist sublist
  intro leads
  cases dropped : skipped folder rest with
  | nil =>
      rw [dropped] at behind
      cases behind
  | cons first others =>
      rw [dropped] at behind sublist sorted
      have outside := List.head?_dropWhile_not (fun entry => folder.isPrefixOf entry.1) rest
      rw [← skipped, dropped, List.head?_cons] at outside
      refine Bool.eq_false_iff.mp outside (List.isPrefixOf_iff_prefix.mpr ?_)
      rcases List.mem_cons.mp behind with rfl | later
      · exact leads
      · have before := above first (sublist.subset List.mem_cons_self)
        exact isPrefix_between before ((List.pairwise_cons.mp sorted).1 entry later) leads

/-- Behind an excluded folder and what is in it. -/
theorem skipped {folder : List String}
    (connected : Connected patterns ((folder, .folder) :: rest)) :
    Connected patterns (skipped folder rest) := by
  have sublist := skipped_sublist folder rest
  refine ⟨fun entry inside =>
      connected.named entry (List.mem_cons_of_mem _ (sublist.subset inside)),
    (List.pairwise_cons.mp connected.ascending).2.sublist sublist,
    fun entry inside other above => ?_⟩
  have outside := connected.not_prefix_of_mem_skipped inside
  rcases connected.above entry (List.mem_cons_of_mem _ (sublist.subset inside)) other above with
    there | kept
  · rcases List.mem_cons.mp there with here | behind
    · cases here
      exact absurd above.leads outside
    · -- A folder that is skipped is in the excluded one, and so is what it leads to.
      obtain ⟨dropped, split, inFolder⟩ := exists_split_skipped folder rest
      rw [split] at behind
      rcases List.mem_append.mp behind with gone | kept
      · exact absurd ((inFolder _ gone).trans above.leads) outside
      · exact .inl kept
  · exact .inr kept

end Connected

/-- **A walk leaves out what is excluded or in an excluded folder**, and nothing else. -/
theorem walked_eq_filter {entries : List (List String × Node)}
    (connected : Connected patterns entries) :
    walked patterns entries = entries.filter (isWalked patterns) := by
  induction entries using walked.induct patterns with
  | case1 => rw [walked, List.filter_nil]
  | case2 names content mode rest ih =>
      have kept : isWalked patterns (names, .file content mode) = true := by
        simp [isWalked, connected.isReached_head]
      rw [walked, List.filter_cons_of_pos kept, ih (connected.tail nofun)]
  | case3 names rest excluded ih =>
      have left : ¬isWalked patterns (names, .folder) = true := by simp [isWalked, excluded]
      obtain ⟨dropped, split, inFolder⟩ := exists_split_skipped names rest
      have unreached : dropped.filter (isWalked patterns) = [] := by
        refine List.filter_eq_nil_iff.mpr fun entry inside kept => ?_
        have behind : entry ∈ rest := split ▸ List.mem_append_left _ inside
        have less : names < entry.1 := (List.pairwise_cons.mp connected.ascending).1 entry behind
        have above : Above names entry.1 :=
          ⟨connected.named _ List.mem_cons_self, inFolder entry inside,
            fun same => KeyOrder.irrefl names (same ▸ less)⟩
        have reached := isReached_iff.mp (Bool.and_eq_true_iff.mp kept).1 names above
        cases reached.symm.trans excluded
      have onward : rest.filter (isWalked patterns) =
          (skipped names rest).filter (isWalked patterns) := by
        conv => lhs; rw [split, List.filter_append, unreached, List.nil_append]
      rw [walked, if_pos excluded, List.filter_cons_of_neg left, onward, ih connected.skipped]
  | case4 names rest included ih =>
      have notExcluded := Bool.eq_false_iff.mpr included
      have kept : isWalked patterns (names, .folder) = true := by
        simp [isWalked, connected.isReached_head, notExcluded]
      rw [walked, if_neg included, List.filter_cons_of_pos kept,
        ih (connected.tail fun _ => notExcluded)]

/-- What is below a place is connected. -/
theorem connected_below (patterns : List FolderPattern) (tree : FileTree) (place : Place) :
    Connected patterns (tree.below place) where
  named entry inside := (mem_below.mp inside).1
  ascending := ascending_below tree place
  above entry inside folder above := by
    obtain ⟨names, split⟩ := above.leads
    have someNames : names ≠ [] := by
      rintro rfl
      exact above.strict ((List.append_nil folder).symm.trans split)
    have stands := Option.isSome_of_eq_some (mem_below.mp inside).2
    rw [← split, ← List.append_assoc] at stands
    exact .inl (mem_below.mpr ⟨above.someNames, FileTree.node?_above someNames stands⟩)

/-! ## Listings -/

/-- A file below a place to which no excluded folder leads. -/
structure Listed (tree : FileTree) (patterns : List FolderPattern) (place : Place)
    (names : List String) : Prop where
  file : ∃ content mode, tree.node? (place ++ names) = some (.file content mode)
  reached : ∀ folder, Above folder names →
    ∀ pattern ∈ patterns, pattern.isMatch (pathOf folder) = false

/-- A listing of the files below a place to which no excluded folder leads, in the order of a
walk. -/
structure Lists (tree : FileTree) (patterns : List FolderPattern) (place : Place)
    (listing : List (List String)) : Prop where
  complete : ∀ names, names ∈ listing ↔ Listed tree patterns place names
  ordered : listing.Pairwise Precedes

namespace Lists

variable {listing : List (List String)}

/-- A listing has no file twice. -/
theorem nodup (lists : Lists tree patterns place listing) : listing.Nodup :=
  lists.ordered.imp fun precedes same => by
    subst same
    exact KeyOrder.irrefl _ precedes.lt

/-- **There is only one listing.** -/
theorem unique {other : List (List String)} (lists : Lists tree patterns place listing)
    (lists' : Lists tree patterns place other) : listing = other := by
  have asymmetric (first second : List String) (_ : first ∈ listing) (_ : second ∈ other)
      (before : first < second) (behind : second < first) : first = second :=
    absurd (KeyOrder.trans before behind) (KeyOrder.irrefl first)
  refine List.Perm.eq_of_pairwise asymmetric (lists.ordered.imp Precedes.lt)
    (lists'.ordered.imp Precedes.lt) ?_
  exact (List.perm_ext_iff_of_nodup lists.nodup lists'.nodup).mpr fun names =>
    (lists.complete names).trans (lists'.complete names).symm

end Lists

/-- The names that lead to the files among some entries. -/
def fileNames (entries : List (List String × Node)) : List (List String) :=
  entries.filterMap fun entry => if entry.2 = .folder then none else some entry.1

/-- A file of a root, by the names that lead to it from there. -/
def fileAt (root : String) (names : List String) : SourceFile :=
  ⟨Path.join root (pathOf names), pathOf names⟩

theorem mem_fileNames {entries : List (List String × Node)} {names : List String} :
    names ∈ fileNames entries ↔ ∃ content mode, (names, .file content mode) ∈ entries := by
  rw [fileNames, List.mem_filterMap]
  constructor
  · rintro ⟨⟨key, node⟩, inside, gives⟩
    cases node with
    | folder => cases gives
    | file content mode =>
        cases gives
        exact ⟨content, mode, inside⟩
  · rintro ⟨content, mode, inside⟩
    exact ⟨_, inside, rfl⟩

theorem ascending_fileNames {entries : List (List String × Node)}
    (ascending : entries.Pairwise fun earlier later => earlier.1 < later.1) :
    (fileNames entries).Pairwise (· < ·) := by
  refine ascending.filterMap _ fun earlier later less names gives names' gives' => ?_
  split at gives
  · cases gives
  · split at gives'
    · cases gives'
    · cases gives
      cases gives'
      exact less

theorem isReached_iff_matches {names : List String} :
    isReached patterns names = true ↔
      ∀ folder, Above folder names →
        ∀ pattern ∈ patterns, pattern.isMatch (pathOf folder) = false := by
  simp only [isReached_iff, isExcluded, List.any_eq_false, Bool.not_eq_true]

/-- Nothing is below a file, so of two files below a place none leads to the other. -/
theorem Listed.precedes {earlier later : List String} (listed : Listed tree patterns place earlier)
    (listed' : Listed tree patterns place later) (less : earlier < later) :
    Precedes earlier later := by
  rcases prefix_or_precedes less with ⟨names, rfl⟩ | precedes
  · obtain ⟨content, mode, present⟩ := listed.file
    obtain ⟨content', mode', present'⟩ := listed'.file
    have someNames : names ≠ [] := by
      rintro rfl
      rw [List.append_nil] at less
      exact KeyOrder.irrefl earlier less
    rw [← List.append_assoc] at present'
    cases present.symm.trans (FileTree.node?_above someNames (Option.isSome_of_eq_some present'))
  · exact precedes

/-- **A walk lists the files below a folder.** -/
theorem lists_walked (folder : tree.node? place = some .folder) :
    Lists tree patterns place (fileNames (walked patterns (tree.below place))) := by
  have connected := connected_below patterns tree place
  rw [walked_eq_filter connected]
  have complete (names : List String) :
      names ∈ fileNames ((tree.below place).filter (isWalked patterns)) ↔
        Listed tree patterns place names := by
    simp only [mem_fileNames, List.mem_filter, mem_below]
    constructor
    · rintro ⟨content, mode, ⟨_, present⟩, kept⟩
      exact ⟨⟨content, mode, present⟩,
        isReached_iff_matches.mp (Bool.and_eq_true_iff.mp kept).1⟩
    · rintro ⟨⟨content, mode, present⟩, reached⟩
      refine ⟨content, mode, ⟨?_, present⟩, ?_⟩
      · rintro rfl
        rw [List.append_nil, folder] at present
        cases present
      · rw [isWalked, isReached_iff_matches.mpr reached]
        rfl
  have ascending := ascending_fileNames (connected.ascending.filter (isWalked patterns))
  exact ⟨complete, ascending.imp_of_mem fun {names names'} inside inside' less =>
    ((complete names).mp inside).precedes ((complete names').mp inside') less⟩

/-- **The files of a folder are those that a walk finds.** -/
theorem files_eq_walked (located : tree.locate root = .ok place)
    (folder : tree.isFile root = false) :
    files tree patterns root =
      (fileNames (walked patterns (tree.below place))).map (fileAt root) := by
  rw [walked_eq_filter (connected_below patterns tree place), fileNames, files, folder,
    if_neg Bool.false_ne_true, reached, located]
  dsimp only
  rw [List.filterMap_filter, List.filterMap_filter, List.map_filterMap]
  refine List.filterMap_congr fun entry _ => ?_
  obtain ⟨names, node⟩ := entry
  cases node with
  | folder => simp
  | file content mode => simp [isWalked, fileAt]

/-! ## Paths of listed files -/

/-- A path through some names tells them. -/
theorem pathOf_inj {names other : List String} (someNames : names ≠ []) (some_ : other ≠ [])
    (named : ∀ name ∈ names, Path.IsName name) (named' : ∀ name ∈ other, Path.IsName name)
    (same : pathOf names = pathOf other) : names = other := by
  have pieces := Path.splitSlashes_pathOf named someNames
  rw [same, Path.splitSlashes_pathOf named' some_] at pieces
  exact (List.map_injective_iff.mpr (fun _ _ => String.toList_inj.mp) pieces).symm

/-- What is known of a file below a folder in a tree where files and folders have names. -/
theorem Listed.names {names : List String} (listed : Listed tree patterns place names)
    (named : tree.Named) (folder : tree.node? place = some .folder) :
    names ≠ [] ∧ ∀ name ∈ names, Path.IsName name := by
  obtain ⟨content, mode, present⟩ := listed.file
  refine ⟨?_, named.isName (Option.isSome_of_eq_some present)⟩
  rintro rfl
  rw [List.append_nil, folder] at present
  cases present

/-- **Different files have different paths**, also as seen from the root, and each path names the
place of its file. -/
theorem Lists.paths {listing : List (List String)} (lists : Lists tree patterns place listing)
    (named : tree.Named) (located : tree.locate root = .ok place)
    (folder : tree.node? place = some .folder) :
    ((listing.map (fileAt root)).map fun file => file.relative).Nodup ∧
      ∀ names ∈ listing, tree.placeOf (fileAt root names).path = place ++ names := by
  have known (names : List String) (inside : names ∈ listing) :=
    ((lists.complete names).mp inside).names named folder
  constructor
  · rw [List.map_map]
    refine lists.nodup.map_on fun names inside other inside' same => ?_
    exact pathOf_inj (known names inside).1 (known other inside').1 (known names inside).2
      (known other inside').2 same
  · intro names inside
    obtain ⟨someNames, areNames⟩ := known names inside
    rw [FileTree.locate_eq_placeOf located]
    exact FileTree.placeOf_join tree root areNames someNames

/-! ## Collected files -/

/-- **From a folder, the files below it are collected to which no excluded folder leads**, each once
and in the order of a walk. -/
theorem files_of_folder (patterns : List FolderPattern) (located : tree.locate root = .ok place)
    (folder : tree.node? place = some .folder) :
    let listing := fileNames (walked patterns (tree.below place))
    files tree patterns root = listing.map (fileAt root) ∧
      Lists tree patterns place listing ∧ listing.Nodup ∧
      (tree.Named → ((files tree patterns root).map fun file => file.relative).Nodup ∧
        ∀ names ∈ listing, tree.placeOf (fileAt root names).path = place ++ names) := by
  intro listing
  have notFile : tree.isFile root = false := by
    refine Bool.eq_false_iff.mpr fun file => ?_
    obtain ⟨bytes, mode, found⟩ := FileTree.isFile_iff.mp file
    obtain ⟨located', present⟩ := FileTree.lookup_eq_ok.mp found
    rw [← Except.ok.inj (located.symm.trans located'), folder] at present
    cases present
  have collected : files tree patterns root = listing.map (fileAt root) :=
    files_eq_walked located notFile
  have lists : Lists tree patterns place listing := lists_walked folder
  refine ⟨collected, lists, lists.nodup, fun named => ?_⟩
  rw [collected]
  exact lists.paths named located folder

/-- From a file, just that file is collected. -/
theorem files_of_file (patterns : List FolderPattern) (file : tree.isFile root = true) :
    ∃ name, Path.fileName? root = some name ∧ files tree patterns root = [⟨root, name⟩] := by
  obtain ⟨name, _, last⟩ := FileTree.fileName?_of_isFile file
  exact ⟨name, last, by rw [files, if_pos file, last, Option.getD_some]⟩

end Collection

end CommentDirectives
