import CommentDirectives.Proofs.FileTree.Changes

/-!
# The files that are collected from a root

Every file that is collected from a root stands below the root, is led to by its path, and has a
path seen from the root that is made of names (`Collection.collected_of_mem`).  So the path goes on
from any folder to a place below that folder.

Which files are collected hangs on the files below the root alone: they are the same in two trees
that agree there but for folders that are added (`Collection.files_eq`).
-/

namespace CommentDirectives

set_option autoImplicit false

namespace SortedMap

variable {κ ν : Type} [LT κ] [DecidableEq κ] [KeyOrder κ]

/-! ## Entries of maps -/

theorem find?_of_mem {entries : List (κ × ν)} {entry : κ × ν}
    (ascending : entries.Pairwise fun earlier later => earlier.1 < later.1)
    (inside : entry ∈ entries) : find? entry.1 entries = some entry.2 := by
  induction entries with
  | nil => cases inside
  | cons head rest ih =>
      obtain ⟨below, ascendingRest⟩ := List.pairwise_cons.mp ascending
      rw [find?]
      rcases List.mem_cons.mp inside with rfl | behind
      · exact if_pos rfl
      · have later : entry.1 ≠ head.1 := fun same =>
          KeyOrder.irrefl head.1 (by simpa [same] using below entry behind)
        rw [if_neg later]
        exact ih ascendingRest behind

/-- Among the entries with a property, a key has its value if that gives it the property. -/
theorem find?_filter_entries (keep : κ × ν → Bool) (key : κ) {entries : List (κ × ν)}
    (ascending : entries.Pairwise fun earlier later => earlier.1 < later.1) :
    find? key (entries.filter keep) =
      (find? key entries).filter fun value => keep (key, value) := by
  induction entries with
  | nil => rfl
  | cons head rest ih =>
      obtain ⟨below, ascendingRest⟩ := List.pairwise_cons.mp ascending
      by_cases here : key = head.1
      · subst here
        have behind : find? head.1 (rest.filter keep) = none :=
          find?_eq_none_of_below _ fun entry inside => below entry (List.mem_of_mem_filter inside)
        by_cases kept : keep head = true <;> simp [find?, Option.filter, kept, behind]
      · by_cases kept : keep head = true <;>
          simp [find?, kept, here, ih ascendingRest]

/-- Two maps have the same entries with a property if they give the same keys values that have
it. -/
theorem filter_entries_eq {keep : κ × ν → Bool} {left right : SortedMap κ ν}
    (same : ∀ key, ((left.get? key).filter fun value => keep (key, value)) =
      (right.get? key).filter fun value => keep (key, value)) :
    left.entries.filter keep = right.entries.filter keep := by
  refine entries_ext (left.ascending.filter _) (right.ascending.filter _) fun key => ?_
  rw [find?_filter_entries keep key left.ascending, find?_filter_entries keep key right.ascending]
  exact same key

end SortedMap

namespace Path

/-! ## The name of a file -/

/-- The last component of a path is its last piece, if that is a name. -/
theorem fileName?_of_last {path : String} {front : List (List Char)} {piece : List Char}
    (pieces : splitSlashes path.toList = front ++ [piece]) (notIdle : isIdle piece = false)
    (notUp : piece ≠ ['.', '.']) : fileName? path = some (String.ofList piece) := by
  have last : (components path).getLast? = some (String.ofList piece) := by
    rw [components, pieces]
    cases front with
    | nil =>
        have full : piece.isEmpty = false := by
          rw [isIdle, Bool.or_eq_false_iff] at notIdle
          exact notIdle.1
        simp [full]
    | cons first rest =>
        dsimp only
        rw [List.cons_append]
        have kept : (rest ++ [piece]).filter (fun piece => !isIdle piece) =
            rest.filter (fun piece => !isIdle piece) ++ [piece] := by
          simp [List.filter_append, notIdle]
        dsimp only
        rw [kept, List.map_append]
        split
        · exact List.getLast?_concat
        · rw [← List.cons_append]
          exact List.getLast?_concat
  have notPoint : String.ofList piece ≠ "." := by
    intro point
    have text := congrArg String.toList point
    rw [String.toList_ofList] at text
    rw [text] at notIdle
    cases notIdle
  have notPoints : String.ofList piece ≠ ".." := by
    intro points
    have text := congrArg String.toList points
    rw [String.toList_ofList] at text
    exact notUp text
  rw [fileName?, last]
  simp [notPoint, notPoints]

end Path

namespace FileTree

variable {tree : FileTree}

/-- A path that leads to a file ends with its name. -/
theorem fileName?_of_isFile {path : String} (file : tree.isFile path = true) :
    ∃ name, Path.IsName name ∧ Path.fileName? path = some name := by
  obtain ⟨bytes, mode, found⟩ := isFile_iff.mp file
  obtain ⟨located, present⟩ := lookup_eq_ok.mp found
  obtain ⟨_, _, followed⟩ := locate_eq_ok.mp located
  rcases List.eq_nil_or_concat' (Path.splitSlashes path.toList) with none_ | ⟨front, piece, pieces⟩
  · exact absurd none_ (Path.splitSlashes_ne_nil _)
  rw [pieces] at followed
  obtain ⟨reached, folder⟩ := follow_front followed
  have above := folder (List.cons_ne_nil _ _)
  rw [follow_append reached, follow_cons_of_folder above] at followed
  have place := Except.ok.inj followed
  -- A piece that does not lead down would lead to a folder.
  have notIdle : Path.isIdle piece = false := by
    cases idle : Path.isIdle piece with
    | false => rfl
    | true =>
        rw [Path.step, if_pos idle] at place
        cases (place ▸ above).symm.trans present
  have notUp : piece ≠ ['.', '.'] := by
    intro up
    have upward : (Path.along (tree.start path) front).dropLast = tree.placeOf path := by
      rw [← place, Path.step, notIdle, if_neg Bool.false_ne_true, if_pos up]
    rcases List.eq_nil_or_concat' (Path.along (tree.start path) front) with root | ⟨outer, name, split⟩
    · rw [root] at upward
      rw [← upward] at present
      cases present
    · rw [split] at above
      rw [split, List.dropLast_concat] at upward
      rw [← upward, node?_parent (by rw [above]; rfl)] at present
      cases present
  refine ⟨String.ofList piece, ⟨?_, ?_, ?_⟩, Path.fileName?_of_last pieces notIdle notUp⟩ <;>
    rw [String.toList_ofList]
  · exact notIdle
  · exact notUp
  · have inside : piece ∈ Path.splitSlashes path.toList := by
      rw [pieces]
      exact List.mem_append_right _ List.mem_cons_self
    exact Path.not_mem_of_mem_splitSlashes inside

end FileTree

namespace Collection

variable {tree before after : FileTree} {patterns : List FolderPattern} {root : String}

/-! ## Collected files -/

/-- What is known of a file that is collected from a root. -/
structure Collected (tree : FileTree) (root : String) (file : SourceFile) : Prop where
  present : ∃ content mode, tree.node? (tree.placeOf file.path) = some (.file content mode)
  below : tree.placeOf root <+: tree.placeOf file.path
  located : file.path.toList.contains '\x00' = false →
    tree.locate file.path = .ok (tree.placeOf file.path)
  relative : ∃ names, names ≠ [] ∧ (∀ name ∈ names, Path.IsName name) ∧
    file.relative = pathOf names

/-- The file that an entry of a tree gives below a root, if it gives one. -/
def sourceFile? (patterns : List FolderPattern) (root : String) (place : Place)
    (entry : Place × Node) : Option SourceFile :=
  match place.isPrefixOf? entry.1, entry.2 with
  | some (name :: names), .file .. =>
    if isReached patterns (name :: names) then
      some ⟨Path.join root (pathOf (name :: names)), pathOf (name :: names)⟩
    else none
  | _, _ => none

/-- The files below a root that is a folder, by the entries of the tree. -/
theorem files_of_locate {place : Place} (located : tree.locate root = .ok place)
    (folder : tree.isFile root = false) :
    files tree patterns root = tree.nodes.entries.filterMap (sourceFile? patterns root place) := by
  simp only [files, folder, Bool.false_eq_true, if_false, reached, located, FileTree.below,
    List.filter_filterMap, List.filterMap_filterMap]
  refine List.filterMap_congr fun entry _ => ?_
  obtain ⟨key, node⟩ := entry
  unfold sourceFile?
  cases inside : place.isPrefixOf? key with
  | none => rfl
  | some names =>
      cases names with
      | nil => rfl
      | cons name names =>
          by_cases reachable : isReached patterns (name :: names) = true <;> cases node <;>
            simp [Option.filter, reachable]

/-- **Every file that is collected stands below its root**, and its path seen from there is made of
names. -/
theorem collected_of_mem (named : tree.Named) (there : tree.contains root = true)
    {file : SourceFile} (inside : file ∈ files tree patterns root) : Collected tree root file := by
  obtain ⟨located, _⟩ := FileTree.contains_iff.mp there
  cases single : tree.isFile root with
  | true =>
      rw [files, if_pos single, List.mem_singleton] at inside
      obtain ⟨content, mode, found⟩ := FileTree.isFile_iff.mp single
      obtain ⟨name, isName, last⟩ := FileTree.fileName?_of_isFile single
      subst inside
      refine ⟨⟨content, mode, (FileTree.lookup_eq_ok.mp found).2⟩, List.prefix_rfl,
        fun _ => located, [name], List.cons_ne_nil _ _, ?_, ?_⟩
      · rw [List.forall_mem_singleton]
        exact isName
      · rw [last]
        rfl
  | false =>
      rw [files_of_locate located single] at inside
      obtain ⟨⟨key, node⟩, member, gives⟩ := List.mem_filterMap.mp inside
      unfold sourceFile? at gives
      split at gives
      · next name names content mode leads isFile =>
        split at gives
        · cases gives
          obtain rfl : tree.placeOf root ++ name :: names = key :=
            List.isPrefixOf?_eq_some_iff_append_eq.mp leads
          obtain rfl : node = .file content mode := isFile
          have someNames : name :: names ≠ [] := List.cons_ne_nil _ _
          have present : tree.node? (tree.placeOf root ++ name :: names) =
              some (.file content mode) := by
            rw [FileTree.node?_of_ne_nil (List.append_ne_nil_of_right_ne_nil _ someNames)]
            exact SortedMap.find?_of_mem tree.nodes.ascending member
          have stands := Option.isSome_of_eq_some present
          have allNames := named.isName stands
          have place := FileTree.placeOf_join tree root allNames someNames
          refine ⟨⟨content, mode, ?_⟩, ?_, fun plain => ?_, _, someNames, allNames, rfl⟩
          · rw [place]
            exact present
          · rw [place]
            exact List.prefix_append _ _
          · rw [place]
            exact FileTree.locate_join located allNames someNames stands plain
        · cases gives
      · cases gives

/-- **The same files are collected from a root in two trees that agree below it**, but for folders
that are added. -/
theorem files_eq {changing : Place → Prop} (agrees : FileTree.AgreesBut changing before after)
    (apart : ∀ place, before.placeOf root <+: place → ¬changing place)
    (there : before.contains root = true) (stillThere : after.contains root = true) :
    files after patterns root = files before patterns root := by
  obtain ⟨located, _⟩ := FileTree.contains_iff.mp there
  obtain ⟨stillLocated, _⟩ := FileTree.contains_iff.mp stillThere
  rw [agrees.placeOf] at stillLocated
  have here := apart _ List.prefix_rfl
  have single : after.isFile root = before.isFile root := by
    rw [Bool.eq_iff_iff, FileTree.isFile_iff, FileTree.isFile_iff]
    constructor
    · rintro ⟨content, mode, found⟩
      obtain ⟨_, file⟩ := FileTree.lookup_eq_ok.mp found
      rw [agrees.placeOf] at file
      exact ⟨content, mode, FileTree.lookup_eq_ok.mpr ⟨located, agrees.file_before here file⟩⟩
    · rintro ⟨content, mode, found⟩
      obtain ⟨_, file⟩ := FileTree.lookup_eq_ok.mp found
      refine ⟨content, mode, FileTree.lookup_eq_ok.mpr ?_⟩
      rw [agrees.placeOf]
      exact ⟨stillLocated, agrees.node here file⟩
  cases isSingle : before.isFile root with
  | true => rw [files, files, single, isSingle, if_pos rfl, if_pos rfl]
  | false =>
      rw [files_of_locate located isSingle, files_of_locate stillLocated (single.trans isSingle)]
      have entries : after.nodes.entries.filter
            (fun entry => (sourceFile? patterns root (before.placeOf root) entry).isSome) =
          before.nodes.entries.filter
            fun entry => (sourceFile? patterns root (before.placeOf root) entry).isSome := by
        refine SortedMap.filter_entries_eq fun key => ?_
        cases leads : (before.placeOf root).isPrefixOf? key with
        | none => simp [sourceFile?, leads]
        | some names =>
            cases names with
            | nil => simp [sourceFile?, leads]
            | cons name names =>
                obtain rfl : before.placeOf root ++ name :: names = key :=
                  List.isPrefixOf?_eq_some_iff_append_eq.mp leads
                have below : before.placeOf root ++ name :: names ≠ [] :=
                  List.append_ne_nil_of_right_ne_nil _ (List.cons_ne_nil _ _)
                have nodes := agrees.elsewhere _ (apart _ (List.prefix_append _ (name :: names)))
                rw [FileTree.node?_of_ne_nil below, FileTree.node?_of_ne_nil below] at nodes
                rcases nodes with same | ⟨free, added⟩
                · rw [same]
                · rw [free, added]
                  simp [sourceFile?, leads]
      have given (map : SortedMap Place Node) :
          map.entries.filterMap (sourceFile? patterns root (before.placeOf root)) =
            (map.entries.filter fun entry =>
              (sourceFile? patterns root (before.placeOf root) entry).isSome).filterMap
                (sourceFile? patterns root (before.placeOf root)) := by
        rw [List.filterMap_filter]
        refine List.filterMap_congr fun entry _ => ?_
        cases sourceFile? patterns root (before.placeOf root) entry <;> rfl
      rw [given, given, entries]

end Collection

end CommentDirectives
