import CommentDirectives.Proofs.FileTree.Places
import Mathlib.Data.List.Basic

/-!
# What changes of a tree leave alone

Making folders and writing files leaves whatever stands in a tree where it is, but for the contents
of the files that are written; besides, only folders are added (`FileTree.Keeps`).  So nothing is
removed, and folders that were led through are led through afterwards.  A file that is written holds
what was written (`FileTree.Receives`).  Removing a folder leaves all that is not in it
(`FileTree.agreesBut_removeBelow`), which is less: two trees that agree but for some places
(`FileTree.AgreesBut`) may have lost what stood there.

A change that has nothing to change gives the same tree: folders that are there are not made again
(`FileTree.makeFolders_of_lookup`), and a file that holds some bytes can be given the same bytes
(`FileTree.write_same`).
-/

namespace CommentDirectives

set_option autoImplicit false

namespace FileTree

variable {tree before after : FileTree}

/-- Two trees agree, but for some places, and but for folders that are added in the second. -/
structure AgreesBut (changing : Place → Prop) (before after : FileTree) : Prop where
  working : after.workingFolder = before.workingFolder
  elsewhere : ∀ place, ¬changing place →
    after.node? place = before.node? place ∨
      before.node? place = none ∧ after.node? place = some .folder

/-- Everything in a tree stays, but for the contents of the files at some places, and elsewhere
folders at most are added. -/
structure Keeps (changing : Place → Prop) (before after : FileTree) : Prop
    extends AgreesBut changing before after where
  folders : ∀ place, before.node? place = some .folder → after.node? place = some .folder
  files : ∀ place content mode, before.node? place = some (.file content mode) →
    ∃ content' mode', after.node? place = some (.file content' mode')
  named : before.Named → after.Named

/-- Bytes have been put at a place. -/
structure Receives (place : Place) (bytes : ByteArray) (before after : FileTree) : Prop
    extends Keeps (· = place) before after where
  received : ∃ mode, after.node? place = some (.file bytes mode)

namespace AgreesBut

variable {changing : Place → Prop}

theorem mono {wider : Place → Prop} (agrees : AgreesBut changing before after)
    (within : ∀ place, changing place → wider place) : AgreesBut wider before after :=
  ⟨agrees.working, fun place apart => agrees.elsewhere place (mt (within place) apart)⟩

theorem placeOf (agrees : AgreesBut changing before after) (path : String) :
    after.placeOf path = before.placeOf path :=
  placeOf_eq agrees.working path

/-- What stands somewhere else stays. -/
theorem node (agrees : AgreesBut changing before after) {place : Place} (apart : ¬changing place)
    {node : Node} (present : before.node? place = some node) :
    after.node? place = some node := by
  rcases agrees.elsewhere place apart with same | ⟨free, _⟩
  · exact same.trans present
  · cases free.symm.trans present

/-- A file elsewhere was there before. -/
theorem file_before (agrees : AgreesBut changing before after) {place : Place}
    (apart : ¬changing place) {content : ByteArray} {mode : Nat}
    (file : after.node? place = some (.file content mode)) :
    before.node? place = some (.file content mode) := by
  rcases agrees.elsewhere place apart with same | ⟨_, folder⟩
  · exact same.symm.trans file
  · cases folder.symm.trans file

/-- The bytes of a file elsewhere were read before, if its path led there. -/
theorem readBytes_before (agrees : AgreesBut changing before after) {path : String}
    (apart : ¬changing (before.placeOf path))
    (located : before.locate path = .ok (before.placeOf path)) {bytes : ByteArray}
    (read : after.readBytes path = .ok bytes) : before.readBytes path = .ok bytes := by
  obtain ⟨mode, found⟩ := readBytes_eq_ok.mp read
  obtain ⟨_, file⟩ := lookup_eq_ok.mp found
  rw [agrees.placeOf] at file
  exact readBytes_eq_ok.mpr ⟨mode, lookup_eq_ok.mpr ⟨located, agrees.file_before apart file⟩⟩

theorem trans {middle : FileTree} (first : AgreesBut changing before middle)
    (second : AgreesBut changing middle after) : AgreesBut changing before after where
  working := second.working.trans first.working
  elsewhere place apart := by
    rcases first.elsewhere place apart with same | ⟨free, added⟩
    · rw [← same]
      exact second.elsewhere place apart
    · exact .inr ⟨free, second.node apart added⟩

end AgreesBut

namespace Keeps

variable {changing : Place → Prop}

theorem refl (changing : Place → Prop) (tree : FileTree) : Keeps changing tree tree where
  working := rfl
  elsewhere _ _ := .inl rfl
  folders _ folder := folder
  files _ content mode file := ⟨content, mode, file⟩
  named named := named

theorem mono {wider : Place → Prop} (kept : Keeps changing before after)
    (within : ∀ place, changing place → wider place) : Keeps wider before after :=
  ⟨kept.toAgreesBut.mono within, kept.folders, kept.files, kept.named⟩

theorem trans {middle : FileTree} (first : Keeps changing before middle)
    (second : Keeps changing middle after) : Keeps changing before after where
  toAgreesBut := first.toAgreesBut.trans second.toAgreesBut
  folders place folder := second.folders place (first.folders place folder)
  files place content mode file := by
    obtain ⟨content', mode', file'⟩ := first.files place content mode file
    exact second.files place content' mode' file'
  named named := second.named (first.named named)

/-- What is located stays located. -/
theorem locate (kept : Keeps changing before after) {path : String} {place : Place}
    (leads : before.locate path = .ok place) : after.locate path = .ok place :=
  locate_of_folders kept.working kept.folders leads

/-- What is contained stays contained. -/
theorem contains (kept : Keeps changing before after) {path : String}
    (present : before.contains path = true) : after.contains path = true := by
  obtain ⟨located, stands⟩ := contains_iff.mp present
  refine contains_iff.mpr ⟨?_, ?_⟩
  · rw [kept.placeOf]
    exact kept.locate located
  · rw [kept.placeOf]
    obtain ⟨node, there⟩ := Option.isSome_iff_exists.mp stands
    cases node with
    | folder =>
        rw [kept.folders _ there]
        rfl
    | file content mode =>
        obtain ⟨_, _, there⟩ := kept.files _ content mode there
        rw [there]
        rfl

/-- What a path leads to elsewhere is found as before. -/
theorem lookup (kept : Keeps changing before after) {path : String}
    (apart : ¬changing (before.placeOf path)) {node : Node} (found : before.lookup path = .ok node) :
    after.lookup path = .ok node := by
  obtain ⟨located, present⟩ := lookup_eq_ok.mp found
  refine lookup_eq_ok.mpr ?_
  rw [kept.placeOf]
  exact ⟨kept.locate located, kept.node apart present⟩

/-- The bytes of a file elsewhere are read as before. -/
theorem readBytes (kept : Keeps changing before after) {path : String}
    (apart : ¬changing (before.placeOf path)) {bytes : ByteArray}
    (read : before.readBytes path = .ok bytes) : after.readBytes path = .ok bytes := by
  obtain ⟨mode, found⟩ := readBytes_eq_ok.mp read
  exact readBytes_eq_ok.mpr ⟨mode, kept.lookup apart found⟩

end Keeps

/-! ## Single changes -/

/-- Trees with the same nodes and the same working folder are the same. -/
theorem eq_of_get? {left right : FileTree} (working : left.workingFolder = right.workingFolder)
    (same : ∀ place, left.nodes.get? place = right.nodes.get? place) : left = right := by
  obtain ⟨nodes, folder, _⟩ := left
  obtain ⟨nodes', folder', _⟩ := right
  obtain rfl : nodes = nodes' := SortedMap.ext same
  obtain rfl : folder = folder' := working
  rfl

theorem node?_insert {folder : Place} {name : String} {node : Node}
    (present : tree.node? folder = some .folder)
    (keeps : node = .folder ∨ tree.node? (folder ++ [name]) ≠ some .folder) (place : Place) :
    (tree.insert folder name node present keeps).node? place =
      if place = folder ++ [name] then some node else tree.node? place := by
  by_cases root : place = []
  · subst root
    have notHere : ([] : Place) ≠ folder ++ [name] := by simp
    rw [if_neg notHere]
    rfl
  · rw [node?_of_ne_nil root, node?_of_ne_nil root]
    exact SortedMap.get?_insert _ _ _ _

theorem get?_removeBelow (tree : FileTree) (folder place : Place) :
    (tree.removeBelow folder).nodes.get? place =
      if folder <+: place then none else tree.nodes.get? place := by
  rw [removeBelow, SortedMap.get?_filterKeys]
  by_cases leads : folder <+: place
  · have dropped : (!folder.isPrefixOf place) = false := by
      rw [List.isPrefixOf_iff_prefix.mpr leads]
      rfl
    rw [dropped, if_neg Bool.false_ne_true, if_pos leads]
  · have kept : (!folder.isPrefixOf place) = true := by
      rw [Bool.not_eq_true', ← Bool.not_eq_true, List.isPrefixOf_iff_prefix]
      exact leads
    rw [kept, if_pos rfl, if_neg leads]

/-- **Removing a folder changes nothing elsewhere.** -/
theorem agreesBut_removeBelow (tree : FileTree) (folder : Place) :
    AgreesBut (folder <+: ·) tree (tree.removeBelow folder) := by
  refine ⟨rfl, fun place apart => .inl ?_⟩
  by_cases root : place = []
  · rw [root]
    rfl
  · rw [node?_of_ne_nil root, node?_of_ne_nil root, get?_removeBelow, if_neg apart]

theorem named_removeBelow (named : tree.Named) (folder : Place) :
    (tree.removeBelow folder).Named := by
  intro place name stands
  have below : place ++ [name] ≠ [] :=
    List.append_ne_nil_of_right_ne_nil _ (List.cons_ne_nil _ _)
  rw [node?_of_ne_nil below, get?_removeBelow] at stands
  split at stands
  · cases stands
  · rw [← node?_of_ne_nil below] at stands
    exact named place name stands

/-- A tree whose files and folders have names still is one when a node gets a name. -/
theorem named_insert {folder : Place} {name : String} {node : Node} (isName : Path.IsName name)
    (present : tree.node? folder = some .folder)
    (keeps : node = .folder ∨ tree.node? (folder ++ [name]) ≠ some .folder) (named : tree.Named) :
    (tree.insert folder name node present keeps).Named := by
  intro place other stands
  rw [node?_insert] at stands
  split at stands
  · next same =>
    obtain ⟨_, last⟩ := List.append_inj' same rfl
    cases last
    exact isName
  · exact named place other stands

/-- A folder that is made where nothing stands leaves everything as it is. -/
theorem keeps_insert_folder {folder : Place} {name : String} (isName : Path.IsName name)
    (present : tree.node? folder = some .folder) (free : tree.node? (folder ++ [name]) = none) :
    Keeps (fun _ => False) tree (tree.insert folder name .folder present (.inl rfl)) := by
  have elsewhere (place : Place) {node : Node} (there : tree.node? place = some node) :
      (tree.insert folder name .folder present (.inl rfl)).node? place = some node := by
    rw [node?_insert, if_neg fun same => ?_, there]
    rw [same, free] at there
    cases there
  refine ⟨⟨rfl, fun place _ => ?_⟩, fun place there => elsewhere place there,
    fun place content mode there => ⟨content, mode, elsewhere place there⟩,
    named_insert isName present (.inl rfl)⟩
  rw [node?_insert]
  by_cases here : place = folder ++ [name]
  · exact .inr ⟨here ▸ free, if_pos here⟩
  · exact .inl (if_neg here)

theorem createAlong_cons {place : Place} (piece : List Char) (rest : List (List Char))
    (notDown : Path.isIdle piece = true ∨ piece = ['.', '.']) :
    tree.createAlong place (piece :: rest) = tree.createAlong (Path.step place piece) rest := by
  rw [createAlong, Path.step]
  by_cases idle : Path.isIdle piece = true
  · rw [if_pos idle, if_pos idle]
  · rw [if_neg idle, if_neg idle]
    have up := notDown.resolve_left idle
    rw [if_pos up, if_pos up]

/-- **Folders that are made leave everything as it is**, also if one of them cannot be made. -/
theorem keeps_createAlong (tree : FileTree) (place : Place) {pieces : List (List Char)}
    (whole : ∀ piece ∈ pieces, '/' ∉ piece) :
    Keeps (fun _ => False) tree (tree.createAlong place pieces).1 := by
  induction pieces generalizing tree place with
  | nil => exact .refl _ tree
  | cons piece rest ih =>
      obtain ⟨first, others⟩ := List.forall_mem_cons.mp whole
      by_cases notDown : Path.isIdle piece = true ∨ piece = ['.', '.']
      · rw [createAlong_cons piece rest notDown]
        exact ih tree _ others
      · rw [not_or] at notDown
        have isName : Path.IsName (String.ofList piece) := by
          constructor <;> rw [String.toList_ofList]
          · exact Bool.eq_false_iff.mpr notDown.1
          · exact notDown.2
          · exact first
        rw [createAlong, if_neg notDown.1, if_neg notDown.2]
        dsimp only
        split
        · exact .refl _ tree
        · exact .refl _ tree
        · next present =>
          split
          · exact ih tree _ others
          · exact .refl _ tree
          · next free => exact (keeps_insert_folder isName present free).trans (ih _ _ others)

theorem keeps_makeFolders (tree : FileTree) (path : String) :
    Keeps (fun _ => False) tree (tree.makeFolders path).1 := by
  unfold makeFolders
  split
  · exact .refl _ tree
  · exact keeps_createAlong _ _ fun _ inside => Path.not_mem_of_mem_splitSlashes inside

/-- Folders that are there are not made again. -/
theorem createAlong_of_follow {place found : Place} {pieces : List (List Char)}
    (leads : tree.follow place pieces = .ok found) (folder : tree.node? found = some .folder) :
    tree.createAlong place pieces = (tree, .ok ()) := by
  induction pieces generalizing place with
  | nil => rfl
  | cons piece rest ih =>
      have here := node?_of_follow_cons leads
      rw [follow_cons_of_folder here] at leads
      by_cases notDown : Path.isIdle piece = true ∨ piece = ['.', '.']
      · rw [createAlong_cons piece rest notDown]
        exact ih leads
      · rw [not_or] at notDown
        have down : Path.step place piece = place ++ [String.ofList piece] := by
          rw [Path.step, if_neg notDown.1, if_neg notDown.2]
        rw [down] at leads
        have next : tree.node? (place ++ [String.ofList piece]) = some .folder := by
          cases rest with
          | nil =>
              cases leads
              exact folder
          | cons second behind => exact node?_of_follow_cons leads
        rw [createAlong, if_neg notDown.1, if_neg notDown.2]
        dsimp only
        split
        · next free => cases free.symm.trans here
        · next file => cases file.symm.trans here
        · simp only [next]
          exact ih leads

end FileTree

namespace Path

/-! ## The folder of a path -/

/-- What is trimmed off a text in reverse ends with a slash, unless nothing but a slash is left or
nothing is trimmed. -/
theorem trimIdle_cases (text : List Char) :
    (trimIdle text = ['/'] ∨ ∃ front, text = front ++ '/' :: trimIdle text) ∨
      trimIdle text = text ∧ ∀ rest, text ≠ '/' :: rest := by
  induction text using trimIdle.induct with
  | case1 => exact .inr ⟨rfl, nofun⟩
  | case2 => exact .inl (.inl rfl)
  | case3 rest more ih =>
      rw [trimIdle.eq_3 rest more]
      rcases ih with (only | ⟨front, split⟩) | ⟨same, _⟩
      · exact .inl (.inl only)
      · exact .inl (.inr ⟨'/' :: front, congrArg ('/' :: ·) split⟩)
      · exact .inl (.inr ⟨[], by rw [same]; rfl⟩)
  | case4 rest ih =>
      rw [trimIdle.eq_4]
      rcases ih with (only | ⟨front, split⟩) | ⟨_, other⟩
      · exact .inl (.inl only)
      · exact .inl (.inr ⟨'.' :: front, congrArg ('.' :: ·) split⟩)
      · exact absurd rfl (other rest)
  | case5 text full notSlash other notPoint =>
      exact .inr ⟨trimIdle.eq_5 text full notSlash other notPoint, other⟩

/-- What is left of a text in reverse once its first slashes are trimmed is followed by a slash. -/
theorem exists_split_trimIdle (text : List Char) :
    trimIdle text = ['/'] ∨ ∃ front, text = front ++ trimIdle text := by
  rcases trimIdle_cases text with (only | ⟨front, split⟩) | ⟨same, _⟩
  · exact .inl only
  · refine .inr ⟨front ++ ['/'], ?_⟩
    rwa [List.append_assoc, List.singleton_append]
  · exact .inr ⟨[], by rw [same]; rfl⟩

/-- **The folder of a path is the text in front of a slash**, unless it is the empty text or just a
slash. -/
theorem parent?_cases {path folder : String} (parent : parent? path = some folder) :
    folder = "" ∨ folder = "/" ∨ ∃ more, path.toList = folder.toList ++ '/' :: more := by
  unfold parent? at parent
  split at parent
  · cases parent
  · dsimp only at parent
    obtain rfl := Option.some.inj parent
    obtain ⟨reversed, trimmed⟩ : ∃ reversed, trimIdle path.toList.reverse = reversed := ⟨_, rfl⟩
    obtain ⟨behind, dropped⟩ : ∃ behind, reversed.dropWhile (· != '/') = behind := ⟨_, rfl⟩
    rw [trimmed, dropped]
    rcases exists_split_trimIdle path.toList.reverse with only | ⟨first, text⟩
    · obtain rfl : ['/'] = reversed := only.symm.trans trimmed
      obtain rfl : ['/'] = behind := dropped
      exact .inr (.inl rfl)
    rw [trimmed] at text
    rcases trimIdle_cases behind with (only | ⟨second, split⟩) | ⟨same, notSlash⟩
    · rw [only]
      exact .inr (.inl rfl)
    · refine .inr (.inr ⟨(first ++ reversed.takeWhile (· != '/') ++ second).reverse, ?_⟩)
      have word := List.takeWhile_append_dropWhile (p := (· != '/')) (l := reversed)
      rw [dropped, split] at word
      have whole : path.toList.reverse =
          (first ++ reversed.takeWhile (· != '/') ++ second) ++ '/' :: trimIdle behind := by
        rw [List.append_assoc, List.append_assoc, word, ← text]
      rw [← List.reverse_reverse path.toList, whole, List.reverse_append, List.reverse_cons,
        List.append_assoc, String.toList_ofList]
      rfl
    · cases behind with
      | nil => exact .inl rfl
      | cons character rest =>
          -- What is left behind the last component starts with a slash.
          have head := List.head?_dropWhile_not (· != '/') reversed
          rw [dropped] at head
          have slash : character = '/' := by simpa using head
          exact absurd (by rw [slash]) (notSlash rest)

end Path

namespace FileTree

variable {tree : FileTree}

/-- Folders of a path that leads somewhere are not made again. -/
theorem makeFolders_of_lookup {path folder : String} {place : Place}
    (leads : tree.locate path = .ok place) (parent : Path.parent? path = some folder) :
    tree.makeFolders folder = (tree, .ok ()) := by
  obtain ⟨plain, _, followed⟩ := locate_eq_ok.mp leads
  rcases Path.parent?_cases parent with rfl | rfl | ⟨more, text⟩
  · rfl
  · rfl
  · have noNul : folder.toList.contains '\x00' = false := by
      rw [text] at plain
      simp only [List.contains_eq_mem, decide_eq_false_iff_not, List.mem_append, not_or] at plain ⊢
      exact plain.1
    unfold makeFolders
    rw [noNul, if_neg Bool.false_ne_true]
    cases characters : folder.toList with
    | nil => rfl
    | cons first rest =>
        have sameStart : tree.start path = tree.start folder := by
          rw [start, start, Path.isAbsolute, Path.isAbsolute, text, characters]
          rfl
        rw [text, Path.splitSlashes_append, sameStart] at followed
        obtain ⟨reached, above⟩ := follow_front followed
        rw [← characters]
        exact createAlong_of_follow reached (above (Path.splitSlashes_ne_nil more))

/-! ## Writing -/

theorem write_of_locate {path : String} {folder : Place} {name : String}
    (located : tree.locate path = .ok (folder ++ [name])) (content : ByteArray)
    (mode : Option Nat) : tree.write path content mode = tree.writeAt folder name content mode := by
  simp only [write, located, List.getLast?_concat, List.dropLast_concat]

/-- What a file that is written changes.  It has the mode that is given, if one is. -/
theorem write_cases {path : String} {content : ByteArray} {mode : Option Nat} {after : FileTree}
    (written : tree.write path content mode = .ok after) :
    tree.locate path = .ok (tree.placeOf path) ∧ after.workingFolder = tree.workingFolder ∧
      tree.node? (tree.placeOf path) ≠ some .folder ∧
      ∃ old, ∀ place, after.node? place =
        if place = tree.placeOf path then some (.file content (mode.getD old))
        else tree.node? place := by
  cases located : tree.locate path with
  | error failure =>
      rw [write, located] at written
      cases written
  | ok place =>
      obtain rfl := locate_eq_placeOf located
      rcases List.eq_nil_or_concat' (tree.placeOf path) with root | ⟨folder, name, split⟩
      · rw [write, located, root] at written
        cases written
      · rw [split] at located ⊢
        rw [write_of_locate located] at written
        unfold writeAt at written
        split at written
        · cases written
        · cases written
        · split at written
          · cases written
          · next occupied =>
            cases written
            refine ⟨rfl, rfl, ?_, _, node?_insert _ _⟩
            rw [occupied]
            exact nofun
          · next free =>
            cases written
            refine ⟨rfl, rfl, ?_, _, node?_insert _ _⟩
            rw [free]
            exact nofun

/-- **A file that is written holds what was written**, and all else stays as it is. -/
theorem receives_of_write {path : String} {content : ByteArray} {mode : Option Nat}
    {after : FileTree} (written : tree.write path content mode = .ok after) :
    Receives (tree.placeOf path) content tree after := by
  obtain ⟨located, working, notFolder, old, changed⟩ := write_cases written
  refine ⟨⟨⟨working, fun place other => .inl ?_⟩, fun place folder => ?_,
    fun place held heldMode file => ?_, fun named place name stands => ?_⟩, mode.getD old, ?_⟩
  · rw [changed, if_neg other]
  · have other : place ≠ tree.placeOf path := by
      rintro rfl
      exact notFolder folder
    rw [changed, if_neg other]
    exact folder
  · rw [changed]
    split
    · exact ⟨_, _, rfl⟩
    · exact ⟨_, _, file⟩
  · rw [changed] at stands
    split at stands
    · next here =>
      refine named.isName_of_locate located name ?_
      rw [← here]
      exact List.mem_append_right _ List.mem_cons_self
    · exact named place name stands
  · rw [changed, if_pos rfl]

/-- A file that holds some bytes can be given the same bytes, which changes nothing. -/
theorem write_same {path : String} {content : ByteArray} {mode : Nat}
    (found : tree.lookup path = .ok (.file content mode)) :
    tree.write path content none = .ok tree := by
  obtain ⟨located, file⟩ := lookup_eq_ok.mp found
  rcases List.eq_nil_or_concat' (tree.placeOf path) with root | ⟨folder, name, split⟩
  · rw [root] at file
    cases file
  · rw [split] at located file
    have above : tree.node? folder = some .folder := node?_parent (by rw [file]; rfl)
    rw [write_of_locate located]
    unfold writeAt
    split
    · next free => cases free.symm.trans above
    · next other => cases other.symm.trans above
    · split
      · next occupied => cases occupied.symm.trans file
      · next occupied =>
        cases occupied.symm.trans file
        refine congrArg Except.ok (eq_of_get? rfl fun place => ?_)
        refine (SortedMap.get?_insert _ _ _ _).trans ?_
        split
        · next here =>
          have below : place ≠ [] := by
            rw [here]
            exact List.append_ne_nil_of_right_ne_nil _ (List.cons_ne_nil _ _)
          rw [← node?_of_ne_nil below, here, file]
          rfl
        · rfl
      · next free => cases free.symm.trans file

end FileTree

end CommentDirectives
