import CommentDirectives.Build.Collection

/-!
# Where paths lead

A path names a place by its text alone: pieces that name nothing stay where they are, two points go
up, and every other piece goes down (`FileTree.placeOf`).  Whether the path leads there hangs on the
tree, since every piece has to start from a folder.  So a path that leads somewhere leads to the
place that it names (`FileTree.locate_eq_placeOf`), and it still does in a tree that has the same
folders and more (`FileTree.locate_of_folders`).

A path through names below a folder names the place below the folder (`FileTree.placeOf_join`), and
it leads there as soon as the folder is led to and something stands there, for whatever stands
somewhere has nothing but folders above it (`FileTree.locate_join`).
-/

namespace CommentDirectives

set_option autoImplicit false

namespace Path

/-! ## Pieces of paths -/

theorem splitSlashes_ne_nil (text : List Char) : splitSlashes text ≠ [] := by
  cases text with
  | nil => exact List.cons_ne_nil _ _
  | cons character rest =>
      unfold splitSlashes
      split
      · exact List.cons_ne_nil _ _
      · split <;> exact List.cons_ne_nil _ _

/-- A slash divides the pieces of a text. -/
theorem splitSlashes_append (front back : List Char) :
    splitSlashes (front ++ '/' :: back) = splitSlashes front ++ splitSlashes back := by
  induction front with
  | nil => simp [splitSlashes]
  | cons character front ih =>
      by_cases slash : character = '/'
      · simp [splitSlashes, slash, ih]
      · cases pieces : splitSlashes front with
        | nil => exact absurd pieces (splitSlashes_ne_nil front)
        | cons piece others => simp [splitSlashes, slash, ih, pieces]

theorem splitSlashes_of_not_mem {text : List Char} (whole : '/' ∉ text) :
    splitSlashes text = [text] := by
  induction text with
  | nil => rfl
  | cons character rest ih =>
      rw [List.mem_cons, not_or] at whole
      simp [splitSlashes, Ne.symm whole.1, ih whole.2]

/-- No piece of a text has a slash in it. -/
theorem not_mem_of_mem_splitSlashes {text piece : List Char} (inside : piece ∈ splitSlashes text) :
    '/' ∉ piece := by
  induction text generalizing piece with
  | nil => simp_all [splitSlashes]
  | cons character rest ih =>
      by_cases slash : character = '/'
      · rw [splitSlashes, if_pos slash, List.mem_cons] at inside
        rcases inside with rfl | behind
        · exact List.not_mem_nil
        · exact ih behind
      · cases pieces : splitSlashes rest with
        | nil => exact absurd pieces (splitSlashes_ne_nil rest)
        | cons first others =>
            rw [pieces] at ih
            rw [splitSlashes, if_neg slash, pieces, List.mem_cons] at inside
            rcases inside with rfl | behind
            · rw [List.mem_cons, not_or]
              exact ⟨Ne.symm slash, ih List.mem_cons_self⟩
            · exact ih (List.mem_cons_of_mem _ behind)

/-- The names that files and folders can have: texts that lead down from a folder. -/
structure IsName (name : String) : Prop where
  notIdle : isIdle name.toList = false
  notUp : name.toList ≠ ['.', '.']
  whole : '/' ∉ name.toList

instance (name : String) : Decidable (IsName name) :=
  decidable_of_iff (isIdle name.toList = false ∧ name.toList ≠ ['.', '.'] ∧ '/' ∉ name.toList)
    ⟨fun ⟨notIdle, notUp, whole⟩ => ⟨notIdle, notUp, whole⟩,
      fun ⟨notIdle, notUp, whole⟩ => ⟨notIdle, notUp, whole⟩⟩

/-- The pieces of a path through some names are these names. -/
theorem splitSlashes_pathOf {names : List String} (named : ∀ name ∈ names, IsName name)
    (someNames : names ≠ []) :
    splitSlashes (Collection.pathOf names).toList = names.map String.toList := by
  unfold Collection.pathOf
  rw [String.toList_intercalate]
  induction names with
  | nil => exact absurd rfl someNames
  | cons name rest ih =>
      obtain ⟨first, others⟩ := List.forall_mem_cons.mp named
      cases rest with
      | nil =>
          rw [List.map_cons, List.map_nil, List.intercalate_singleton]
          exact splitSlashes_of_not_mem first.whole
      | cons second behind =>
          have onward := ih others (List.cons_ne_nil _ _)
          rw [List.map_cons] at onward
          rw [List.map_cons, List.map_cons, List.intercalate_cons_cons, List.append_assoc]
          have divided := splitSlashes_append name.toList
            ("/".toList.intercalate (second.toList :: behind.map String.toList))
          refine divided.trans ?_
          rw [onward, splitSlashes_of_not_mem first.whole]
          rfl

/-! ## Places that paths name -/

/-- The place that a piece names from a place on. -/
def step (place : Place) (piece : List Char) : Place :=
  if isIdle piece then place
  else if piece = ['.', '.'] then place.dropLast
  else place ++ [String.ofList piece]

/-- The place that some pieces name from a place on, whatever stands there. -/
def along (place : Place) (pieces : List (List Char)) : Place := pieces.foldl step place

theorem along_append (place : Place) (front back : List (List Char)) :
    along place (front ++ back) = along (along place front) back :=
  List.foldl_append

theorem step_name (place : Place) {name : String} (named : IsName name) :
    step place name.toList = place ++ [name] := by
  rw [step, named.notIdle, if_neg Bool.false_ne_true, if_neg named.notUp, String.ofList_toList]

/-- Names lead down from a place. -/
theorem along_names (place : Place) {names : List String} (named : ∀ name ∈ names, IsName name) :
    along place (names.map String.toList) = place ++ names := by
  induction names generalizing place with
  | nil => exact (List.append_nil place).symm
  | cons name rest ih =>
      obtain ⟨first, others⟩ := List.forall_mem_cons.mp named
      have behind := ih (step place name.toList) others
      rw [List.map_cons, along, List.foldl_cons]
      rw [along] at behind
      rw [behind, step_name place first, List.append_assoc, List.singleton_append]

end Path

namespace FileTree

/-- The place that a path names, whatever stands there and on the way. -/
def placeOf (tree : FileTree) (path : String) : Place :=
  Path.along (tree.start path) (Path.splitSlashes path.toList)

/-- Whether files and folders have names that paths can lead through.  Trees of files on a disk have
them, and every change of a tree keeps them. -/
def Named (tree : FileTree) : Prop :=
  ∀ (place : Place) (name : String), (tree.node? (place ++ [name])).isSome → Path.IsName name

variable {tree : FileTree}

/-! ## What stands above a place -/

theorem node?_of_ne_nil {place : Place} (below : place ≠ []) :
    tree.node? place = tree.nodes.get? place := by
  rw [node?, nodeAmong?, if_neg below]

theorem named_empty (workingFolder : Place) : (empty workingFolder).Named := by
  intro place name stands
  rw [node?_of_ne_nil (List.append_ne_nil_of_right_ne_nil _ (List.cons_ne_nil _ _))] at stands
  cases stands

theorem node?_parent {place : Place} {name : String}
    (present : (tree.node? (place ++ [name])).isSome) : tree.node? place = some .folder := by
  rw [node?_of_ne_nil (List.append_ne_nil_of_right_ne_nil _ (List.cons_ne_nil _ _))] at present
  exact tree.inFolder place name present

/-- **Whatever stands somewhere has folders above it.** -/
theorem node?_above {place : Place} {names : List String} (someNames : names ≠ [])
    (present : (tree.node? (place ++ names)).isSome) : tree.node? place = some .folder := by
  induction names generalizing place with
  | nil => exact absurd rfl someNames
  | cons name rest ih =>
      have first : (tree.node? (place ++ [name])).isSome := by
        cases rest with
        | nil => exact present
        | cons second behind =>
            rw [List.append_cons] at present
            rw [ih (List.cons_ne_nil _ _) present]
            rfl
      exact node?_parent first

/-- The names on the way to what stands somewhere are names of files and folders. -/
theorem Named.isName (named : tree.Named) {place : Place} {names : List String}
    (present : (tree.node? (place ++ names)).isSome) : ∀ name ∈ names, Path.IsName name := by
  induction names generalizing place with
  | nil => exact fun _ inside => absurd inside List.not_mem_nil
  | cons first rest ih =>
      rw [List.append_cons] at present
      refine List.forall_mem_cons.mpr ⟨named place first ?_, ih present⟩
      cases rest with
      | nil => rwa [List.append_nil] at present
      | cons second behind =>
          rw [node?_above (List.cons_ne_nil _ _) present]
          rfl

/-! ## Following pieces -/

theorem follow_cons_of_folder {place : Place} (folder : tree.node? place = some .folder)
    (piece : List Char) (rest : List (List Char)) :
    tree.follow place (piece :: rest) = tree.follow (Path.step place piece) rest := by
  simp only [follow, folder, Path.step]
  split
  · rfl
  · split <;> rfl

/-- Every piece that is followed starts from a folder. -/
theorem node?_of_follow_cons {place found : Place} {piece : List Char} {rest : List (List Char)}
    (leads : tree.follow place (piece :: rest) = .ok found) :
    tree.node? place = some .folder := by
  unfold follow at leads
  split at leads
  · cases leads
  · cases leads
  · next folder => exact folder

/-- Pieces that lead somewhere lead to the place that they name. -/
theorem eq_along_of_follow {place found : Place} {pieces : List (List Char)}
    (leads : tree.follow place pieces = .ok found) : found = Path.along place pieces := by
  induction pieces generalizing place with
  | nil =>
      cases leads
      rfl
  | cons piece rest ih =>
      rw [follow_cons_of_folder (node?_of_follow_cons leads)] at leads
      exact ih leads

/-- Pieces are followed one part after the other. -/
theorem follow_append {place found : Place} {front : List (List Char)}
    (leads : tree.follow place front = .ok found) (back : List (List Char)) :
    tree.follow place (front ++ back) = tree.follow found back := by
  induction front generalizing place with
  | nil =>
      cases leads
      rfl
  | cons piece front ih =>
      have folder := node?_of_follow_cons leads
      rw [follow_cons_of_folder folder] at leads
      rw [List.cons_append, follow_cons_of_folder folder]
      exact ih leads

/-- A part in front of pieces that lead somewhere leads somewhere, and to a folder if it is not the
whole. -/
theorem follow_front {place found : Place} {front back : List (List Char)}
    (leads : tree.follow place (front ++ back) = .ok found) :
    tree.follow place front = .ok (Path.along place front) ∧
      (back ≠ [] → tree.node? (Path.along place front) = some .folder) := by
  induction front generalizing place with
  | nil =>
      refine ⟨rfl, fun more => ?_⟩
      cases back with
      | nil => exact absurd rfl more
      | cons piece rest => exact node?_of_follow_cons leads
  | cons piece front ih =>
      rw [List.cons_append] at leads
      have folder := node?_of_follow_cons leads
      rw [follow_cons_of_folder folder] at leads ⊢
      exact ih leads

/-- Names lead to whatever stands below a place. -/
theorem follow_names {place : Place} {names : List String}
    (named : ∀ name ∈ names, Path.IsName name) (present : (tree.node? (place ++ names)).isSome) :
    tree.follow place (names.map String.toList) = .ok (place ++ names) := by
  induction names generalizing place with
  | nil => rw [List.map_nil, follow, List.append_nil]
  | cons name rest ih =>
      obtain ⟨first, others⟩ := List.forall_mem_cons.mp named
      have folder := node?_above (List.cons_ne_nil _ _) present
      rw [List.append_cons] at present
      rw [List.map_cons, follow_cons_of_folder folder, Path.step_name place first,
        ih others present, ← List.append_cons]

/-- What is followed in a tree is followed in one that has the same folders and more. -/
theorem follow_of_folders {before after : FileTree}
    (folders : ∀ place, before.node? place = some .folder → after.node? place = some .folder)
    {place found : Place} {pieces : List (List Char)}
    (leads : before.follow place pieces = .ok found) : after.follow place pieces = .ok found := by
  induction pieces generalizing place with
  | nil => exact leads
  | cons piece rest ih =>
      have folder := node?_of_follow_cons leads
      rw [follow_cons_of_folder folder] at leads
      rw [follow_cons_of_folder (folders place folder)]
      exact ih leads

/-- Pieces lead to the same in two trees that agree wherever the pieces come by. -/
theorem follow_congr {left right : FileTree} {place : Place} {pieces : List (List Char)}
    (agree : ∀ front piece back, pieces = front ++ piece :: back →
      left.node? (Path.along place front) = right.node? (Path.along place front)) :
    left.follow place pieces = right.follow place pieces := by
  induction pieces generalizing place with
  | nil => rfl
  | cons piece rest ih =>
      have here : left.node? place = right.node? place := agree [] piece rest rfl
      cases node : right.node? place with
      | none => simp only [follow, here, node]
      | some found =>
          rw [node] at here
          cases found with
          | file content mode => simp only [follow, here, node]
          | folder =>
              rw [follow_cons_of_folder here, follow_cons_of_folder node]
              exact ih fun front next back split => agree (piece :: front) next back (by rw [split]; rfl)

/-! ## Locating paths -/

/-- A path that can be located leads to the place that it names. -/
theorem locate_eq_ok {path : String} {place : Place} :
    tree.locate path = .ok place ↔
      path.toList.contains '\x00' = false ∧ path ≠ "" ∧
        tree.follow (tree.start path) (Path.splitSlashes path.toList) = .ok place := by
  unfold locate
  split
  · next nul => simp only [nul, reduceCtorEq, false_and]
  · next plain =>
    split
    · next empty => simp [String.isEmpty_iff.mp empty]
    · next full => simp_all [String.isEmpty_iff]

theorem locate_eq_placeOf {path : String} {place : Place} (leads : tree.locate path = .ok place) :
    place = tree.placeOf path :=
  eq_along_of_follow (locate_eq_ok.mp leads).2.2

theorem start_eq {left right : FileTree} (working : right.workingFolder = left.workingFolder)
    (path : String) : right.start path = left.start path := by
  rw [start, start, working]

theorem placeOf_eq {left right : FileTree} (working : right.workingFolder = left.workingFolder)
    (path : String) : right.placeOf path = left.placeOf path := by
  rw [placeOf, placeOf, start_eq working]

/-- **A path that leads somewhere still leads there in a tree with the same folders and more.** -/
theorem locate_of_folders {before after : FileTree}
    (working : after.workingFolder = before.workingFolder)
    (folders : ∀ place, before.node? place = some .folder → after.node? place = some .folder)
    {path : String} {place : Place} (leads : before.locate path = .ok place) :
    after.locate path = .ok place := by
  obtain ⟨plain, full, followed⟩ := locate_eq_ok.mp leads
  refine locate_eq_ok.mpr ⟨plain, full, ?_⟩
  rw [start_eq working]
  exact follow_of_folders folders followed

/-- Pieces lead through names from a place that is reached through names. -/
theorem isName_of_follow {place found : Place}
    {pieces : List (List Char)} (leads : tree.follow place pieces = .ok found)
    (whole : ∀ piece ∈ pieces, '/' ∉ piece) (before : ∀ name ∈ place, Path.IsName name) :
    ∀ name ∈ found, Path.IsName name := by
  induction pieces generalizing place with
  | nil =>
      cases leads
      exact before
  | cons piece rest ih =>
      obtain ⟨first, others⟩ := List.forall_mem_cons.mp whole
      rw [follow_cons_of_folder (node?_of_follow_cons leads)] at leads
      refine ih leads others ?_
      unfold Path.step
      split
      · exact before
      · next notIdle =>
        split
        · exact fun name inside => before name ((List.dropLast_sublist _).mem inside)
        · next notUp =>
          intro name inside
          rcases List.mem_append.mp inside with above | here
          · exact before name above
          · rw [List.mem_singleton.mp here]
            constructor <;> rw [String.toList_ofList]
            · exact Bool.eq_false_iff.mpr notIdle
            · exact notUp
            · exact first

/-- The place that a path leads to is made of names of files and folders. -/
theorem Named.isName_of_locate (named : tree.Named) {path : String} {place : Place}
    (leads : tree.locate path = .ok place) : ∀ name ∈ place, Path.IsName name := by
  obtain ⟨_, _, followed⟩ := locate_eq_ok.mp leads
  refine isName_of_follow followed
    (fun _ inside => Path.not_mem_of_mem_splitSlashes inside) ?_
  have folder : tree.node? (tree.start path) = some .folder := by
    cases pieces : Path.splitSlashes path.toList with
    | nil => exact absurd pieces (Path.splitSlashes_ne_nil _)
    | cons piece rest =>
        rw [pieces] at followed
        exact node?_of_follow_cons followed
  have stands : (tree.node? ([] ++ tree.start path)).isSome := by
    rw [List.nil_append, folder]
    rfl
  exact named.isName stands

/-! ## Paths below a folder -/

/-- How the pieces of a path below a folder are made up. -/
theorem exists_pieces_join (tree : FileTree) (folder : String) {path : String}
    (relative : Path.isAbsolute path = false) :
    ∃ front idle, (idle = [] ∨ idle = [[]]) ∧ Path.splitSlashes folder.toList = front ++ idle ∧
      Path.splitSlashes (Path.join folder path).toList = front ++ Path.splitSlashes path.toList ∧
      tree.start (Path.join folder path) = tree.start folder := by
  unfold Path.join
  rw [relative, if_neg Bool.false_ne_true]
  cases last : folder.toList.getLast? with
  | none =>
      have empty : folder.toList = [] := List.getLast?_eq_none_iff.mp last
      refine ⟨[], [[]], .inr rfl, ?_, rfl, ?_⟩
      · rw [empty]
        rfl
      · rw [start, start, relative, Path.isAbsolute, empty]
        rfl
  | some character =>
      obtain ⟨initial, split⟩ : ∃ initial, folder.toList = initial ++ [character] :=
        (List.getLast?_eq_some_iff.mp last)
      have sameStart (rest : List Char) (joined : String) (text : joined.toList = folder.toList ++ rest) :
          tree.start joined = tree.start folder := by
        rw [start, start, Path.isAbsolute, Path.isAbsolute, text, split]
        cases initial <;> rfl
      dsimp only
      split
      · next slash =>
        subst slash
        refine ⟨Path.splitSlashes initial, [[]], .inr rfl, ?_, ?_,
          sameStart path.toList _ String.toList_append⟩
        · rw [split, Path.splitSlashes_append]
          rfl
        · rw [String.toList_append, split, List.append_assoc, List.singleton_append,
            Path.splitSlashes_append]
      · refine ⟨Path.splitSlashes folder.toList, [], .inl rfl, (List.append_nil _).symm, ?_,
          sameStart ('/' :: path.toList) _ ?_⟩
        · rw [String.toList_append, String.toList_append, List.append_assoc]
          exact Path.splitSlashes_append _ _
        · rw [String.toList_append, String.toList_append, List.append_assoc]
          rfl

/-- Names that lead down do not start from the root. -/
theorem isAbsolute_pathOf {names : List String} (named : ∀ name ∈ names, Path.IsName name)
    (someNames : names ≠ []) : Path.isAbsolute (Collection.pathOf names) = false := by
  cases names with
  | nil => exact absurd rfl someNames
  | cons name rest =>
      have first := named name List.mem_cons_self
      have text : ∃ behind, (Collection.pathOf (name :: rest)).toList = name.toList ++ behind := by
        unfold Collection.pathOf
        rw [String.toList_intercalate]
        cases rest with
        | nil => exact ⟨[], by rw [List.map_cons, List.map_nil, List.intercalate_singleton, List.append_nil]⟩
        | cons second behind =>
            rw [List.map_cons, List.map_cons, List.intercalate_cons_cons, List.append_assoc]
            exact ⟨_, rfl⟩
      obtain ⟨behind, split⟩ := text
      rw [Path.isAbsolute, split]
      cases characters : name.toList with
      | nil => exact absurd first.notIdle (by simp [characters, Path.isIdle])
      | cons character others =>
          have other : character ≠ '/' := fun slash =>
            first.whole (by rw [characters, slash]; exact List.mem_cons_self)
          simp [other]

/-- **A path that is joined to a folder leads on from the place of the folder**, unless it starts from
the root. -/
theorem placeOf_join_eq_along (tree : FileTree) (folder path : String) :
    tree.placeOf (Path.join folder path) =
      Path.along (if Path.isAbsolute path then [] else tree.placeOf folder)
        (Path.splitSlashes path.toList) := by
  cases absolute : Path.isAbsolute path with
  | true => rw [placeOf, start, Path.join, if_pos absolute, if_pos absolute, if_pos rfl]
  | false =>
      obtain ⟨front, idle, none_, pieces, joined, started⟩ := exists_pieces_join tree folder absolute
      have stays : Path.along (tree.start folder) (front ++ idle) =
          Path.along (tree.start folder) front := by
        rw [Path.along_append]
        rcases none_ with rfl | rfl <;> rfl
      rw [if_neg Bool.false_ne_true, placeOf, placeOf, started, joined, pieces, stays,
        Path.along_append]

/-- **A path through names below a folder names the place below the folder.** -/
theorem placeOf_join (tree : FileTree) (folder : String) {names : List String}
    (named : ∀ name ∈ names, Path.IsName name) (someNames : names ≠ []) :
    tree.placeOf (Path.join folder (Collection.pathOf names)) = tree.placeOf folder ++ names := by
  rw [placeOf_join_eq_along, isAbsolute_pathOf named someNames, if_neg Bool.false_ne_true,
    Path.splitSlashes_pathOf named someNames, Path.along_names _ named]

/-- **A path through names below a folder leads to what stands there**, if the folder is led to and
the path is well formed. -/
theorem locate_join {folder : String} {place : Place} (leads : tree.locate folder = .ok place)
    {names : List String} (named : ∀ name ∈ names, Path.IsName name) (someNames : names ≠ [])
    (present : (tree.node? (place ++ names)).isSome)
    (plain : (Path.join folder (Collection.pathOf names)).toList.contains '\x00' = false) :
    tree.locate (Path.join folder (Collection.pathOf names)) = .ok (place ++ names) := by
  obtain ⟨front, idle, none_, pieces, joined, started⟩ :=
    exists_pieces_join tree folder (isAbsolute_pathOf named someNames)
  obtain ⟨_, _, followed⟩ := locate_eq_ok.mp leads
  rw [pieces] at followed
  have front_ : tree.follow (tree.start folder) front = .ok place := by
    rcases none_ with rfl | rfl
    · rwa [List.append_nil] at followed
    · obtain ⟨reached, folder_⟩ := follow_front followed
      rw [follow_append reached, follow_cons_of_folder (folder_ (List.cons_ne_nil _ _))] at followed
      rw [reached]
      exact followed
  refine locate_eq_ok.mpr ⟨plain, fun empty => ?_, ?_⟩
  · -- An empty path would have no names in it.
    rw [empty] at joined
    have texts := joined.symm
    rw [Path.splitSlashes_pathOf named someNames] at texts
    cases names with
    | nil => exact someNames rfl
    | cons name rest =>
        have blank : name.toList ∈ [([] : List Char)] := by
          rw [show [([] : List Char)] = Path.splitSlashes "".toList from rfl, ← texts]
          exact List.mem_append_right _ List.mem_cons_self
        have notIdle := (named name List.mem_cons_self).notIdle
        rw [List.mem_singleton.mp blank] at notIdle
        cases notIdle
  · rw [started, joined, follow_append front_, Path.splitSlashes_pathOf named someNames,
      follow_names named present]

/-! ## Looking up and reading -/

theorem lookup_eq_ok {path : String} {node : Node} :
    tree.lookup path = .ok node ↔
      tree.locate path = .ok (tree.placeOf path) ∧ tree.node? (tree.placeOf path) = some node := by
  unfold lookup
  cases located : tree.locate path with
  | error failure => simp
  | ok place =>
      obtain rfl := locate_eq_placeOf located
      cases present : tree.node? (tree.placeOf path) <;> simp [present]

theorem contains_iff {path : String} :
    tree.contains path = true ↔
      tree.locate path = .ok (tree.placeOf path) ∧ (tree.node? (tree.placeOf path)).isSome := by
  unfold contains
  cases found : tree.lookup path with
  | ok node =>
      obtain ⟨located, present⟩ := lookup_eq_ok.mp found
      simp [Except.isOk, Except.toBool, located, present]
  | error failure =>
      simp only [Except.isOk, Except.toBool, Bool.false_eq_true, false_iff, not_and]
      intro located present
      obtain ⟨node, present⟩ := Option.isSome_iff_exists.mp present
      cases found.symm.trans (lookup_eq_ok.mpr ⟨located, present⟩)

theorem readBytes_eq_ok {path : String} {bytes : ByteArray} :
    tree.readBytes path = .ok bytes ↔ ∃ mode, tree.lookup path = .ok (.file bytes mode) := by
  unfold readBytes
  cases tree.lookup path with
  | error failure => simp
  | ok node => cases node <;> simp

theorem mode?_eq_some {path : String} {mode : Nat} :
    tree.mode? path = some mode ↔ ∃ bytes, tree.lookup path = .ok (.file bytes mode) := by
  unfold mode?
  cases tree.lookup path with
  | error failure => simp
  | ok node => cases node <;> simp

theorem isFile_iff {path : String} :
    tree.isFile path = true ↔ ∃ bytes mode, tree.lookup path = .ok (.file bytes mode) := by
  unfold isFile
  cases tree.lookup path with
  | error failure => simp
  | ok node => cases node <;> simp

/-- Texts are read alike where bytes are. -/
theorem readText_congr {left right : FileTree} {path : String}
    (same : left.readBytes path = right.readBytes path) :
    left.readText path = right.readText path := by
  rw [readText, readText, same]

/-- A text is read where the bytes of a file are read as before. -/
theorem readText_of_readBytes {left right : FileTree} {path : String}
    (same : ∀ bytes, left.readBytes path = .ok bytes → right.readBytes path = .ok bytes)
    {text : String} (read : left.readText path = .ok text) : right.readText path = .ok text := by
  unfold readText at read ⊢
  split at read
  · cases read
  · next bytes held =>
    rw [same bytes held]
    exact read

end FileTree

end CommentDirectives
