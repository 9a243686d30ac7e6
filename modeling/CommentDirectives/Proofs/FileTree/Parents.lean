import Mathlib.Data.List.TakeWhile
import CommentDirectives.Proofs.FileTree.Places

/-!
# The folder of a path

A path that ends with a name has a folder, and the place that the path names is the one that the folder
names and this name below it (`FileTree.placeOf_parent`).  The text of the folder is found by cutting off
the last component and what names nothing in front of it and behind it, so what has to be seen is that
such slashes and points do not change where a text leads (`FileTree.placeOf_trimIdle`).

What is joined to the folder of a path leads on from there (`FileTree.placeOf_join_eq_along`), so this is
what the place of a joined path is told by.
-/

namespace CommentDirectives

set_option autoImplicit false

namespace Path

/-! ## Slashes and points at the end -/

/-- A piece that names nothing is no component. -/
theorem components_idle (front : List Char) {piece : List Char} (idle : isIdle piece = true)
    (whole : '/' ∉ piece) :
    components (String.ofList (front ++ '/' :: piece)) = components (String.ofList front) := by
  unfold components
  rw [String.toList_ofList, String.toList_ofList, splitSlashes_append,
    splitSlashes_of_not_mem whole]
  cases pieces : splitSlashes front with
  | nil => exact absurd pieces (splitSlashes_ne_nil front)
  | cons first rest => simp [List.filter_append, idle]

/-- Trimming removes no component. -/
theorem components_trimIdle (text : List Char) :
    components (String.ofList (trimIdle text).reverse) = components (String.ofList text.reverse) := by
  induction text using trimIdle.induct with
  | case1 | case2 => rfl
  | case3 rest more ih =>
      rw [trimIdle.eq_3 rest more, ih, List.reverse_cons]
      exact (components_idle rest.reverse rfl List.not_mem_nil).symm
  | case4 rest ih =>
      rw [trimIdle.eq_4, ih, List.reverse_cons, List.reverse_cons, List.reverse_cons,
        List.append_assoc]
      rw [components_idle rest.reverse rfl List.not_mem_nil]
      exact (components_idle rest.reverse rfl (by decide)).symm
  | case5 text full notSlash other notPoint => rw [trimIdle.eq_5 text full notSlash other notPoint]

/-- What is trimmed neither ends with a slash, unless it is nothing else, nor with a point behind a
slash. -/
theorem trimIdle_trimmed (text : List Char) :
    (∀ rest, trimIdle text = '/' :: rest → rest = []) ∧
      ∀ rest, trimIdle text ≠ '.' :: '/' :: rest := by
  induction text using trimIdle.induct with
  | case1 => exact ⟨nofun, nofun⟩
  | case2 => exact ⟨fun _ same => (List.cons.inj same).2.symm, nofun⟩
  | case3 rest more ih => rwa [trimIdle.eq_3 rest more]
  | case4 rest ih => rwa [trimIdle.eq_4]
  | case5 text full notSlash other notPoint =>
      rw [trimIdle.eq_5 text full notSlash other notPoint]
      exact ⟨fun rest same => absurd same (other rest), notPoint⟩

/-! ## The last component -/

theorem components_last (front : List Char) {piece : List Char} (notIdle : isIdle piece = false)
    (whole : '/' ∉ piece) :
    (components (String.ofList (front ++ '/' :: piece))).getLast? = some (String.ofList piece) := by
  unfold components
  rw [String.toList_ofList, splitSlashes_append, splitSlashes_of_not_mem whole]
  cases pieces : splitSlashes front with
  | nil => exact absurd pieces (splitSlashes_ne_nil front)
  | cons first rest =>
      simp only [List.cons_append, List.filter_append, List.map_append]
      rw [List.filter_cons_of_pos (by rw [notIdle]; rfl), List.filter_nil, List.map_singleton]
      split
      · exact List.getLast?_concat
      · rw [← List.cons_append]
        exact List.getLast?_concat

/-- A text without slashes is its only component. -/
theorem components_of_not_mem {piece : List Char} (someText : piece ≠ []) (whole : '/' ∉ piece) :
    components (String.ofList piece) = [String.ofList piece] := by
  unfold components
  rw [String.toList_ofList, splitSlashes_of_not_mem whole]
  simp [someText]

theorem isAbsolute_of_not_mem {path : String} (whole : '/' ∉ path.toList) :
    isAbsolute path = false := by
  unfold isAbsolute
  cases characters : path.toList with
  | nil => rfl
  | cons first rest =>
      rw [characters, List.mem_cons, not_or] at whole
      simp [Ne.symm whole.1]

theorem isIdle_iff {piece : List Char} : isIdle piece = true ↔ piece = [] ∨ piece = ['.'] := by
  simp [isIdle]

/-- A path ends with a name if its last component is one. -/
theorem fileName?_eq_some {path name : String} (named : fileName? path = some name) :
    (components path).getLast? = some name ∧ name ≠ "." ∧ name ≠ ".." := by
  unfold fileName? at named
  split at named
  · next last found =>
    split at named
    · cases named
    · next other =>
      cases named
      exact ⟨found, not_or.mp other⟩
  · cases named

/-- A text in reverse is its last piece, and nothing or a slash in front of it. -/
theorem cases_last (text : List Char) :
    '/' ∉ text.takeWhile (· != '/') ∧
      (text = text.takeWhile (· != '/') ∧ text.dropWhile (· != '/') = [] ∨
        ∃ front, text.dropWhile (· != '/') = '/' :: front ∧
          text = text.takeWhile (· != '/') ++ '/' :: front) := by
  have whole := List.takeWhile_append_dropWhile (p := (· != '/')) (l := text)
  refine ⟨fun slash => by simpa using List.mem_takeWhile_imp slash, ?_⟩
  cases rest : text.dropWhile (· != '/') with
  | nil =>
      rw [rest, List.append_nil] at whole
      exact .inl ⟨whole.symm, rfl⟩
  | cons character front =>
      have head := List.head?_dropWhile_not (· != '/') text
      rw [rest] at head
      obtain rfl : character = '/' := by simpa using head
      rw [rest] at whole
      exact .inr ⟨front, rfl, whole.symm⟩

/-- What a text without slashes ends with is the text, unless it is a point. -/
theorem whole_of_last {piece : List Char} {name : String} (whole : '/' ∉ piece)
    (last : (components (String.ofList piece)).getLast? = some name) (notPoint : name ≠ ".") :
    isIdle piece = false ∧ String.ofList piece = name := by
  cases idle : isIdle piece with
  | true =>
      rcases isIdle_iff.mp idle with rfl | rfl
      · cases last
      · cases last
        exact absurd rfl notPoint
  | false =>
      have someText : piece ≠ [] := fun empty => by rw [empty] at idle; cases idle
      rw [components_of_not_mem someText whole] at last
      exact ⟨rfl, Option.some.inj last⟩

/-- **The last piece of a trimmed path is the name that the path ends with.** -/
theorem last_of_fileName {path name : String} (named : fileName? path = some name) :
    IsName name ∧ (trimIdle path.toList.reverse).takeWhile (· != '/') = name.toList.reverse := by
  obtain ⟨last, notPoint, notUp⟩ := fileName?_eq_some named
  have same := components_trimIdle path.toList.reverse
  have trimmed := trimIdle_trimmed path.toList.reverse
  rw [List.reverse_reverse, String.ofList_toList] at same
  rw [← same] at last
  generalize trimIdle path.toList.reverse = text at last trimmed ⊢
  obtain ⟨whole, shape⟩ := cases_last text
  generalize text.takeWhile (· != '/') = word at whole shape ⊢
  -- Behind a slash the last piece is not idle, as nothing idle has been left there.
  have found : isIdle word.reverse = false ∧ String.ofList word.reverse = name := by
    have whole' : '/' ∉ word.reverse := by rwa [List.mem_reverse]
    rcases shape with ⟨rfl, -⟩ | ⟨front, -, rfl⟩
    · exact whole_of_last whole' last notPoint
    · rw [List.reverse_append, List.reverse_cons, List.append_assoc, List.singleton_append] at last
      cases idle : isIdle word.reverse with
      | true =>
          rcases isIdle_iff.mp idle with empty | point
          · obtain rfl := List.reverse_eq_nil_iff.mp empty
            obtain rfl := trimmed.1 front rfl
            cases last
          · obtain rfl : word = ['.'] := by rw [← List.reverse_reverse word, point]; rfl
            exact absurd rfl (trimmed.2 front)
      | false =>
          rw [components_last _ idle whole'] at last
          exact ⟨rfl, Option.some.inj last⟩
  obtain ⟨notIdle, rfl⟩ := found
  rw [String.toList_ofList, List.reverse_reverse]
  refine ⟨⟨?_, ?_, ?_⟩, rfl⟩
  · rwa [String.toList_ofList]
  · intro up
    exact notUp (String.toList_inj.mp up)
  · rwa [String.toList_ofList, List.mem_reverse]

end Path

namespace FileTree

variable (tree : FileTree)

/-! ## Where the texts lead -/

/-- What stands behind a slash leads on from the text in front of it. -/
theorem placeOf_behind (front back : List Char) :
    tree.placeOf (String.ofList (front ++ '/' :: back)) =
      Path.along (tree.placeOf (String.ofList (front ++ ['/']))) (Path.splitSlashes back) := by
  have sameStart : tree.start (String.ofList (front ++ '/' :: back)) =
      tree.start (String.ofList (front ++ ['/'])) := by
    rw [start, start, Path.isAbsolute, Path.isAbsolute, String.toList_ofList, String.toList_ofList]
    cases front <;> rfl
  rw [placeOf, placeOf, sameStart, String.toList_ofList, String.toList_ofList,
    Path.splitSlashes_append, Path.splitSlashes_append, Path.along_append, Path.along_append]
  rfl

/-- A slash behind a text leads nowhere else. -/
theorem placeOf_slash {front : List Char} (someText : front ≠ []) :
    tree.placeOf (String.ofList (front ++ ['/'])) = tree.placeOf (String.ofList front) := by
  have sameStart : tree.start (String.ofList (front ++ ['/'])) = tree.start (String.ofList front) := by
    rw [start, start, Path.isAbsolute, Path.isAbsolute, String.toList_ofList, String.toList_ofList]
    cases front with
    | nil => exact absurd rfl someText
    | cons => rfl
  rw [placeOf, placeOf, sameStart, String.toList_ofList, String.toList_ofList,
    Path.splitSlashes_append, Path.along_append]
  rfl

/-- **Trimming does not change where a text leads.** -/
theorem placeOf_trimIdle (text : List Char) :
    tree.placeOf (String.ofList (Path.trimIdle text).reverse) =
      tree.placeOf (String.ofList text.reverse) := by
  induction text using Path.trimIdle.induct with
  | case1 | case2 => rfl
  | case3 rest more ih =>
      rw [Path.trimIdle.eq_3 rest more, ih, List.reverse_cons]
      refine (placeOf_slash tree fun empty => ?_).symm
      exact more (List.reverse_eq_nil_iff.mp empty)
  | case4 rest ih =>
      rw [Path.trimIdle.eq_4, ih, List.reverse_cons, List.reverse_cons, List.reverse_cons,
        List.append_assoc]
      exact (placeOf_behind tree rest.reverse ['.']).symm
  | case5 text full notSlash other notPoint =>
      rw [Path.trimIdle.eq_5 text full notSlash other notPoint]

/-- **A path that ends with a name has a folder**, and leads to this name below it. -/
theorem placeOf_parent {path name : String} (named : Path.fileName? path = some name) :
    ∃ folder, Path.parent? path = some folder ∧
      tree.placeOf path = tree.placeOf folder ++ [name] := by
  obtain ⟨isName, word⟩ := Path.last_of_fileName named
  obtain ⟨last, -⟩ := Path.fileName?_eq_some named
  have same := placeOf_trimIdle tree path.toList.reverse
  rw [List.reverse_reverse, String.ofList_toList] at same
  have someComponents : (Path.components path).isEmpty = false := by
    cases components : Path.components path with
    | nil =>
        rw [components] at last
        cases last
    | cons => rfl
  refine ⟨_, by rw [Path.parent?, someComponents, if_neg Bool.false_ne_true], ?_⟩
  rw [← same]
  generalize Path.trimIdle path.toList.reverse = text at word ⊢
  rcases (Path.cases_last text).2 with ⟨split, rest⟩ | ⟨front, rest, split⟩
  · rw [rest, split, word, List.reverse_reverse, placeOf, String.toList_ofList,
      Path.splitSlashes_of_not_mem isName.whole]
    have relative : Path.isAbsolute name = false := Path.isAbsolute_of_not_mem isName.whole
    rw [start, String.ofList_toList, relative]
    exact Path.step_name _ isName
  · rw [rest, placeOf_trimIdle, split, word, List.reverse_append, List.reverse_reverse,
      List.reverse_cons, List.append_assoc, List.singleton_append, placeOf_behind,
      Path.splitSlashes_of_not_mem isName.whole]
    exact Path.step_name _ isName

end FileTree

end CommentDirectives
