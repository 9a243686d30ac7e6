import Mathlib
import CommentDirectives.Proofs.Expr.Names
import CommentDirectives.Proofs.Processing.Bounds
import CommentDirectives.Proofs.Processing.Transition
import CommentDirectives.Proofs.Session.Owners
import CommentDirectives.Proofs.Session.SharedVariables

/-!
# What was written is read back

A line that defines a name, or sets it in its file, decides where the value goes by the rules of
assignments, and an expression on the next line decides where to look by the rules of lookups.  Both
ask the providers first and agree on the one that owns a name
(`Provider.exists_owner_of_assignAmong`); a name that no provider owns goes to the file's own layer,
where a lookup comes before the shared layer but after the names that stand for the place in the
file.  So the value is found again unless the name is one of these and no provider owns it
(`Session.lookup_of_assign`).

On the next line the name stands for the value as an expression too, unless it is one of the two
truth values (`Processing.evaluate_of_written`).
-/

namespace CommentDirectives

set_option autoImplicit false

/-! ## Names of the place -/

namespace FilePosition

/-- The names that stand for the place in a file, in the form in which names are stored. -/
def names : List String := ["__line__", "__file__", "__filename__", "__filefolder__"]

/-- A place gives no value to any other name. -/
theorem value?_eq_none (position : FilePosition) {name : String} (other : name ∉ names) :
    position.value? name = none := by
  simp only [names, List.mem_cons, List.not_mem_nil, or_false, not_or] at other
  obtain ⟨line, file, fileName, folder⟩ := other
  rw [value?, if_neg line, if_neg file, if_neg fileName, if_neg folder]

end FilePosition

/-! ## Names in directives -/

namespace Directive

variable {tail : List Char} {name : String}

theorem isValid_of_readName (read : readName tail = .ok name) : Name.isValid name = true := by
  unfold readName at read
  split at read
  · cases read
  · split at read
    · next valid =>
      cases read
      rwa [Name.isValid, String.toList_ofList]
    · cases read

theorem isValid_of_readAssignment {expr : Option Expr}
    (read : readAssignment tail = .ok (name, expr)) : Name.isValid name = true := by
  unfold readAssignment at read
  split at read
  · obtain ⟨found, named, same⟩ := exists_of_map_eq_ok read
    cases same
    exact isValid_of_readName named
  · split at read
    · cases read
    · next named =>
      split at read
      · cases read
      · obtain ⟨value, _, same⟩ := exists_of_map_eq_ok read
        cases same
        exact isValid_of_readName named

end Directive

/-! ## Assignments -/

namespace Session

variable {session after : Session} {context : LineContext} {name : String} {value : Value}

/-- **A name that was given a value has it**, unless it stands for the place and no provider owns
it. -/
theorem lookup_of_assign (valid : Name.isValid name = true)
    (assigned : session.assign .locals name value = .ok after)
    (owned : Name.normalize name ∈ FilePosition.names →
      session.providers.any (·.owns name) = true) :
    (after.scope context).lookup name = some value := by
  have stored := Name.normalize_lowercase valid
  unfold assign at assigned
  split at assigned
  · next providers taken =>
    cases assigned
    obtain ⟨owner, found, answers⟩ := Provider.exists_owner_of_assignAmong taken
    simp only [Provider.owns_congr stored] at found
    rw [Provider.get?_congr stored] at answers
    have provider : Scope.providerFor?
        (scope { session with providers := providers } context) name = some owner := found
    rw [Scope.lookup, provider]
    exact answers
  · cases assigned
  · next free =>
    cases assigned
    have unowned : session.providers.any (·.owns name) = false := by
      have none := Provider.assignAmong?_eq_none.mp free
      simpa only [Provider.owns_congr stored] using none
    have provider : Scope.providerFor?
        (scope { session with locals := session.locals.set name value } context) name = none :=
      Scope.providerFor?_eq_none unowned
    have elsewhere : Name.normalize name ∉ FilePosition.names := fun inside => by
      rw [owned inside] at unowned
      cases unowned
    have written : (session.locals.set name value).get? name = some value :=
      (SortedMap.get?_insert ..).trans (if_pos rfl)
    rw [Scope.lookup, provider]
    simp only [scope, Option.bind_some, FilePosition.value?_eq_none _ elsewhere, written]

/-! ## Lines -/

/-- A line is spelled as a definition of a name, or as one that sets it in its file, by an
expression that has a value. -/
inductive Spells (session : Session) (context : LineContext) (line : List Char) (name : String)
    (value : Value) : Prop where
  | intro {directive : Directive} {tail : List Char} {expr : Expr}
      (form : LineForm.ofLine context.config.allowBlanks line = .directive directive.keyword tail)
      (writes : directive = .define ∨ directive = .setLocal)
      (argument : Directive.readAssignment tail = .ok (name, some expr))
      (evaluated : expr.eval (session.scope context) = .ok value) :
      Spells session context line name value

/-- Both directives assign the value of their expression. -/
theorem perform_eq_assign {directive : Directive} {tail : List Char} {expr : Expr}
    (writes : directive = .define ∨ directive = .setLocal)
    (argument : Directive.readAssignment tail = .ok (name, some expr))
    (evaluated : expr.eval (session.scope context) = .ok value) :
    session.perform context directive tail =
      session.change (session.assign .locals name value) := by
  have gives : session.evaluate context expr = .ok value := by
    rw [evaluate, evaluated]
    rfl
  rcases writes with rfl | rfl
  · change session.change (session.define context tail) = _
    rw [define, argument]
    change session.change (session.evaluate context expr >>= _) = _
    rw [gives]
    rfl
  · change session.change (session.setVariable context .setLocal .locals tail) = _
    rw [setVariable, argument]
    change session.change (session.evaluate context expr >>= _) = _
    rw [gives]
    rfl

/-- Where lines count, such a line assigns the value, if it does not fail. -/
theorem Spells.assigned {line : List Char} (spells : session.Spells context line name value)
    (active : session.isActive = true) {flow : Flow}
    (succeeded : session.processLine context line = (after, .ok flow)) :
    flow = .next ∧ ∃ traced : Session, traced.SameVariables session ∧
      traced.assign .locals name value = .ok after := by
  obtain ⟨form, writes, argument, evaluated⟩ := spells
  have follows : session.Follows context line _ _ :=
    .intro form (Directive.withKeyword?_keyword _) (by rw [active, Bool.true_or])
  obtain ⟨traced, same, does⟩ := follows.exists_perform
  rw [← same.scope] at evaluated
  rw [does, perform_eq_assign writes argument evaluated] at succeeded
  exact ⟨flow_change (congrArg Prod.snd succeeded), traced, same, changed_of_ok succeeded⟩

/-- The name that a line spells is one that directives accept. -/
theorem Spells.isValid {line : List Char} (spells : session.Spells context line name value) :
    Name.isValid name = true := by
  obtain ⟨_, _, argument, _⟩ := spells
  exact Directive.isValid_of_readAssignment argument

end Session

/-! ## The next line -/

namespace Processing

variable {config : Config} {tree : FileTree} {session : Session} {next : Processing} {path : String}
  {number base : Nat} {line : List Char} {rest : List (List Char)} {outer : List OpenFile}
  {name : String} {value : Value}

/-- **What a line gives to a name is what the name stands for on the next line.**  In any state in
which lines count, let a line define a name by an expression with a value, or set it in its file,
and let it be read without failure.  Then the next line of the file is read next, and there the text
of the name is an expression with this value, wherever the value was stored.  Truth values are left
out, and so are the names of the place that no provider owns. -/
theorem evaluate_of_written
    (spells : session.Spells ⟨config, lineLocation path number line, base⟩ line name value)
    (active : session.isActive = true)
    (leads : advance config tree ⟨⟨path, number, line :: rest, base⟩ :: outer, session⟩ =
      .proceed next)
    (notTrue : name ≠ "true") (notFalse : name ≠ "false")
    (owned : Name.normalize name ∈ FilePosition.names →
      session.providers.any (·.owns name) = true) :
    next.files = ⟨path, number + 1, rest, base⟩ :: outer ∧
      ∀ following : List Char,
        (next.session.scope ⟨config, lineLocation path (number + 1) following, base⟩).evaluate
          name = .ok value := by
  cases transition_of_proceed leads with
  | close ended closed => cases ended
  | leave outcome | enter outcome room content => cases (spells.assigned active outcome).1
  | @next session after path number base line rest outer outcome =>
      obtain ⟨-, traced, same, assigned⟩ := spells.assigned active outcome
      refine ⟨rfl, fun following => ?_⟩
      have known : (after.scope ⟨config, lineLocation path (number + 1) following, base⟩).lookup
          name = some value :=
        Session.lookup_of_assign spells.isValid assigned (same.providers ▸ owned)
      rw [Scope.evaluate, Expr.parse_name spells.isValid notTrue notFalse]
      simp only [Expr.eval, Scope.resolve, known]
      rfl

/-- A text that sets a name of a shared provider, at its start. -/
def settingProvided : Processing :=
  start Layer.empty [Provider.shared "lib."] "a.txt" "//#local Lib.x = 5\n/*$Lib.x$*/\n"

/-- The provider's value is read back, in letters of any case. -/
theorem evaluate_of_written_provided :
    ∃ next, advance {} (FileTree.empty []) settingProvided = .proceed next ∧
      (next.session.scope ⟨{}, lineLocation "a.txt" 1 "/*$Lib.x$*/".toList, 0⟩).evaluate "Lib.x" =
        .ok (.int 5) := by
  have form : LineForm.ofLine false "//#local Lib.x = 5".toList =
      .directive Directive.setLocal.keyword " Lib.x = 5".toList := by decide
  have argument : Directive.readAssignment " Lib.x = 5".toList =
      .ok ("Lib.x", some (.literal (.int 5) 0)) := by cbv
  have spells : settingProvided.session.Spells
      ⟨{}, lineLocation "a.txt" 0 "//#local Lib.x = 5".toList, 0⟩ "//#local Lib.x = 5".toList
      "Lib.x" (.int 5) := .intro form (.inr rfl) argument rfl
  have goesOn : (advance {} (FileTree.empty []) settingProvided).next?.isSome = true := by cbv
  obtain ⟨next, found⟩ := Option.isSome_iff_exists.mp goesOn
  have leads := Step.next?_eq_some.mp found
  have read := evaluate_of_written spells rfl leads (by decide) (by decide) fun _ => by decide
  exact ⟨next, leads, read.2 "/*$Lib.x$*/".toList⟩

/-! ## Values that are not read back -/

/-- In a text that is read alone, a line that is read without failure is spelled as a definition of
a name, or as one that sets it, by an expression with a value, and on the next line the text of the
name does not have this value. -/
def Lost (text name : String) (value : Value) : Prop :=
  ∃ (session : Session) (number : Nat) (line : List Char) (rest : List (List Char))
    (next : Processing),
    Reaches {} (FileTree.empty []) (start Layer.empty [] "a.txt" text)
        ⟨[⟨"a.txt", number, line :: rest, 0⟩], session⟩ ∧
      session.Spells ⟨{}, lineLocation "a.txt" number line, 0⟩ line name value ∧
      advance {} (FileTree.empty []) ⟨[⟨"a.txt", number, line :: rest, 0⟩], session⟩ =
        .proceed next ∧
      ∀ following : List Char,
        (next.session.scope ⟨{}, lineLocation "a.txt" (number + 1) following, 0⟩).evaluate name ≠
          .ok value

/-- A value is lost where its name has another meaning on the next line. -/
theorem lost_of_meaning {text name : String} {value : Value} (session : Session) (number : Nat)
    (line : List Char) (rest : List (List Char)) (found : Except ExpressionError Value)
    (reaches : Reaches {} (FileTree.empty []) (start Layer.empty [] "a.txt" text)
      ⟨[⟨"a.txt", number, line :: rest, 0⟩], session⟩)
    (spells : session.Spells ⟨{}, lineLocation "a.txt" number line, 0⟩ line name value)
    (goesOn : (advance {} (FileTree.empty [])
      ⟨[⟨"a.txt", number, line :: rest, 0⟩], session⟩).next?.isSome = true)
    (means : ∀ following : List Char,
      ((advance {} (FileTree.empty [])
          ⟨[⟨"a.txt", number, line :: rest, 0⟩], session⟩).session.scope
        ⟨{}, lineLocation "a.txt" (number + 1) following, 0⟩).evaluate name = found)
    (other : found ≠ .ok value) : Lost text name value := by
  obtain ⟨next, present⟩ := Option.isSome_iff_exists.mp goesOn
  have leads := Step.next?_eq_some.mp present
  rw [leads] at means
  exact ⟨session, number, line, rest, next, reaches, spells, leads,
    fun following same => other ((means following).symm.trans same)⟩

/-- **Not every name that a line spells is read back.**  The truth values are no names for
expressions, the names of the place come before the variables of the file, and a line that does not
count writes nothing. -/
theorem written_lost :
    Lost "//#define true = 5\n" "true" (.int 5) ∧
      Lost "//#local __line__ = 5\n" "__line__" (.int 5) ∧
      Lost "//#if false\n//#define a = 5\n//#endif\n" "a" (.int 5) := by
  refine ⟨?_, ?_, ?_⟩
  · have atStart : start Layer.empty [] "a.txt" "//#define true = 5\n" =
        ⟨[⟨"a.txt", 0, ["//#define true = 5".toList], 0⟩],
          { globals := Layer.empty, providers := [] }⟩ := by cbv
    have form : LineForm.ofLine false "//#define true = 5".toList =
        .directive Directive.define.keyword " true = 5".toList := by decide
    have argument : Directive.readAssignment " true = 5".toList =
        .ok ("true", some (.literal (.int 5) 0)) := by cbv
    refine lost_of_meaning _ 0 _ _ (.ok (.bool true)) (by rw [atStart])
      (.intro form (.inl rfl) argument rfl) ?_ (fun following => ?_) fun same => ?_
    · cbv
    · cbv
    · cases same
  · have atStart : start Layer.empty [] "a.txt" "//#local __line__ = 5\n" =
        ⟨[⟨"a.txt", 0, ["//#local __line__ = 5".toList], 0⟩],
          { globals := Layer.empty, providers := [] }⟩ := by cbv
    have form : LineForm.ofLine false "//#local __line__ = 5".toList =
        .directive Directive.setLocal.keyword " __line__ = 5".toList := by decide
    have argument : Directive.readAssignment " __line__ = 5".toList =
        .ok ("__line__", some (.literal (.int 5) 0)) := by cbv
    refine lost_of_meaning _ 0 _ _ (.ok (.int 2)) (by rw [atStart])
      (.intro form (.inr rfl) argument rfl) ?_ (fun following => ?_) fun same => ?_
    · cbv
    · cbv
    · exact absurd (Value.int.inj (Except.ok.inj same)) (by decide)
  · have first : advance {} (FileTree.empty []) (start Layer.empty [] "a.txt"
        "//#if false\n//#define a = 5\n//#endif\n") =
        .proceed ⟨[⟨"a.txt", 1, ["//#define a = 5".toList, "//#endif".toList], 0⟩],
          (advance {} (FileTree.empty []) (start Layer.empty [] "a.txt"
            "//#if false\n//#define a = 5\n//#endif\n")).session⟩ := by cbv
    have form : LineForm.ofLine false "//#define a = 5".toList =
        .directive Directive.define.keyword " a = 5".toList := by decide
    have argument : Directive.readAssignment " a = 5".toList =
        .ok ("a", some (.literal (.int 5) 0)) := by cbv
    refine lost_of_meaning _ 1 _ _ (.error (.withoutValue (.unresolvedVariable "a")))
      (.single first) (.intro form (.inl rfl) argument rfl) ?_ (fun following => ?_) fun same => ?_
    · cbv
    · cbv
    · cases same

end Processing

end CommentDirectives
