import CommentDirectives.Proofs.Evaluation.Operations
import Mathlib

/-!
# The kind of a value is known beforehand

The kind of an expression's value follows from the kinds of the names in it
(`Expr.kind?`), so that scopes which give names values of the same kinds give
expressions such values too (`Expr.eval_of_sameKinds`).  Two evaluations that the
kinds do not tell apart can still come to different ends, but only by a division by
zero or an argument that a function does not take: all other failures depend on
kinds alone.

Every operator and every function has the kind of its result determined by the kinds
it is used on, or has no result for any values of these kinds.  That is one statement
for each family of operators and for the table of functions (`settled_binary`,
`settled_unary`, `settled_apply`); what holds of expressions follows along the tree.
-/

namespace CommentDirectives

set_option autoImplicit false

/-! ## What kinds tell -/

/-- A failure that depends on the values of operands and not only on their kinds. -/
inductive EvaluationError.DependsOnValues : EvaluationError → Prop where
  | divisionByZero : DependsOnValues .divisionByZero
  | invalidArgument (function details : String) :
      DependsOnValues (.invalidArgument function details)

/-- What an attempt may come to, as far as the kinds of operands tell.  They determine a kind, and
the attempt gives a result of that kind or fails for the sake of the values; or they determine
none, and the attempt fails. -/
inductive Settled {α κ : Type} (kind : α → κ) : Option κ → Except EvaluationError α → Prop where
  | result (value : α) : Settled kind (some (kind value)) (.ok value)
  | accident (expected : κ) {cause : EvaluationError} :
      cause.DependsOnValues → Settled kind (some expected) (.error cause)
  | mismatch (cause : EvaluationError) : Settled kind none (.error cause)

namespace Settled

variable {α β κ κ' : Type} {kind : α → κ} {kind' : β → κ'} {expected : Option κ}
  {attempt : Except EvaluationError α}

/-- The kind of a result is the one that was determined. -/
theorem eq_of_ok {value : α} (settled : Settled kind expected (.ok value)) :
    expected = some (kind value) := by
  cases settled
  rfl

/-- Where a kind is determined, there is a result of that kind, or a failure for the sake of the
values. -/
theorem of_some {known : κ} (settled : Settled kind (some known) attempt) :
    (∃ value, attempt = .ok value ∧ kind value = known) ∨
      ∃ cause, attempt = .error cause ∧ cause.DependsOnValues := by
  cases settled with
  | result value => exact .inl ⟨value, rfl, rfl⟩
  | accident _ depends => exact .inr ⟨_, rfl, depends⟩

/-- Attempts in a row, where what the second comes to is told by the kind of the first result. -/
theorem bind {next : α → Except EvaluationError β} {behind : κ → Option κ'}
    (first : Settled kind expected attempt)
    (onward : ∀ value, Settled kind' (behind (kind value)) (next value)) :
    Settled kind' (expected.bind behind) (attempt >>= next) := by
  cases first with
  | result value => exact onward value
  | mismatch cause => exact .mismatch cause
  | accident known depends =>
      show Settled kind' (behind known) (.error _)
      cases behind known with
      | none => exact .mismatch _
      | some _ => exact .accident _ depends

end Settled

/-! ## Operators -/

/-- The kind of the value of a unary operator. -/
def UnaryOperator.resultKind? : UnaryOperator → Kind → Option Kind
  | .not, .bool => some .bool
  | .not, .int => some .int
  | .negate, .int | .plus, .int => some .int
  | .negate, .float | .plus, .float => some .float
  | _, _ => none

/-- The kind of number that two numbers are brought to. -/
def Kind.common? : Kind → Kind → Option Kind
  | .int, .int => some .int
  | .int, .float | .float, .int | .float, .float => some .float
  | _, _ => none

/-- The kind of the value of an arithmetic operator. -/
def BinaryOperator.arithmeticKind? (operator : BinaryOperator) (left right : Kind) : Option Kind :=
  match Kind.common? left right with
  | some number => some number
  | none =>
    if operator = .add ∧ (left = .string ∨ right = .string) then some .string else none

/-- Whether an operator belongs to arithmetic. -/
def BinaryOperator.IsArithmetic (operator : BinaryOperator) : Prop :=
  operator.tier = .additive ∨ operator.tier = .multiplicative

/-- Whether values of two kinds can be equal. -/
def Kind.Equatable (left right : Kind) : Prop := left = right ∨ (Kind.common? left right).isSome

/-- Whether values of two kinds are in an order. -/
def Kind.Ordered (left right : Kind) : Prop :=
  (left = .string ∧ right = .string) ∨ (Kind.common? left right).isSome

instance (left right : Kind) : Decidable (Kind.Equatable left right) :=
  inferInstanceAs (Decidable (_ ∨ _))

instance (left right : Kind) : Decidable (Kind.Ordered left right) :=
  inferInstanceAs (Decidable (_ ∨ _))

/-- The kind of the value of a logical operator. -/
def Kind.logical? : Kind → Kind → Option Kind
  | .bool, .bool => some .bool
  | .int, .int => some .int
  | _, _ => none

/-- The kind of the value of a binary operator. -/
def BinaryOperator.resultKind? (operator : BinaryOperator) (left right : Kind) : Option Kind :=
  match operator.tier with
  | .equality => if Kind.Equatable left right then some .bool else none
  | .relational => if Kind.Ordered left right then some .bool else none
  | .logical => Kind.logical? left right
  | _ => operator.arithmeticKind? left right

namespace Value

theorem settled_unary (operand : Value) (operator : UnaryOperator) :
    Settled kind (operator.resultKind? operand.kind) (operand.unary operator) := by
  cases operator with
  | not =>
      cases operand with
      | bool truth => exact .result (Value.bool !truth)
      | int number => exact .result (Value.int (~~~number))
      | float | string | set => exact .mismatch _
  | negate =>
      cases operand with
      | int number => exact .result (Value.int (-number))
      | float number => exact .result (Value.float (-number))
      | bool | string | set => exact .mismatch _
  | plus =>
      cases operand with
      | int number => exact .result (Value.int number)
      | float number => exact .result (Value.float number)
      | bool | string | set => exact .mismatch _

/-! ### Arithmetic -/

theorem exists_integerArithmetic {operator : BinaryOperator} (arithmetic : operator.IsArithmetic)
    (first second : Int64) : ∃ attempt, integerArithmetic? operator first second = some attempt := by
  cases operator with
  | add | subtract | multiply | divide | remainder => exact ⟨_, rfl⟩
  | equal | notEqual | less | lessEqual | greater | greaterEqual | and | or | xor =>
      rcases arithmetic with tier | tier <;> cases tier

theorem exists_floatArithmetic {operator : BinaryOperator} (arithmetic : operator.IsArithmetic)
    (first second : Float32) : ∃ result, floatArithmetic? operator first second = some result := by
  cases operator with
  | add | subtract | multiply | divide | remainder => exact ⟨_, rfl⟩
  | equal | notEqual | less | lessEqual | greater | greaterEqual | and | or | xor =>
      rcases arithmetic with tier | tier <;> cases tier

theorem common?_of_promoted? {left right : Value} {pair : Float32 × Float32}
    (promoted : promoted? left right = some pair) :
    Kind.common? left.kind right.kind = some .float := by
  cases left <;> cases right <;> first | rfl | cases promoted

/-- Values of which not both are integers, and that are not brought to one kind of number. -/
theorem common?_eq_none {left right : Value} (apart : promoted? left right = none)
    (mixed : ∀ first second, left = .int first → right = .int second → False) :
    Kind.common? left.kind right.kind = none := by
  cases left with
  | int first =>
      cases right with
      | int second => exact (mixed first second rfl rfl).elim
      | float => cases apart
      | string | bool | set => rfl
  | float =>
      cases right with
      | int | float => cases apart
      | string | bool | set => rfl
  | string | bool | set => rfl

theorem joinsTexts_iff (left right : Value) :
    joinsTexts left right = true ↔ left.kind = .string ∨ right.kind = .string := by
  cases left <;> cases right <;> simp [joinsTexts, kind]

theorem settled_arithmetic {operator : BinaryOperator} (isArithmetic : operator.IsArithmetic)
    (left right : Value) :
    Settled kind (operator.arithmeticKind? left.kind right.kind)
      (arithmetic operator left right) := by
  unfold arithmetic
  split
  · next first second =>
    show Settled kind (some .int) _
    obtain ⟨attempt, found⟩ := exists_integerArithmetic isArithmetic first second
    rw [found]
    cases attempt with
    | error cause =>
        refine .accident _ ?_
        rw [cause_of_integerArithmetic found]
        exact .divisionByZero
    | ok result => exact .result (Value.int result)
  · next mixed =>
    unfold BinaryOperator.arithmeticKind?
    cases promoted : promoted? left right with
    | some pair =>
        obtain ⟨result, found⟩ := exists_floatArithmetic isArithmetic pair.1 pair.2
        simp only [common?_of_promoted? promoted, found]
        exact .result (Value.float result)
    | none =>
        simp only [common?_eq_none promoted mixed, ← joinsTexts_iff, Bool.and_eq_true, beq_iff_eq]
        by_cases joined : joinsTexts left right = true ∧ operator = .add
        · rw [if_pos joined, if_pos joined.symm]
          exact .result (Value.string (left.text ++ right.text))
        · rw [if_neg joined, if_neg fun added => joined added.symm]
          exact .mismatch _

/-! ### Comparison and logic -/

theorem isSome_equals? (left right : Value) :
    (equals? left right).isSome = true ↔ Kind.Equatable left.kind right.kind := by
  cases left <;> cases right <;> simp [equals?, promoted?, kind, Kind.Equatable, Kind.common?]

theorem settled_equality (operator : BinaryOperator) (left right : Value) :
    Settled kind (if Kind.Equatable left.kind right.kind then some .bool else none)
      (equality operator left right) := by
  unfold equality
  simp only [← isSome_equals?]
  cases equals? left right with
  | some equal => exact .result (Value.bool _)
  | none => exact .mismatch _

theorem isSome_order? (left right : Value) :
    (order? left right).isSome = true ↔ Kind.Ordered left.kind right.kind := by
  cases left <;> cases right <;> simp [order?, promoted?, kind, Kind.Ordered, Kind.common?]

theorem exists_holdsFor {operator : BinaryOperator} (relational : operator.tier = .relational)
    (order : Option Ordering) : ∃ holds, holdsFor? operator order = some holds := by
  cases operator with
  | less | lessEqual | greater | greaterEqual => exact ⟨_, rfl⟩
  | add | subtract | multiply | divide | remainder | equal | notEqual | and | or | xor =>
      cases relational

theorem settled_ordering {operator : BinaryOperator} (relational : operator.tier = .relational)
    (left right : Value) :
    Settled kind (if Kind.Ordered left.kind right.kind then some .bool else none)
      (ordering operator left right) := by
  unfold ordering
  simp only [← isSome_order?]
  cases order? left right with
  | some order =>
      obtain ⟨holds, found⟩ := exists_holdsFor relational order
      simp only [Option.bind_some, found]
      exact .result (Value.bool holds)
  | none => exact .mismatch _

theorem settled_logic {operator : BinaryOperator} (logical : operator.tier = .logical)
    (left right : Value) :
    Settled kind (Kind.logical? left.kind right.kind) (logic operator left right) := by
  cases left with
  | bool first =>
      cases right with
      | bool second =>
          cases operator with
          | and | or | xor => exact .result (Value.bool _)
          | add | subtract | multiply | divide | remainder | equal | notEqual | less | lessEqual
          | greater | greaterEqual => cases logical
      | int | float | string | set => exact .mismatch _
  | int first =>
      cases right with
      | int second =>
          cases operator with
          | and | or | xor => exact .result (Value.int _)
          | add | subtract | multiply | divide | remainder | equal | notEqual | less | lessEqual
          | greater | greaterEqual => cases logical
      | bool | float | string | set => exact .mismatch _
  | float | string | set => exact .mismatch _

/-- **The kind of what an operator gives is told by the kinds of its operands.** -/
theorem settled_binary (left : Value) (operator : BinaryOperator) (right : Value) :
    Settled kind (operator.resultKind? left.kind right.kind) (left.binary operator right) := by
  unfold binary BinaryOperator.resultKind?
  cases tier : operator.tier with
  | equality => exact settled_equality operator left right
  | relational => exact settled_ordering tier left right
  | logical => exact settled_logic tier left right
  | additive => exact settled_arithmetic (.inl tier) left right
  | multiplicative => exact settled_arithmetic (.inr tier) left right
  | unary => cases operator <;> cases tier

end Value

/-! ## Functions -/

/-- The kind of what a function answers. -/
def Builtin.resultKind? : Builtin → List Kind → Option Kind
  | .abs, [.int] => some .int
  | .abs, [.float] => some .float
  | .round, [.int] | .round, [.float] => some .int
  | .str2int, [.int] | .str2int, [.string] => some .int
  | .str2float, [.int] | .str2float, [.float] | .str2float, [.string] => some .float
  | .str2bool, [.bool] | .str2bool, [.string] => some .bool
  | .tostr, [_] => some .string
  | .strlen, [.string] => some .int
  | .issubstr, [.string, .string] => some .bool
  | .str2java, [.string] => some .string
  | .set, _ => some .set
  | .size, [.set] => some .int
  | .contains, [.set, _] => some .bool
  | .union, [.set, .set] | .intersect, [.set, .set] | .diff, [.set, .set] => some .set
  | _, _ => none

/-- The kind of what a call answers. -/
def Builtin.callKind? (name : String) (kinds : List Kind) : Option Kind :=
  match Builtin.named? name with
  | none => none
  | some builtin => if builtin.arity.accepts kinds.length then builtin.resultKind? kinds else none

namespace Builtin

/-- A conversion that comes to a value of a kind. -/
theorem settled_converted {α : Type} (builtin : Builtin) (text expected : String)
    (answer : Option α) (make : α → Value) {target : Kind}
    (kinds : ∀ result, (make result).kind = target) :
    Settled Value.kind (some target) (converted builtin text expected (answer.map make)) := by
  cases answer with
  | none => exact .accident target (.invalidArgument _ _)
  | some result =>
      rw [← kinds result]
      exact .result (make result)

theorem settled_wholeNumber (function : String) (number : Float32) :
    Settled Value.kind (some .int) ((wholeNumber function number).map Value.int) := by
  unfold wholeNumber
  cases Binary32.truncate? number with
  | none => exact .accident _ (.invalidArgument _ _)
  | some whole => exact .result (Value.int whole)

theorem exists_one {values : List Value} (one : (Arity.exactly 1).accepts values.length = true) :
    ∃ value, values = [value] :=
  List.length_eq_one_iff.mp (beq_iff_eq.mp one)

theorem exists_two {values : List Value} (two : (Arity.exactly 2).accepts values.length = true) :
    ∃ first second, values = [first, second] :=
  List.length_eq_two.mp (beq_iff_eq.mp two)

/-- **The kind of what a function answers is told by the kinds of its arguments.** -/
theorem settled_apply (builtin : Builtin) {arguments : List Value}
    (accepted : builtin.arity.accepts arguments.length = true) :
    Settled Value.kind (builtin.resultKind? (arguments.map Value.kind))
      (builtin.apply arguments) := by
  -- the table of functions fixes the number of arguments, so that only their kinds are left
  cases builtin with
  | abs =>
      obtain ⟨value, rfl⟩ := exists_one accepted
      cases value with
      | int number => exact .result (Value.int number.abs)
      | float number => exact .result (Value.float number.abs)
      | string | bool | set => exact .mismatch _
  | round =>
      obtain ⟨value, rfl⟩ := exists_one accepted
      cases value with
      | int number => exact .result (Value.int number)
      | float number => exact settled_wholeNumber _ _
      | string | bool | set => exact .mismatch _
  | str2int =>
      obtain ⟨value, rfl⟩ := exists_one accepted
      cases value with
      | int number => exact .result (Value.int number)
      | string text => exact settled_converted _ _ _ _ Value.int fun _ => rfl
      | float | bool | set => exact .mismatch _
  | str2float =>
      obtain ⟨value, rfl⟩ := exists_one accepted
      cases value with
      | float number => exact .result (Value.float number)
      | int number => exact .result (Value.float _)
      | string text => exact settled_converted _ _ _ _ Value.float fun _ => rfl
      | bool | set => exact .mismatch _
  | str2bool =>
      obtain ⟨value, rfl⟩ := exists_one accepted
      cases value with
      | bool truth => exact .result (Value.bool truth)
      | string text => exact settled_converted _ _ _ _ Value.bool fun _ => rfl
      | int | float | set => exact .mismatch _
  | tostr =>
      obtain ⟨value, rfl⟩ := exists_one accepted
      exact .result (Value.string value.text)
  | strlen =>
      obtain ⟨value, rfl⟩ := exists_one accepted
      cases value with
      | string text => exact .result (Value.int _)
      | int | float | bool | set => exact .mismatch _
  | issubstr =>
      obtain ⟨first, second, rfl⟩ := exists_two accepted
      cases first with
      | string needle =>
          cases second with
          | string text => exact .result (Value.bool _)
          | int | float | bool | set => exact .mismatch _
      | int | float | bool | set => exact .mismatch _
  | str2java =>
      obtain ⟨value, rfl⟩ := exists_one accepted
      cases value with
      | string text => exact .result (Value.string _)
      | int | float | bool | set => exact .mismatch _
  | set => exact .result (Value.setOf arguments)
  | size =>
      obtain ⟨value, rfl⟩ := exists_one accepted
      cases value with
      | set members => exact .result (Value.int _)
      | int | float | string | bool => exact .mismatch _
  | contains =>
      obtain ⟨first, second, rfl⟩ := exists_two accepted
      cases first with
      | set members => exact .result (Value.bool _)
      | int | float | string | bool => exact .mismatch _
  | union | intersect | diff =>
      obtain ⟨first, second, rfl⟩ := exists_two accepted
      cases first with
      | set left =>
          cases second with
          | set right => exact .result (Value.set _)
          | int | float | string | bool => exact .mismatch _
      | int | float | string | bool => exact .mismatch _

/-- **The kind of what a call answers is told by the kinds of its arguments.** -/
theorem settled_call (name : String) (arguments : List Value) :
    Settled Value.kind (callKind? name (arguments.map Value.kind)) (call name arguments) := by
  unfold callKind? call
  cases named? name with
  | none => exact .mismatch _
  | some builtin =>
      simp only [List.length_map]
      by_cases accepted : builtin.arity.accepts arguments.length = true
      · rw [if_pos accepted, if_pos accepted]
        exact settled_apply builtin accepted
      · rw [if_neg accepted, if_neg accepted]
        exact .mismatch _

end Builtin

/-! ## Expressions -/

/-- The kind of the value of a name in an expression. -/
def Scope.kindOf? (scope : Scope) (name : String) : Option Kind :=
  match scope.lookup name with
  | some value => some value.kind
  | none => if scope.unknownAsFalse then some .bool else none

theorem Scope.settled_resolve (scope : Scope) (name : String) :
    Settled Value.kind (scope.kindOf? name) (scope.resolve name) := by
  unfold kindOf? resolve
  cases scope.lookup name with
  | some value => exact .result value
  | none =>
      cases scope.unknownAsFalse with
      | true => exact .result (Value.bool false)
      | false => exact .mismatch _

namespace Expr

mutual
/-- The kind of the value of an expression, by the kinds of the names in it. -/
def kind? (names : String → Option Kind) : Expr → Option Kind
  | .literal value _ => some value.value.kind
  | .variable name _ => names name
  | .unary operator operand _ => (kind? names operand).bind operator.resultKind?
  | .binary operator left right _ =>
    (kind? names left).bind fun leftKind => (kind? names right).bind (operator.resultKind? leftKind)
  | .call function arguments _ => (kinds? names arguments).bind (Builtin.callKind? function)

/-- The kinds of the values of some expressions. -/
def kinds? (names : String → Option Kind) : List Expr → Option (List Kind)
  | [] => some []
  | expr :: rest =>
    (kind? names expr).bind fun first => (kinds? names rest).bind fun others => some (first :: others)
end

variable (scope : Scope)

mutual
/-- **The kind of the value of an expression is told by the kinds of names.** -/
theorem settled_eval : ∀ expr : Expr,
    Settled Value.kind (expr.kind? scope.kindOf?) (expr.eval scope)
  | .literal value _ => by
      rw [kind?, eval]
      exact .result value.value
  | .variable name _ => by
      rw [kind?, eval]
      exact scope.settled_resolve name
  | .unary operator operand _ => by
      rw [kind?, eval_unary]
      exact (settled_eval operand).bind fun value => value.settled_unary operator
  | .binary operator left right _ => by
      rw [kind?, eval_binary]
      exact (settled_eval left).bind fun leftValue =>
        (settled_eval right).bind fun rightValue => leftValue.settled_binary operator rightValue
  | .call function arguments _ => by
      rw [kind?, eval_call]
      exact (settled_evalAll arguments).bind (Builtin.settled_call function)

/-- The kinds of the values of some expressions are told by the kinds of names. -/
theorem settled_evalAll : ∀ exprs : List Expr,
    Settled (List.map Value.kind) (kinds? scope.kindOf? exprs) (evalAll scope exprs)
  | [] => by
      rw [kinds?, evalAll]
      exact .result []
  | expr :: rest => by
      rw [kinds?, evalAll_cons]
      exact (settled_eval expr).bind fun value =>
        (settled_evalAll rest).bind fun values => .result (value :: values)
end

end Expr

/-! ## Scopes that give names values of the same kinds -/

/-- Scopes that treat names without a value alike and give every other name values of one kind. -/
structure Scope.SameKinds (scope scope' : Scope) : Prop where
  unknownAsFalse : scope.unknownAsFalse = scope'.unknownAsFalse
  kinds : ∀ name, (scope.lookup name).map Value.kind = (scope'.lookup name).map Value.kind

theorem Scope.SameKinds.kindOf?_eq {scope scope' : Scope} (same : scope.SameKinds scope') :
    scope.kindOf? = scope'.kindOf? := by
  funext name
  have kinds := same.kinds name
  unfold kindOf?
  rw [same.unknownAsFalse]
  cases found : scope.lookup name with
  | some value =>
      cases found' : scope'.lookup name with
      | some value' => simpa [found, found'] using kinds
      | none => simp [found, found'] at kinds
  | none =>
      cases found' : scope'.lookup name with
      | some value' => simp [found, found'] at kinds
      | none => rfl

/-- **Kinds are static.**  If an expression has a value in one scope, then in a scope that gives
names values of the same kinds it has a value of the same kind, or it fails by a division by zero
or by an argument that a function does not take. -/
theorem Expr.eval_of_sameKinds {scope scope' : Scope} (same : scope.SameKinds scope') {expr : Expr}
    {value : Value} (answered : expr.eval scope = .ok value) :
    (∃ value', expr.eval scope' = .ok value' ∧ value'.kind = value.kind) ∨
      ∃ cause, expr.eval scope' = .error cause ∧ cause.DependsOnValues := by
  have settled := settled_eval scope expr
  have settled' := settled_eval scope' expr
  rw [answered] at settled
  rw [← same.kindOf?_eq, settled.eq_of_ok] at settled'
  exact settled'.of_some

/-- A scope in which the shared variable `n` has a value. -/
def Scope.ofNumber (number : Int64) : Scope := { globals := Layer.empty.set "n" (.int number) }

theorem Scope.sameKinds_ofNumber (number number' : Int64) :
    (Scope.ofNumber number).SameKinds (Scope.ofNumber number') where
  unknownAsFalse := rfl
  kinds name := by
    show ((Layer.empty.set "n" (.int number)).get? name).map Value.kind =
      ((Layer.empty.set "n" (.int number')).get? name).map Value.kind
    simp only [Layer.get?, Layer.set, SortedMap.get?_insert]
    split <;> rfl

/-- The quotient of ten and the variable `n`. -/
def Expr.tenth : Expr := .binary .divide (.literal (.int 10) 0) (.variable "n" 5) 3

/-- A quotient of integers is an integer, or its divisor is zero. -/
theorem Expr.eval_of_sameKinds_tenth :
    (Scope.ofNumber 4).SameKinds (Scope.ofNumber 0) ∧
      Expr.tenth.eval (Scope.ofNumber 4) = .ok (.int 2) ∧
      ((∃ value, Expr.tenth.eval (Scope.ofNumber 0) = .ok value ∧ value.kind = .int) ∨
        ∃ cause, Expr.tenth.eval (Scope.ofNumber 0) = .error cause ∧ cause.DependsOnValues) := by
  have answered : Expr.tenth.eval (Scope.ofNumber 4) = .ok (.int 2) := by cbv
  have same := Scope.sameKinds_ofNumber 4 0
  exact ⟨same, answered, Expr.eval_of_sameKinds same answered⟩

end CommentDirectives
