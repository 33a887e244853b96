import PriorityFormula.Proofs.Reader.Tree

/-!
# What a tree gives

`Tree.Gives` says rule by rule what a tree gives: a value or a fault. The operands of an operator
come one after the other, and the first fault is that of the whole; only where both operands have
values does the operator combine them. Of two values the left one is checked first, and a connective
looks at the right one only where the left one does not decide. Of a choice the condition comes
first and then the selected branch, never the other one.

Every tree gives exactly one result, which is what evaluating it computes.
-/

namespace PriorityFormula.Reader

section Meaning

variable {K : Type}

/-- The operation that an arithmetic operator stands for. -/
inductive Calculates (arithmetic : Arithmetic K) : Operator → (K → K → K) → Prop
  | add : Calculates arithmetic .add arithmetic.add
  | subtract : Calculates arithmetic .subtract arithmetic.subtract
  | multiply : Calculates arithmetic .multiply arithmetic.multiply
  | divide : Calculates arithmetic .divide arithmetic.divide

/-- The truth value on the left with which a connective is decided. -/
inductive Decides : Operator → Bool → Prop
  | and : Decides .and false
  | or : Decides .or true

/-- What an operator makes of two values. -/
inductive Combines (arithmetic : Arithmetic K) :
    Operator → Value K → Value K → Except ReadFault (Value K) → Prop
  | numbers {op : Operator} {operation : K → K → K} (h : Calculates arithmetic op operation)
      (x y : K) :
      Combines arithmetic op (.number x) (.number y) (.ok (.number (operation x y)))
  | leftNoNumber {op : Operator} {operation : K → K → K} (h : Calculates arithmetic op operation)
      (p : Bool) (right : Value K) :
      Combines arithmetic op (.truth p) right (.error .expectedNumber)
  | rightNoNumber {op : Operator} {operation : K → K → K} (h : Calculates arithmetic op operation)
      (x : K) (q : Bool) :
      Combines arithmetic op (.number x) (.truth q) (.error .expectedNumber)
  | decided {op : Operator} {p : Bool} (h : Decides op p) (right : Value K) :
      Combines arithmetic op (.truth p) right (.ok (.truth p))
  | undecided {op : Operator} {p : Bool} (h : Decides op p) (q : Bool) :
      Combines arithmetic op (.truth !p) (.truth q) (.ok (.truth q))
  | rightNoTruth {op : Operator} {p : Bool} (h : Decides op p) (y : K) :
      Combines arithmetic op (.truth !p) (.number y) (.error .expectedBoolean)
  | leftNoTruth {op : Operator} {p : Bool} (h : Decides op p) (x : K) (right : Value K) :
      Combines arithmetic op (.number x) right (.error .expectedBoolean)

/-- What a tree gives. -/
inductive Tree.Gives (scope : Scope K) : Tree → Except ReadFault (Value K) → Prop
  | number (negative : Bool) (magnitude : Decimal) :
      Gives scope (.number negative magnitude) (.ok (.number (scope.numeral negative magnitude)))
  | truth (p : Bool) : Gives scope (.truth p) (.ok (.truth p))
  | bound {text : List Char} {value : Value K}
      (h : scope.lookup (String.ofList text) = some value) : Gives scope (.name text) (.ok value)
  | unbound {text : List Char} (h : scope.lookup (String.ofList text) = none) :
      Gives scope (.name text) (.error (.unbound (String.ofList text)))
  | rounded (mode : Rounding) {inner : Tree} {x : K} (h : Gives scope inner (.ok (.number x))) :
      Gives scope (.rounded mode inner) (.ok (.number (scope.arithmetic.round mode x)))
  | roundedNoNumber (mode : Rounding) {inner : Tree} {p : Bool}
      (h : Gives scope inner (.ok (.truth p))) :
      Gives scope (.rounded mode inner) (.error .expectedNumber)
  | roundedFault (mode : Rounding) {inner : Tree} {fault : ReadFault}
      (h : Gives scope inner (.error fault)) : Gives scope (.rounded mode inner) (.error fault)
  | binary {op : Operator} {left right : Tree} {x y : Value K}
      {result : Except ReadFault (Value K)} (hleft : Gives scope left (.ok x))
      (hright : Gives scope right (.ok y)) (h : Combines scope.arithmetic op x y result) :
      Gives scope (.binary op left right) result
  | leftFault (op : Operator) {left : Tree} (right : Tree) {fault : ReadFault}
      (h : Gives scope left (.error fault)) : Gives scope (.binary op left right) (.error fault)
  | rightFault (op : Operator) {left right : Tree} {x : Value K} {fault : ReadFault}
      (hleft : Gives scope left (.ok x)) (h : Gives scope right (.error fault)) :
      Gives scope (.binary op left right) (.error fault)
  | ifTrue {condition ifTrue : Tree} (otherwise : Tree) {result : Except ReadFault (Value K)}
      (hcondition : Gives scope condition (.ok (.truth true))) (h : Gives scope ifTrue result) :
      Gives scope (.choice condition ifTrue otherwise) result
  | otherwise {condition otherwise : Tree} (ifTrue : Tree) {result : Except ReadFault (Value K)}
      (hcondition : Gives scope condition (.ok (.truth false))) (h : Gives scope otherwise result) :
      Gives scope (.choice condition ifTrue otherwise) result
  | conditionNoTruth {condition : Tree} (ifTrue otherwise : Tree) {x : K}
      (h : Gives scope condition (.ok (.number x))) :
      Gives scope (.choice condition ifTrue otherwise) (.error .expectedBoolean)
  | conditionFault {condition : Tree} (ifTrue otherwise : Tree) {fault : ReadFault}
      (h : Gives scope condition (.error fault)) :
      Gives scope (.choice condition ifTrue otherwise) (.error fault)

/-! ### Applying an operator -/

/-- Applying an arithmetic operator is calculating. -/
lemma Calculates.apply_eq {arithmetic : Arithmetic K} {op : Operator} {operation : K → K → K}
    (h : Calculates arithmetic op operation) :
    Value.apply arithmetic op = Value.calculate operation := by
  cases h <;> rfl

/-- An operator calculates, or it is a connective that some truth value on the left decides. -/
lemma exists_calculates_or_decides (arithmetic : Arithmetic K) (op : Operator) :
    (∃ operation, Calculates arithmetic op operation) ∨ ∃ p, Decides op p := by
  cases op with
  | add => exact .inl ⟨_, .add⟩
  | subtract => exact .inl ⟨_, .subtract⟩
  | multiply => exact .inl ⟨_, .multiply⟩
  | divide => exact .inl ⟨_, .divide⟩
  | and => exact .inr ⟨_, .and⟩
  | or => exact .inr ⟨_, .or⟩

/-- An operator makes something of any two values. -/
lemma exists_combines (arithmetic : Arithmetic K) (op : Operator) (x y : Value K) :
    ∃ result, Combines arithmetic op x y result := by
  rcases exists_calculates_or_decides arithmetic op with ⟨operation, h⟩ | ⟨p, h⟩
  · cases x with
    | truth p => exact ⟨_, .leftNoNumber h p y⟩
    | number x =>
      cases y with
      | number y => exact ⟨_, .numbers h x y⟩
      | truth q => exact ⟨_, .rightNoNumber h x q⟩
  · cases x with
    | number x => exact ⟨_, .leftNoTruth h x y⟩
    | truth p' =>
      by_cases hdecided : p' = p
      · rw [hdecided]
        exact ⟨_, .decided h y⟩
      · rw [Bool.eq_not_of_ne hdecided]
        cases y with
        | number y => exact ⟨_, .rightNoTruth h y⟩
        | truth q => exact ⟨_, .undecided h q⟩

/-- What an operator makes of two values is what applying it computes. -/
lemma Combines.apply_eq {arithmetic : Arithmetic K} {op : Operator} {x y : Value K}
    {result : Except ReadFault (Value K)} (h : Combines arithmetic op x y result) :
    Value.apply arithmetic op x y = result := by
  cases h with
  | numbers h x y | leftNoNumber h p right | rightNoNumber h x q =>
    rw [h.apply_eq]
    rfl
  | decided h | undecided h | rightNoTruth h | leftNoTruth h => cases h <;> rfl

/-- An operator makes of two values what applying it computes. -/
lemma combines_apply (arithmetic : Arithmetic K) (op : Operator) (x y : Value K) :
    Combines arithmetic op x y (Value.apply arithmetic op x y) := by
  obtain ⟨result, h⟩ := exists_combines arithmetic op x y
  rw [h.apply_eq]
  exact h

/-! ### Evaluating a tree -/

/-- A tree gives what evaluating it computes. -/
lemma Tree.gives_evaluate (scope : Scope K) (tree : Tree) :
    tree.Gives scope (tree.evaluate scope) := by
  induction tree with
  | number negative magnitude => exact .number negative magnitude
  | truth p => exact .truth p
  | name text =>
    rw [Tree.evaluate]
    cases hvalue : scope.lookup (String.ofList text) with
    | none => exact .unbound hvalue
    | some value => exact .bound hvalue
  | rounded mode inner ih =>
    rw [Tree.evaluate]
    cases hinner : inner.evaluate scope with
    | error fault => exact .roundedFault mode (hinner ▸ ih)
    | ok value =>
      rw [hinner] at ih
      cases value with
      | number x => exact .rounded mode ih
      | truth p => exact .roundedNoNumber mode ih
  | binary op left right ihLeft ihRight =>
    rw [Tree.evaluate]
    cases hleft : left.evaluate scope with
    | error fault => exact .leftFault op right (hleft ▸ ihLeft)
    | ok x =>
      rw [hleft] at ihLeft
      cases hright : right.evaluate scope with
      | error fault => exact .rightFault op ihLeft (hright ▸ ihRight)
      | ok y => exact .binary ihLeft (hright ▸ ihRight) (combines_apply scope.arithmetic op x y)
  | choice condition ifTrue otherwise ihCondition ihIfTrue ihOtherwise =>
    rw [Tree.evaluate]
    cases hcondition : condition.evaluate scope with
    | error fault => exact .conditionFault ifTrue otherwise (hcondition ▸ ihCondition)
    | ok value =>
      rw [hcondition] at ihCondition
      cases value with
      | number x => exact .conditionNoTruth ifTrue otherwise ihCondition
      | truth p =>
        cases p with
        | true => exact .ifTrue otherwise ihCondition ihIfTrue
        | false => exact .otherwise ifTrue ihCondition ihOtherwise

/-- What a tree gives is what evaluating it computes. -/
lemma Tree.Gives.evaluate_eq {scope : Scope K} {tree : Tree} {result : Except ReadFault (Value K)}
    (h : tree.Gives scope result) : tree.evaluate scope = result := by
  induction h with
  | number _ _ | truth _ => rfl
  | bound h | unbound h => simp only [Tree.evaluate, h]
  | rounded mode _ ih | roundedNoNumber mode _ ih | roundedFault mode _ ih =>
    rw [Tree.evaluate, ih]
    rfl
  | binary _ _ hcombines ihLeft ihRight =>
    rw [Tree.evaluate, ihLeft, ihRight]
    exact hcombines.apply_eq
  | leftFault op right _ ih =>
    rw [Tree.evaluate, ih]
    rfl
  | rightFault op _ _ ihLeft ih =>
    rw [Tree.evaluate, ihLeft, ih]
    rfl
  | ifTrue _ _ _ ihCondition ih | otherwise _ _ _ ihCondition ih =>
    rw [Tree.evaluate, ihCondition]
    exact ih
  | conditionNoTruth _ _ _ ih | conditionFault _ _ _ ih =>
    rw [Tree.evaluate, ih]
    rfl

/-- A tree gives a result if and only if evaluating it computes that result. -/
theorem Tree.gives_iff {scope : Scope K} {tree : Tree} {result : Except ReadFault (Value K)} :
    tree.Gives scope result ↔ tree.evaluate scope = result :=
  ⟨Gives.evaluate_eq, fun h => h ▸ tree.gives_evaluate scope⟩

/-- No tree is malformed. -/
lemma Tree.Gives.ne_malformed {scope : Scope K} {tree : Tree}
    {result : Except ReadFault (Value K)} (h : tree.Gives scope result) :
    result ≠ .error .malformed := by
  induction h with
  | number _ _ | truth _ | bound _ | unbound _ | rounded _ _ _ | roundedNoNumber _ _ _
  | conditionNoTruth _ _ _ _ => nofun
  | binary _ _ hcombines _ _ => cases hcombines <;> nofun
  | roundedFault _ _ ih | leftFault _ _ _ ih | rightFault _ _ _ _ ih | conditionFault _ _ _ ih =>
    exact ih
  | ifTrue _ _ _ _ ih | otherwise _ _ _ _ ih => exact ih

end Meaning

end PriorityFormula.Reader
