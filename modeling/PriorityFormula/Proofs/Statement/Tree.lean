import PriorityFormula.Proofs.Reader.Tree
import PriorityFormula.Proofs.Statement.Value

/-!
# The tree of a statement

A statement is itself a tree of operators. Seen as a tree of the reader, its literals stand as the
numerals in which they are written and its variables as their names. Evaluated in a scope that gives
these the same meaning as the statement has, that tree has the value of the statement: there is no
fault, and it does not matter that a connective always has both operands evaluated.
-/

namespace PriorityFormula

open Reader (Tree Scope Value)

/-! ### Statements of either value type -/

namespace Access

variable {A B K : Type} {f : Format}

/-- The name of a variable. -/
def name : Access A B → Name
  | number v => v.name
  | flag v => v.name

/-- What the accessor of a variable gives. -/
def value (I : Interpretation A B f K) : Access A B → Value K
  | number v => .number (I.number v.accessor)
  | flag v => .truth (I.flag v.accessor)

end Access

namespace Node

variable {A B K : Type} {f : Format}

/-- The variables of a statement from left to right, whether they are read or not. -/
def allVariables : Node A B f → List (Access A B)
  | numeric s => s.allVariables
  | boolean s => s.allVariables.map .flag

/-- The value of a statement. -/
def evaluate (I : Interpretation A B f K) : Node A B f → Value K
  | numeric s => .number (s.evaluate I)
  | boolean s => .truth (s.evaluate I.flag)

/-- The statement whose blocks lean to the left. -/
def regrouped : Node A B f → Node A B f
  | numeric s => numeric s.regrouped
  | boolean s => boolean s.regrouped

/-- The statement with all literal zeros unsigned. -/
def unsignedZeros : Node A B f → Node A B f
  | numeric s => numeric s.unsignedZeros
  | boolean s => boolean s

/-- Whether somewhere in a statement an operation of a scaling has another operation of the same
scaling on its right. -/
def nestsOnRight (scaling : Scaling) : Node A B f → Bool
  | numeric s => s.nestsOnRight scaling
  | boolean _ => false

/-- Regrouping keeps the variables in order. -/
@[simp] lemma allVariables_regrouped (s : Node A B f) :
    s.regrouped.allVariables = s.allVariables := by
  cases s with
  | numeric s => exact s.allVariables_regrouped
  | boolean s => exact congrArg (List.map Access.flag) s.allVariables_regrouped

end Node

/-! ### Trees -/

/-- The tree of a condition. -/
def Boolean.tree {B : Type} : Boolean B → Tree
  | literal value => .truth value
  | var v => .name v.name.text.toList
  | joined _ connective left right => .binary connective.operator left.tree right.tree
  | ternary _ condition ifTrue otherwise => .choice condition.tree ifTrue.tree otherwise.tree

/-- The tree of a numeric statement. -/
def Numeric.tree {A B : Type} {f : Format} : Numeric A B f → Tree
  | literal value => .number value.isNegative value.numeral
  | var v => .name v.name.text.toList
  | additive _ sign left right => .binary sign.operator left.tree right.tree
  | scaled _ scaling left right => .binary scaling.operator left.tree right.tree
  | round _ mode operand => .rounded mode operand.tree
  | ternary _ condition ifTrue otherwise => .choice condition.tree ifTrue.tree otherwise.tree

/-- The tree of a statement of either value type. -/
def Node.tree {A B : Type} {f : Format} : Node A B f → Tree
  | numeric s => s.tree
  | boolean s => s.tree

/-! ### Evaluating the tree of a statement -/

section Evaluate

variable {A B K : Type} {f : Format}

/-- A name that has a value is evaluated to it. -/
lemma Reader.evaluate_name {scope : Scope K} {name : Name} {value : Value K}
    (h : scope.lookup name.text = some value) :
    (Tree.name name.text.toList).evaluate scope = .ok value := by
  simp only [Tree.evaluate, String.ofList_toList, h]

/-- The tree of a condition has the condition's value. -/
lemma Boolean.evaluate_tree {scope : Scope K} {flag : B → Bool} (s : Boolean B)
    (hvariables : ∀ v ∈ s.allVariables,
      scope.lookup v.name.text = some (.truth (flag v.accessor))) :
    s.tree.evaluate scope = .ok (.truth (s.evaluate flag)) := by
  induction s with
  | literal value => rfl
  | var v => exact Reader.evaluate_name (hvariables v (List.mem_singleton_self v))
  | joined id connective left right ihl ihr =>
    obtain ⟨hleft, hright⟩ := List.forall_mem_append.mp hvariables
    rw [tree, Tree.evaluate, ihl hleft, ihr hright, evaluate_joined]
    show Value.apply scope.arithmetic connective.operator _ _ = _
    cases connective <;> cases left.evaluate flag <;> rfl
  | ternary id condition ifTrue otherwise ihc iht iho =>
    obtain ⟨hselection, hotherwise⟩ := List.forall_mem_append.mp hvariables
    obtain ⟨hcondition, hifTrue⟩ := List.forall_mem_append.mp hselection
    rw [tree, Tree.evaluate, ihc hcondition, iht hifTrue, iho hotherwise, evaluate_ternary]
    cases condition.evaluate flag <;> rfl

/-- The tree of a numeric statement has the statement's value. -/
lemma Numeric.evaluate_tree {scope : Scope K} {I : Interpretation A B f K}
    (harithmetic : scope.arithmetic = I.arithmetic)
    (hliterals : ∀ value, scope.numeral value.isNegative value.numeral = I.literal value)
    (s : Numeric A B f)
    (hvariables : ∀ v ∈ s.allVariables, scope.lookup v.name.text = some (v.value I)) :
    s.tree.evaluate scope = .ok (.number (s.evaluate I)) := by
  induction s with
  | literal value =>
    rw [tree, Tree.evaluate, hliterals value, evaluate_literal]
  | var v => exact Reader.evaluate_name (hvariables (.number v) (List.mem_singleton_self _))
  | additive id sign left right ihl ihr =>
    obtain ⟨hleft, hright⟩ := List.forall_mem_append.mp hvariables
    rw [tree, Tree.evaluate, ihl hleft, ihr hright, evaluate_additive, ← harithmetic]
    cases sign <;> rfl
  | scaled id scaling left right ihl ihr =>
    obtain ⟨hleft, hright⟩ := List.forall_mem_append.mp hvariables
    rw [tree, Tree.evaluate, ihl hleft, ihr hright, evaluate_scaled, ← harithmetic]
    cases scaling <;> rfl
  | round id mode operand ih =>
    rw [tree, Tree.evaluate, ih hvariables, evaluate_round, ← harithmetic]
    rfl
  | ternary id condition ifTrue otherwise iht iho =>
    obtain ⟨hselection, hotherwise⟩ := List.forall_mem_append.mp hvariables
    obtain ⟨hflags, hifTrue⟩ := List.forall_mem_append.mp hselection
    have hcondition : condition.tree.evaluate scope = .ok (.truth (condition.evaluate I.flag)) :=
      condition.evaluate_tree (List.forall_mem_map.mp hflags)
    rw [tree, Tree.evaluate, hcondition, iht hifTrue, iho hotherwise, evaluate_ternary]
    cases condition.evaluate I.flag <;> rfl

/-- The tree of a statement has the statement's value. -/
lemma Node.evaluate_tree {scope : Scope K} {I : Interpretation A B f K}
    (harithmetic : scope.arithmetic = I.arithmetic)
    (hliterals : ∀ value, scope.numeral value.isNegative value.numeral = I.literal value)
    (s : Node A B f)
    (hvariables : ∀ v ∈ s.allVariables, scope.lookup v.name.text = some (v.value I)) :
    s.tree.evaluate scope = .ok (s.evaluate I) := by
  cases s with
  | numeric s => exact s.evaluate_tree harithmetic hliterals hvariables
  | boolean s => exact s.evaluate_tree (List.forall_mem_map.mp hvariables)

end Evaluate

end PriorityFormula
