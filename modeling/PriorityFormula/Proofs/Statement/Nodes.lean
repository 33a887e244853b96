import Mathlib.Tactic.Lemma
import PriorityFormula.Statement.Lookup

/-!
# Walking through a tree

The nodes of a tree are listed in pre-order: the root, and then the nodes of its operands from left
to right. Since every node is reached from the root through operands, what passes from the operands
of a node to the node itself holds of all nodes.

A walk that stops at the first node with some property meets the nodes up to that one.
-/

namespace PriorityFormula

/-! ### Lists up to an element -/

section UpToFirst

variable {α β : Type}

/-- The elements of a list up to the first one with a property, including that one; all of them if
none has the property. -/
def upToFirst (p : α → Bool) (l : List α) : List α :=
  l.takeWhile (fun a => !p a) ++ (l.find? p).toList

lemma upToFirst_cons_of_pos {p : α → Bool} {a : α} (h : p a = true) (l : List α) :
    upToFirst p (a :: l) = [a] := by
  rw [upToFirst, List.takeWhile_cons_of_neg (by rw [h]; exact Bool.false_ne_true),
    List.find?_cons_of_pos h]
  rfl

lemma upToFirst_cons_of_neg {p : α → Bool} {a : α} (h : p a = false) (l : List α) :
    upToFirst p (a :: l) = a :: upToFirst p l := by
  rw [upToFirst, List.takeWhile_cons_of_pos (by rw [h]; rfl),
    List.find?_cons_of_neg (ne_true_of_eq_false h)]
  rfl

/-- A list is left whole if no element has the property. -/
lemma upToFirst_eq_self {p : α → Bool} {l : List α} (h : l.find? p = none) :
    upToFirst p l = l := by
  induction l with
  | nil => rfl
  | cons a l ih =>
    have ha := List.find?_eq_none.mp h a (List.mem_cons_self ..)
    rw [List.find?_cons_of_neg ha] at h
    rw [upToFirst_cons_of_neg (Bool.eq_false_iff.mpr ha), ih h]

/-- The second of two lists is not reached if an element of the first one has the property. -/
lemma upToFirst_append (p : α → Bool) (l m : List α) :
    upToFirst p (l ++ m) = upToFirst p l ++ if l.find? p = none then upToFirst p m else [] := by
  induction l with
  | nil => rfl
  | cons a l ih =>
    cases ha : p a with
    | true =>
      rw [List.cons_append, upToFirst_cons_of_pos ha, upToFirst_cons_of_pos ha,
        List.find?_cons_of_pos ha]
      rfl
    | false =>
      rw [List.cons_append, upToFirst_cons_of_neg ha, upToFirst_cons_of_neg ha, ih,
        List.find?_cons_of_neg (ne_true_of_eq_false ha)]
      rfl

end UpToFirst

/-! ### The nodes of a tree -/

/-- The conditions in a condition, in pre-order, the condition itself included. -/
def Boolean.nodes {B : Type} : Boolean B → List (Boolean B)
  | literal value => [literal value]
  | var v => [var v]
  | joined id connective left right =>
    joined id connective left right :: (left.nodes ++ right.nodes)
  | ternary id condition ifTrue otherwise =>
    ternary id condition ifTrue otherwise :: (condition.nodes ++ ifTrue.nodes ++ otherwise.nodes)

/-- The statements in a numeric statement, in pre-order, the statement itself included. -/
def Numeric.nodes {A B : Type} {f : Format} : Numeric A B f → List (Node A B f)
  | literal value => [.numeric (literal value)]
  | var v => [.numeric (var v)]
  | additive id sign left right =>
    .numeric (additive id sign left right) :: (left.nodes ++ right.nodes)
  | scaled id scaling left right =>
    .numeric (scaled id scaling left right) :: (left.nodes ++ right.nodes)
  | round id mode operand => .numeric (round id mode operand) :: operand.nodes
  | ternary id condition ifTrue otherwise =>
    .numeric (ternary id condition ifTrue otherwise) ::
      (condition.nodes.map .boolean ++ ifTrue.nodes ++ otherwise.nodes)

namespace Node

variable {A B : Type} {f : Format}

/-- The statements in a statement, in pre-order, the statement itself included. -/
def nodes : Node A B f → List (Node A B f)
  | numeric s => s.nodes
  | boolean s => s.nodes.map boolean

/-- The nodes of a tree are its root and the nodes of its operands. -/
lemma nodes_eq (n : Node A B f) : n.nodes = n :: n.children.flatMap nodes := by
  cases n with
  | numeric s =>
    cases s <;>
      simp only [nodes, Numeric.nodes, children, List.flatMap_nil, List.flatMap_cons,
        List.append_nil, List.append_assoc]
  | boolean s =>
    cases s <;>
      simp only [nodes, Boolean.nodes, children, List.map_nil, List.map_cons, List.map_append,
        List.flatMap_nil, List.flatMap_cons, List.append_nil, List.append_assoc]

/-- What holds of a node if it holds of its operands holds of all nodes. -/
theorem induction {motive : Node A B f → Prop}
    (step : ∀ n, (∀ child ∈ n.children, motive child) → motive n) (n : Node A B f) :
    motive n := by
  have hboolean : ∀ s : Boolean B, motive (.boolean s) := by
    intro s
    apply step
    induction s with
    | literal value => exact List.forall_mem_nil _
    | var v => exact List.forall_mem_nil _
    | joined id connective left right ihl ihr =>
      simp only [children, List.forall_mem_cons]
      exact ⟨step _ ihl, step _ ihr, List.forall_mem_nil _⟩
    | ternary id condition ifTrue otherwise ihc iht iho =>
      simp only [children, List.forall_mem_cons]
      exact ⟨step _ ihc, step _ iht, step _ iho, List.forall_mem_nil _⟩
  cases n with
  | boolean s => exact hboolean s
  | numeric s =>
    apply step
    induction s with
    | literal value => exact List.forall_mem_nil _
    | var v => exact List.forall_mem_nil _
    | additive id sign left right ihl ihr =>
      simp only [children, List.forall_mem_cons]
      exact ⟨step _ ihl, step _ ihr, List.forall_mem_nil _⟩
    | scaled id scaling left right ihl ihr =>
      simp only [children, List.forall_mem_cons]
      exact ⟨step _ ihl, step _ ihr, List.forall_mem_nil _⟩
    | round id mode operand ih =>
      simp only [children, List.forall_mem_cons]
      exact ⟨step _ ih, List.forall_mem_nil _⟩
    | ternary id condition ifTrue otherwise iht iho =>
      simp only [children, List.forall_mem_cons]
      exact ⟨hboolean condition, step _ iht, step _ iho, List.forall_mem_nil _⟩

end Node

end PriorityFormula
