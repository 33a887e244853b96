import PriorityFormula.Statement.Basic

/-!
# Looking into statements

The operands of a compound statement are reached by index, and any compound statement inside a tree
is found by its identity: `find` gives the first one in pre-order, the root included.
-/

namespace PriorityFormula

namespace Boolean

variable {B : Type}

/-- The first statement with an identity, in pre-order. -/
def find (id : Id) : Boolean B → Option (Boolean B)
  | literal _ | var _ => none
  | joined own connective left right =>
    if own = id then some (joined own connective left right)
    else (left.find id).or (right.find id)
  | ternary own condition ifTrue otherwise =>
    if own = id then some (ternary own condition ifTrue otherwise)
    else ((condition.find id).or (ifTrue.find id)).or (otherwise.find id)

end Boolean

namespace Node

variable {A B : Type} {f : Format}

/-- The direct operands, in order. -/
def children : Node A B f → List (Node A B f)
  | numeric (.literal _) | numeric (.var _) => []
  | numeric (.additive _ _ left right) => [numeric left, numeric right]
  | numeric (.scaled _ _ left right) => [numeric left, numeric right]
  | numeric (.round _ _ operand) => [numeric operand]
  | numeric (.ternary _ condition ifTrue otherwise) =>
    [boolean condition, numeric ifTrue, numeric otherwise]
  | boolean (.literal _) | boolean (.var _) => []
  | boolean (.joined _ _ left right) => [boolean left, boolean right]
  | boolean (.ternary _ condition ifTrue otherwise) =>
    [boolean condition, boolean ifTrue, boolean otherwise]

/-- The operand at an index, counted from zero. -/
def operand? : Node A B f → Nat → Option (Node A B f)
  | numeric (.additive _ _ left _), 0 => some (numeric left)
  | numeric (.additive _ _ _ right), 1 => some (numeric right)
  | numeric (.scaled _ _ left _), 0 => some (numeric left)
  | numeric (.scaled _ _ _ right), 1 => some (numeric right)
  | numeric (.round _ _ operand), 0 => some (numeric operand)
  | numeric (.ternary _ condition _ _), 0 => some (boolean condition)
  | numeric (.ternary _ _ ifTrue _), 1 => some (numeric ifTrue)
  | numeric (.ternary _ _ _ otherwise), 2 => some (numeric otherwise)
  | boolean (.joined _ _ left _), 0 => some (boolean left)
  | boolean (.joined _ _ _ right), 1 => some (boolean right)
  | boolean (.ternary _ condition _ _), 0 => some (boolean condition)
  | boolean (.ternary _ _ ifTrue _), 1 => some (boolean ifTrue)
  | boolean (.ternary _ _ _ otherwise), 2 => some (boolean otherwise)
  | _, _ => none

/-- The operand at an index, or the fault that there is none. -/
def get (n : Node A B f) (index : Nat) : Except Fault (Node A B f) :=
  match n.operand? index with
  | some operand => .ok operand
  | none => .error (.indexOutOfRange index n.arity)

/-- There are as many operands as the arity says. -/
theorem length_children (n : Node A B f) : n.children.length = n.arity := by
  cases n with
  | numeric s => cases s <;> rfl
  | boolean s => cases s <;> rfl

/-- The operand at an index is the one that is listed there. -/
theorem operand?_eq_getElem? (n : Node A B f) (index : Nat) :
    n.operand? index = n.children[index]? := by
  match n, index with
  | numeric (.literal _), _ | numeric (.var _), _ => rfl
  | numeric (.additive ..), 0 | numeric (.additive ..), 1 | numeric (.additive ..), _ + 2 => rfl
  | numeric (.scaled ..), 0 | numeric (.scaled ..), 1 | numeric (.scaled ..), _ + 2 => rfl
  | numeric (.round ..), 0 | numeric (.round ..), _ + 1 => rfl
  | numeric (.ternary ..), 0 | numeric (.ternary ..), 1 | numeric (.ternary ..), 2
  | numeric (.ternary ..), _ + 3 => rfl
  | boolean (.literal _), _ | boolean (.var _), _ => rfl
  | boolean (.joined ..), 0 | boolean (.joined ..), 1 | boolean (.joined ..), _ + 2 => rfl
  | boolean (.ternary ..), 0 | boolean (.ternary ..), 1 | boolean (.ternary ..), 2
  | boolean (.ternary ..), _ + 3 => rfl

/-- The operands met when the index counts up from a first one, as long as there is an operand. -/
def operandsFrom (n : Node A B f) (index : Nat) : List (Node A B f) :=
  match h : n.operand? index with
  | none => []
  | some operand => operand :: n.operandsFrom (index + 1)
termination_by n.arity - index
decreasing_by
  obtain ⟨hindex, _⟩ := List.getElem?_eq_some_iff.mp (n.operand?_eq_getElem? index ▸ h)
  rw [length_children] at hindex
  exact Nat.sub_succ_lt_self _ _ hindex

/-- The operands met when the index counts up from zero. -/
def operands (n : Node A B f) : List (Node A B f) :=
  n.operandsFrom 0

/-- An operand is smaller than the statement. -/
theorem sizeOf_lt_of_mem_children {n child : Node A B f} (h : child ∈ n.children) :
    sizeOf child < sizeOf n := by
  cases n with
  | numeric s =>
    cases s <;> simp [children] at h <;> rcases h with rfl | rfl | rfl <;> simp <;> omega
  | boolean s =>
    cases s <;> simp [children] at h <;> rcases h with rfl | rfl | rfl <;> simp <;> omega

/-- The first statement with an identity, in pre-order: the root itself, or else the first one that
is found in an operand. -/
def find (id : Id) (n : Node A B f) : Option (Node A B f) :=
  if n.id? = some id then some n
  else n.children.attach.findSome? fun child => child.1.find id
termination_by sizeOf n
decreasing_by exact sizeOf_lt_of_mem_children child.2

/-- What is found is the root itself, or else the first statement that is found in an operand. -/
theorem find_eq (id : Id) (n : Node A B f) :
    n.find id = if n.id? = some id then some n else n.children.findSome? (find id) := by
  rw [find, List.findSome?_subtype fun _ _ => rfl, List.unattach_attach]

end Node

/-- The first statement with an identity, in pre-order; it may be a condition. -/
def Numeric.find {A B : Type} {f : Format} (id : Id) (s : Numeric A B f) : Option (Node A B f) :=
  (Node.numeric s).find id

end PriorityFormula
