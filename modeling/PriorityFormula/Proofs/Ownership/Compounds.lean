import PriorityFormula.Proofs.Ownership.Ids
import PriorityFormula.Proofs.Statement.Paths

/-!
# Looking up identities

The compound statements in a statement are listed in pre-order. Looking for an identity is looking
through this list, and the identities in the statement are those of the list. Where no identity
occurs twice, each compound statement is therefore found by its own.
-/

namespace PriorityFormula

/-! ### Conditions -/

namespace Boolean

variable {B : Type}

/-- The compound conditions in a condition, in pre-order. -/
def compounds : Boolean B → List (Boolean B)
  | literal _ | var _ => []
  | joined id connective left right =>
    joined id connective left right :: (left.compounds ++ right.compounds)
  | ternary id condition ifTrue otherwise =>
    ternary id condition ifTrue otherwise ::
      (condition.compounds ++ ifTrue.compounds ++ otherwise.compounds)

/-- The identities in a condition are those of its compound conditions. -/
lemma coe_filterMap_compounds (s : Boolean B) :
    (s.compounds.filterMap id? : Multiset Id) = s.ids := by
  induction s with
  | literal value => rfl
  | var v => rfl
  | joined id connective left right ihl ihr =>
    rw [ids, ← ihl, ← ihr, compounds, Multiset.coe_add, ← List.filterMap_append]
    rfl
  | ternary id condition ifTrue otherwise ihc iht iho =>
    rw [ids, ← ihc, ← iht, ← iho, compounds, Multiset.coe_add, Multiset.coe_add,
      ← List.filterMap_append, ← List.filterMap_append]
    rfl

/-- Looking for an identity is looking through the compound conditions. -/
lemma find_eq_find?_compounds (id : Id) (s : Boolean B) :
    s.find id = s.compounds.find? (id? · == some id) := by
  induction s with
  | literal value => rfl
  | var v => rfl
  | joined own connective left right ihl ihr =>
    rw [compounds, find?_cons_of_key_eq_some id? rfl, List.find?_append, ← ihl, ← ihr, find]
  | ternary own condition ifTrue otherwise ihc iht iho =>
    rw [compounds, find?_cons_of_key_eq_some id? rfl, List.find?_append, List.find?_append, ← ihc,
      ← iht, ← iho, find]

/-- Where no identity occurs twice, a compound condition is found by its identity. -/
lemma find_eq_some_of_mem_compounds {s t : Boolean B} (hs : s.ids.Nodup) (ht : t ∈ s.compounds)
    {id : Id} (hid : t.id? = some id) : s.find id = some t := by
  rw [← coe_filterMap_compounds, Multiset.coe_nodup] at hs
  rw [find_eq_find?_compounds, find?_eq_some_of_nodup hs ht hid]

/-- An identity occurs in a condition if a compound condition has it. -/
lemma mem_ids_iff {s : Boolean B} {id : Id} :
    id ∈ s.ids ↔ ∃ u ∈ s.compounds, u.id? = some id := by
  rw [← coe_filterMap_compounds, Multiset.mem_coe, List.mem_filterMap]

/-- The parts of a condition hold all that is in it, except for the joined conditions of its
outermost block. -/
lemma length_flatMap_compounds_parts (connective : Connective) (s : Boolean B) :
    ((s.parts connective).flatMap compounds).length + (s.parts connective).length =
      s.compounds.length + 1 := by
  induction s with
  | literal value => rfl
  | var v => rfl
  | joined id own left right ihl ihr =>
    rw [parts]
    split
    · rw [List.flatMap_append, List.length_append, List.length_append, compounds,
        List.length_cons, List.length_append]
      omega
    · rw [List.flatMap_singleton, List.length_singleton]
  | ternary id condition ifTrue otherwise => rw [parts, List.flatMap_singleton,
      List.length_singleton]

/-- A chain holds what is in its head and in its parts, and a joined condition for each part. -/
lemma length_compounds_chainFrom (connective : Connective) (index : Nat) (head : Boolean B)
    (ps : List (Boolean B)) :
    (chainFrom connective index head ps).compounds.length =
      head.compounds.length + ((ps.flatMap compounds).length + ps.length) := by
  induction ps generalizing index head with
  | nil => rfl
  | cons p rest ih =>
    rw [chainFrom, ih, compounds, List.flatMap_cons, List.length_cons, List.length_append,
      List.length_append, List.length_cons]
    omega

end Boolean

/-! ### Numeric statements -/

namespace Numeric

variable {A B : Type} {f : Format}

/-- The compound statements in a statement, in pre-order, those in its conditions included. -/
def compounds : Numeric A B f → List (Node A B f)
  | literal _ | var _ => []
  | additive id sign left right =>
    .numeric (additive id sign left right) :: (left.compounds ++ right.compounds)
  | scaled id scaling left right =>
    .numeric (scaled id scaling left right) :: (left.compounds ++ right.compounds)
  | round id mode operand => .numeric (round id mode operand) :: operand.compounds
  | ternary id condition ifTrue otherwise =>
    .numeric (ternary id condition ifTrue otherwise) ::
      (condition.compounds.map .boolean ++ ifTrue.compounds ++ otherwise.compounds)

/-- The identities in a statement are those of its compound statements. -/
lemma coe_filterMap_compounds (s : Numeric A B f) :
    (s.compounds.filterMap Node.id? : Multiset Id) = s.ids := by
  induction s with
  | literal value => rfl
  | var v => rfl
  | additive id sign left right ihl ihr | scaled id scaling left right ihl ihr =>
    rw [ids, ← ihl, ← ihr, compounds, Multiset.coe_add, ← List.filterMap_append]
    rfl
  | round id mode operand ih =>
    rw [ids, ← ih, compounds]
    rfl
  | ternary id condition ifTrue otherwise iht iho =>
    have hcondition : (condition.compounds.map (Node.boolean (A := A) (f := f))).filterMap
        Node.id? = condition.compounds.filterMap Boolean.id? := List.filterMap_map
    rw [ids, ← condition.coe_filterMap_compounds, ← iht, ← iho, compounds, Multiset.coe_add,
      Multiset.coe_add, ← hcondition, ← List.filterMap_append, ← List.filterMap_append]
    rfl

/-- Looking for an identity is looking through the compound statements. -/
lemma find_eq_find?_compounds (id : Id) (s : Numeric A B f) :
    s.find id = s.compounds.find? (Node.id? · == some id) := by
  induction s with
  | literal value =>
    rw [find, Node.find_eq]
    rfl
  | var v =>
    rw [find, Node.find_eq]
    rfl
  | additive own sign left right ihl ihr | scaled own scaling left right ihl ihr =>
    rw [compounds, find?_cons_of_key_eq_some Node.id? rfl, List.find?_append, ← ihl, ← ihr, find,
      Node.find_eq, Node.children, findSome?_cons_eq_or, findSome?_cons_eq_or]
    simp only [Node.id?, id?, Option.some_inj, List.findSome?_nil, Option.or_none, find]
  | round own mode operand ih =>
    rw [compounds, find?_cons_of_key_eq_some Node.id? rfl, ← ih, find, Node.find_eq, Node.children,
      findSome?_cons_eq_or]
    simp only [Node.id?, id?, Option.some_inj, List.findSome?_nil, Option.or_none, find]
  | ternary own condition ifTrue otherwise iht iho =>
    have hcondition : (condition.compounds.map (Node.boolean (A := A) (f := f))).find?
        (Node.id? · == some id) = (Node.boolean condition).find id := by
      rw [List.find?_map, Node.find_boolean, condition.find_eq_find?_compounds]
      rfl
    rw [compounds, find?_cons_of_key_eq_some Node.id? rfl, List.find?_append, List.find?_append,
      hcondition, ← iht, ← iho, find, Node.find_eq, Node.children, findSome?_cons_eq_or,
      findSome?_cons_eq_or, findSome?_cons_eq_or, Option.or_assoc]
    simp only [Node.id?, id?, Option.some_inj, List.findSome?_nil, Option.or_none, find]

/-- Where no identity occurs twice, a compound statement is found by its identity. -/
lemma find_eq_some_of_mem_compounds {s : Numeric A B f} (hs : s.ids.Nodup) {t : Node A B f}
    (ht : t ∈ s.compounds) {id : Id} (hid : t.id? = some id) : s.find id = some t := by
  rw [← coe_filterMap_compounds, Multiset.coe_nodup] at hs
  rw [find_eq_find?_compounds, find?_eq_some_of_nodup hs ht hid]

/-- An identity occurs in a statement if a compound statement has it. -/
lemma mem_ids_iff {s : Numeric A B f} {id : Id} :
    id ∈ s.ids ↔ ∃ u ∈ s.compounds, u.id? = some id := by
  rw [← coe_filterMap_compounds, Multiset.mem_coe, List.mem_filterMap]

/-- The terms of a statement hold all that is in it, except for the sums and differences of its
outermost block. -/
lemma length_flatMap_compounds_terms (sign : Sign) (s : Numeric A B f) :
    ((s.terms sign).flatMap (·.2.compounds)).length + (s.terms sign).length =
      s.compounds.length + 1 := by
  induction s generalizing sign with
  | literal value =>
    rw [terms]
    split <;> rfl
  | var v => rfl
  | additive id inner left right ihl ihr =>
    have hleft := ihl sign
    have hright := ihr (sign.behind inner)
    rw [terms, List.flatMap_append, List.length_append, List.length_append, compounds,
      List.length_cons, List.length_append]
    omega
  | scaled id scaling left right => rw [terms, List.flatMap_singleton, List.length_singleton]
  | round id mode operand => rw [terms, List.flatMap_singleton, List.length_singleton]
  | ternary id condition ifTrue otherwise =>
    rw [terms, List.flatMap_singleton, List.length_singleton]

/-- A chain holds what is in its head and in its terms, and a sum or difference for each term. -/
lemma length_compounds_chainFrom (index : Nat) (head : Numeric A B f)
    (ts : List (Sign × Numeric A B f)) :
    (chainFrom index head ts).compounds.length =
      head.compounds.length + ((ts.flatMap (·.2.compounds)).length + ts.length) := by
  induction ts generalizing index head with
  | nil => rfl
  | cons t rest ih =>
    rw [chainFrom, ih, compounds, List.flatMap_cons, List.length_cons, List.length_append,
      List.length_append, List.length_cons]
    omega

end Numeric

end PriorityFormula
