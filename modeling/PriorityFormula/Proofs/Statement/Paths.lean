import Mathlib.Data.List.Nodup
import PriorityFormula.Context
import PriorityFormula.Proofs.Preliminaries
import PriorityFormula.Proofs.Statement.Nodes

/-!
# Paths through a tree

A node is reached from the root by taking the operand at one index after the other, and the indexes
make up its path. Paths are ordered lexicographically: a node comes before the nodes below it, and
these go from left to right, which is the pre-order.

Looking for an identity finds the node with the first path. The search through conditions alone and
the search through statements of either value type are two different ones, but they find the same.
-/

namespace PriorityFormula

namespace Node

variable {A B : Type} {f : Format}

/-! ### Operands by index -/

/-- Counting up from an index lists the operands from that index on. -/
lemma operandsFrom_eq_drop (n : Node A B f) (index : Nat) :
    n.operandsFrom index = n.children.drop index := by
  fun_induction operandsFrom n index with
  | case1 index hnone =>
    rw [operand?_eq_getElem?, List.getElem?_eq_none_iff] at hnone
    rw [List.drop_eq_nil_of_le hnone]
  | case2 index operand hsome ih =>
    rw [operand?_eq_getElem?] at hsome
    obtain ⟨hindex, rfl⟩ := List.getElem?_eq_some_iff.mp hsome
    rw [ih, ← List.drop_eq_getElem_cons hindex]

/-- Counting up from zero lists all operands. -/
lemma operands_eq_children (n : Node A B f) : n.operands = n.children := by
  rw [operands, operandsFrom_eq_drop, List.drop_zero]

/-- What is got at an index is the operand that is listed there. -/
lemma get_eq_ok_iff {n operand : Node A B f} {index : Nat} :
    n.get index = .ok operand ↔ n.children[index]? = some operand := by
  rw [get, operand?_eq_getElem?]
  cases n.children[index]? <;> simp

/-- Something is got at every index below the arity. -/
lemma exists_get_eq_ok {n : Node A B f} {index : Nat} (h : index < n.arity) :
    ∃ operand, n.get index = .ok operand := by
  rw [← length_children] at h
  exact ⟨n.children[index], get_eq_ok_iff.mpr (List.getElem?_eq_getElem h)⟩

/-- Every other index is out of range. -/
lemma get_eq_error {n : Node A B f} {index : Nat} (h : n.arity ≤ index) :
    n.get index = .error (.indexOutOfRange index n.arity) := by
  rw [← length_children] at h
  rw [get, operand?_eq_getElem?, List.getElem?_eq_none h]

/-- The operands are what is got at the indexes below the arity, in order. -/
lemma map_get_range (n : Node A B f) : (List.range n.arity).map n.get = n.children.map .ok := by
  apply List.ext_getElem
  · rw [List.length_map, List.length_map, List.length_range, length_children]
  · intro index _ hindex
    rw [List.length_map] at hindex
    rw [List.getElem_map, List.getElem_map, List.getElem_range]
    exact get_eq_ok_iff.mpr (List.getElem?_eq_getElem hindex)

/-! ### Paths -/

/-- Taking the operand at one index of a path after the other leads to a node. -/
def Reaches (n : Node A B f) (path : List Nat) (m : Node A B f) : Prop :=
  path.foldlM get n = .ok m

lemma reaches_nil_iff {n m : Node A B f} : n.Reaches [] m ↔ n = m := by
  rw [Reaches, List.foldlM_nil]
  exact Except.ok.injEq n m ▸ Iff.rfl

lemma reaches_cons_iff {n m : Node A B f} {index : Nat} {path : List Nat} :
    n.Reaches (index :: path) m ↔
      ∃ child, n.children[index]? = some child ∧ child.Reaches path m := by
  rw [Reaches, List.foldlM_cons]
  constructor
  · intro h
    cases hget : n.get index with
    | ok child =>
      rw [hget] at h
      exact ⟨child, get_eq_ok_iff.mp hget, h⟩
    | error fault =>
      rw [hget] at h
      cases h
  · rintro ⟨child, hchild, h⟩
    rw [get_eq_ok_iff.mpr hchild]
    exact h

/-- A path leads to one node only. -/
lemma Reaches.unique {n m m' : Node A B f} {path : List Nat} (h : n.Reaches path m)
    (h' : n.Reaches path m') : m = m' :=
  Except.ok.inj (h.symm.trans h')

/-- What is reached is among the nodes of the tree. -/
lemma Reaches.mem_nodes {n m : Node A B f} {path : List Nat} (h : n.Reaches path m) :
    m ∈ n.nodes := by
  induction path generalizing n with
  | nil =>
    rw [reaches_nil_iff.mp h, nodes_eq]
    exact List.mem_cons_self ..
  | cons index path ih =>
    obtain ⟨child, hchild, hrest⟩ := reaches_cons_iff.mp h
    rw [nodes_eq, List.mem_cons, List.mem_flatMap]
    exact .inr ⟨child, List.mem_of_getElem? hchild, ih hrest⟩

/-! ### The first node with an identity -/

/-- A path leads to a node with an identity, and no path that does so comes before it in the
lexicographic order. -/
structure ReachesFirst (n : Node A B f) (id : Id) (path : List Nat) (m : Node A B f) : Prop where
  reaches : n.Reaches path m
  id?_eq : m.id? = some id
  first : ∀ path' m', n.Reaches path' m' → m'.id? = some id → ¬ List.Lex (· < ·) path' path

/-- If nothing is found, then no path leads to a node with the identity. -/
lemma not_reaches_of_find_eq_none {n : Node A B f} {id : Id} (h : n.find id = none)
    (path : List Nat) (m : Node A B f) (hreaches : n.Reaches path m) : m.id? ≠ some id := by
  induction path generalizing n with
  | nil =>
    obtain rfl := reaches_nil_iff.mp hreaches
    intro hid
    rw [find_eq, if_pos hid] at h
    cases h
  | cons index path ih =>
    obtain ⟨child, hchild, hrest⟩ := reaches_cons_iff.mp hreaches
    rw [find_eq] at h
    split at h
    · cases h
    · exact ih (List.findSome?_eq_none_iff.mp h child (List.mem_of_getElem? hchild)) hrest

/-- If something is found, then it is the first node with the identity. -/
lemma exists_reachesFirst_of_find_eq_some {n m : Node A B f} {id : Id} (h : n.find id = some m) :
    ∃ path, n.ReachesFirst id path m := by
  induction n using Node.induction with
  | step n ih =>
    rw [find_eq] at h
    split at h
    · next hroot =>
      cases h
      exact ⟨[], reaches_nil_iff.mpr rfl, hroot, fun _ _ _ _ hbefore => nomatch hbefore⟩
    · next hroot =>
      obtain ⟨before, child, after, hsplit, hfound, hnone⟩ := List.findSome?_eq_some_iff.mp h
      have hchild : n.children[before.length]? = some child := by
        rw [hsplit, List.getElem?_append_right (Nat.le_refl _), Nat.sub_self]
        rfl
      obtain ⟨path, hpath⟩ := ih child (List.mem_of_getElem? hchild) hfound
      refine ⟨before.length :: path, reaches_cons_iff.mpr ⟨child, hchild, hpath.reaches⟩,
        hpath.id?_eq, ?_⟩
      intro path' m' hreaches hid hbefore
      cases hbefore with
      | nil =>
        obtain rfl := reaches_nil_iff.mp hreaches
        exact hroot hid
      | rel hindex =>
        -- The operands before the one that something is found in have no node with the identity.
        obtain ⟨other, hother, hrest⟩ := reaches_cons_iff.mp hreaches
        rw [hsplit, List.getElem?_append_left hindex] at hother
        have hmem := List.mem_of_getElem? hother
        exact not_reaches_of_find_eq_none (hnone other hmem) _ m' hrest hid
      | cons hbefore =>
        obtain ⟨other, hother, hrest⟩ := reaches_cons_iff.mp hreaches
        cases Option.some.inj (hchild.symm.trans hother)
        exact hpath.first _ m' hrest hid hbefore

/-- Something is found if and only if a path leads to a node with the identity. -/
lemma exists_find_eq_some_iff {n : Node A B f} {id : Id} :
    (∃ m, n.find id = some m) ↔ ∃ path m, n.Reaches path m ∧ m.id? = some id := by
  constructor
  · rintro ⟨m, hm⟩
    obtain ⟨path, hpath⟩ := exists_reachesFirst_of_find_eq_some hm
    exact ⟨path, m, hpath.reaches, hpath.id?_eq⟩
  · rintro ⟨path, m, hreaches, hid⟩
    cases hfind : n.find id with
    | none => exact absurd hid (not_reaches_of_find_eq_none hfind path m hreaches)
    | some found => exact ⟨found, rfl⟩

/-- What is found is the first node with the identity. -/
lemma find_eq_some_iff {n m : Node A B f} {id : Id} :
    n.find id = some m ↔ ∃ path, n.ReachesFirst id path m := by
  refine ⟨exists_reachesFirst_of_find_eq_some, ?_⟩
  rintro ⟨path, hpath⟩
  obtain ⟨m', hm'⟩ := exists_find_eq_some_iff.mpr ⟨path, m, hpath.reaches, hpath.id?_eq⟩
  obtain ⟨path', hpath'⟩ := exists_reachesFirst_of_find_eq_some hm'
  have hle : ¬ List.Lex (· < ·) path' path := hpath.first path' m' hpath'.reaches hpath'.id?_eq
  have hge : ¬ List.Lex (· < ·) path path' := hpath'.first path m hpath.reaches hpath.id?_eq
  obtain rfl : path = path' := List.le_antisymm hle hge
  rw [hm', hpath.reaches.unique hpath'.reaches]

/-- In a condition, the search through statements of either value type finds what the search through
conditions finds. -/
lemma find_boolean (id : Id) (s : Boolean B) :
    (boolean s : Node A B f).find id = (s.find id).map boolean := by
  induction s with
  | literal value =>
    rw [find_eq]
    rfl
  | var v =>
    rw [find_eq]
    rfl
  | joined own connective left right ihl ihr =>
    rw [find_eq, children, findSome?_cons_eq_or, findSome?_cons_eq_or, ihl, ihr, Boolean.find]
    simp only [id?, Boolean.id?, Option.some_inj, List.findSome?_nil, Option.or_none]
    split
    · rfl
    · rw [Option.map_or]
  | ternary own condition ifTrue otherwise ihc iht iho =>
    rw [find_eq, children, findSome?_cons_eq_or, findSome?_cons_eq_or, findSome?_cons_eq_or, ihc,
      iht, iho, Boolean.find]
    simp only [id?, Boolean.id?, Option.some_inj, List.findSome?_nil, Option.or_none]
    split
    · rfl
    · rw [Option.map_or, Option.map_or, Option.or_assoc]

/-! ### Distinct identities -/

/-- Where the identities of the nodes are distinct, that of the root occurs nowhere below it. -/
lemma id?_ne_of_reaches_cons {n m : Node A B f} {id : Id} {index : Nat} {path : List Nat}
    (hdistinct : (n.nodes.filterMap id?).Nodup) (hroot : n.id? = some id)
    (h : n.Reaches (index :: path) m) : m.id? ≠ some id := by
  intro hid
  obtain ⟨child, hchild, hrest⟩ := reaches_cons_iff.mp h
  rw [nodes_eq, List.filterMap_cons_some hroot, List.nodup_cons] at hdistinct
  have hmem : m ∈ n.children.flatMap nodes :=
    List.mem_flatMap.mpr ⟨child, List.mem_of_getElem? hchild, hrest.mem_nodes⟩
  exact hdistinct.1 (List.mem_filterMap.mpr ⟨m, hmem, hid⟩)

/-- Where the identities of the nodes are distinct, those in different operands are. -/
lemma nodup_children {n : Node A B f} (h : (n.nodes.filterMap id?).Nodup) :
    (∀ child ∈ n.children, (child.nodes.filterMap id?).Nodup) ∧
      n.children.Pairwise fun child other =>
        List.Disjoint (child.nodes.filterMap id?) (other.nodes.filterMap id?) := by
  have hbelow : (n.children.flatMap nodes).Sublist n.nodes := by
    rw [nodes_eq]
    exact List.sublist_cons_self ..
  have hnodup := h.sublist (hbelow.filterMap id?)
  rw [List.filterMap_flatMap, List.nodup_flatMap] at hnodup
  exact hnodup

/-- Where the identities of the nodes are distinct, only one path leads to a node with a given
identity. -/
lemma Reaches.path_unique {n m m' : Node A B f} {id : Id} {path path' : List Nat}
    (hdistinct : (n.nodes.filterMap id?).Nodup) (hm : n.Reaches path m) (hid : m.id? = some id)
    (hm' : n.Reaches path' m') (hid' : m'.id? = some id) : path = path' := by
  induction path generalizing n path' with
  | nil =>
    obtain rfl := reaches_nil_iff.mp hm
    cases path' with
    | nil => rfl
    | cons index' path' => exact absurd hid' (id?_ne_of_reaches_cons hdistinct hid hm')
  | cons index path ih =>
    cases path' with
    | nil =>
      obtain rfl := reaches_nil_iff.mp hm'
      exact absurd hid (id?_ne_of_reaches_cons hdistinct hid' hm)
    | cons index' path' =>
      obtain ⟨child, hchild, hrest⟩ := reaches_cons_iff.mp hm
      obtain ⟨child', hchild', hrest'⟩ := reaches_cons_iff.mp hm'
      obtain ⟨hoperands, hdisjoint⟩ := nodup_children hdistinct
      have hmem := List.mem_filterMap.mpr ⟨m, hrest.mem_nodes, hid⟩
      have hmem' := List.mem_filterMap.mpr ⟨m', hrest'.mem_nodes, hid'⟩
      obtain ⟨hlt, rfl⟩ := List.getElem?_eq_some_iff.mp hchild
      obtain ⟨hlt', rfl⟩ := List.getElem?_eq_some_iff.mp hchild'
      rcases Nat.lt_trichotomy index index' with hbefore | rfl | hafter
      · exact absurd hmem' (List.pairwise_iff_getElem.mp hdisjoint _ _ hlt hlt' hbefore hmem)
      · rw [ih (hoperands _ (List.getElem_mem hlt)) hrest hrest']
      · exact absurd hmem (List.pairwise_iff_getElem.mp hdisjoint _ _ hlt' hlt hafter hmem')

end Node

/-- An identity is found if and only if a path leads to a node that carries it, and what is found is
the first such node; where identities are distinct, it is the only one. In a condition both searches
find the same. Every node has an operand at each index below its arity and at no other one, and both
ways to list the operands give the operands at these indexes. -/
theorem find_iff_reachesFirst (A B : Type) (f : Format) :
    (∀ (n : Node A B f) (id : Id),
      ((∃ m, n.find id = some m) ↔ ∃ path m, n.Reaches path m ∧ m.id? = some id) ∧
        (∀ m, n.find id = some m ↔ ∃ path, n.ReachesFirst id path m) ∧
          ((n.nodes.filterMap Node.id?).Nodup → ∀ path m path' m', n.Reaches path m →
            m.id? = some id → n.Reaches path' m' → m'.id? = some id → path = path' ∧ m = m')) ∧
    (∀ (s : Boolean B) (id : Id),
      (Node.boolean s : Node A B f).find id = (s.find id).map Node.boolean) ∧
    ∀ n : Node A B f,
      (∀ index, (∃ operand, n.get index = .ok operand) ↔ index < n.arity) ∧
        (∀ index, n.arity ≤ index → n.get index = .error (.indexOutOfRange index n.arity)) ∧
          n.operands.map .ok = (List.range n.arity).map n.get ∧
            n.children.map .ok = (List.range n.arity).map n.get := by
  refine ⟨?_, fun s id => Node.find_boolean id s, ?_⟩
  · intro n id
    refine ⟨Node.exists_find_eq_some_iff, fun m => Node.find_eq_some_iff, ?_⟩
    intro hdistinct path m path' m' hm hid hm' hid'
    obtain rfl := hm.path_unique hdistinct hid hm' hid'
    exact ⟨rfl, hm.unique hm'⟩
  · intro n
    refine ⟨fun index => ⟨?_, Node.exists_get_eq_ok⟩, fun index => Node.get_eq_error, ?_, ?_⟩
    · rintro ⟨operand, hget⟩
      by_contra hindex
      rw [Node.get_eq_error (Nat.not_lt.mp hindex)] at hget
      cases hget
    · rw [n.operands_eq_children, n.map_get_range]
    · rw [n.map_get_range]

/-- The condition of a ternary that is a factor is found by its identity, and no other path than the
one through the second factor leads to this identity. -/
theorem find_iff_reachesFirst_condition :
    let impact := Quantity.impact .double
    let both : Condition := .joined ⟨0⟩ .and Condition.vip Condition.businessRelated
    let choice : Quantity .double :=
      .ternary ⟨2⟩ both (.round ⟨1⟩ .floor (Quantity.urgency .double)) impact
    let n : Formula .double := .numeric (.scaled ⟨3⟩ .multiply impact choice)
    n.find ⟨0⟩ = some (.boolean both) ∧
      ∀ path m, n.Reaches path m → m.id? = some ⟨0⟩ → path = [1, 0] := by
  intro impact both choice n
  obtain ⟨_, hfind, hunique⟩ :=
    (find_iff_reachesFirst (NumberSource .double) FlagSource .double).1 n ⟨0⟩
  have hreaches : n.Reaches [1, 0] (.boolean both) := rfl
  have honly : ∀ path m, n.Reaches path m → m.id? = some ⟨0⟩ → path = [1, 0] :=
    fun path m hm hid => (hunique (by decide) path m _ _ hm hid hreaches rfl).1
  refine ⟨(hfind _).mpr ⟨[1, 0], hreaches, rfl, ?_⟩, honly⟩
  intro path m hm hid
  rw [honly path m hm hid]
  exact List.lt_irrefl _

end PriorityFormula
