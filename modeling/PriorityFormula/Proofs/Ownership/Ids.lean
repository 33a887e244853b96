import Mathlib.Order.Interval.Finset.Nat
import Mathlib.Order.Interval.Multiset
import Mathlib.Tactic.Abel
import Mathlib.Tactic.GCongr
import PriorityFormula.Proofs.Normalize.Derivation

/-!
# Identities in statements

The identities that a statement carries are collected with their multiplicities. Unrolling a chain
only loses identities, attaching parts adds one fresh identity for each, and a normalized statement
carries no identity that is neither one of the original statement nor a fresh one.
-/

namespace PriorityFormula

/-! ### Fresh identities -/

/-- The identities that are handed out while the next index goes from `first` to `last`. -/
def fresh (first last : Nat) : Multiset Id :=
  (Multiset.Ico first last).map Id.mk

@[simp] lemma fresh_self (index : Nat) : fresh index index = 0 := by
  rw [fresh, Multiset.Ico_self, Multiset.map_zero]

lemma fresh_succ (index : Nat) : fresh index (index + 1) = {⟨index⟩} := by
  have hone : Multiset.Ico index (index + 1) = {index} := by
    rw [Multiset.Ico, Nat.Ico_succ_singleton, Finset.singleton_val]
  rw [fresh, hone, Multiset.map_singleton]

/-- What is handed out before and after a moment is what is handed out in total. -/
lemma fresh_add_fresh {first middle last : Nat} (hfirst : first ≤ middle) (hlast : middle ≤ last) :
    fresh first middle + fresh middle last = fresh first last := by
  rw [fresh, fresh, fresh, ← Multiset.map_add, Multiset.Ico_add_Ico_eq_Ico hfirst hlast]

/-- No identity is handed out twice. -/
lemma nodup_fresh (first last : Nat) : (fresh first last).Nodup := by
  have hinjective : Function.Injective Id.mk := by
    intro i j h
    exact Id.mk.inj h
  exact Multiset.Nodup.map hinjective Multiset.nodup_Ico

/-- An identity that is handed out is below the next one. -/
lemma index_lt_of_mem_fresh {first last : Nat} {id : Id} (h : id ∈ fresh first last) :
    id.index < last := by
  obtain ⟨index, hmem, rfl⟩ := Multiset.mem_map.mp h
  exact (Multiset.mem_Ico.mp hmem).2

/-- An identity that is handed out is not below the first one. -/
lemma le_index_of_mem_fresh {first last : Nat} {id : Id} (h : id ∈ fresh first last) :
    first ≤ id.index := by
  obtain ⟨index, hmem, rfl⟩ := Multiset.mem_map.mp h
  exact (Multiset.mem_Ico.mp hmem).1

/-- Fresh identities differ from those that are in use. -/
lemma nodup_add_fresh {first : Nat} {s : Multiset Id} (hs : s.Nodup)
    (hused : ∀ id ∈ s, id.index < first) (last : Nat) : (s + fresh first last).Nodup := by
  refine Multiset.nodup_add.mpr ⟨hs, nodup_fresh first last, Multiset.disjoint_left.mpr ?_⟩
  intro id hid hfresh
  exact absurd (hused id hid) (Nat.not_lt.mpr (le_index_of_mem_fresh hfresh))

/-- Two pieces of work, one after the other, each of which adds only fresh identities to what it
takes, add only fresh identities together. -/
lemma add_le_add_fresh {first middle last : Nat} {s s' t t' : Multiset Id}
    (hfirst : first ≤ middle) (hlast : middle ≤ last) (hs : s' ≤ s + fresh first middle)
    (ht : t' ≤ t + fresh middle last) : s' + t' ≤ s + t + fresh first last :=
  calc s' + t' ≤ s + fresh first middle + (t + fresh middle last) := add_le_add hs ht
    _ = s + t + (fresh first middle + fresh middle last) := by abel
    _ = s + t + fresh first last := by rw [fresh_add_fresh hfirst hlast]

/-- Fresh identities may be added to what carries no others. -/
lemma add_fresh_le {first middle last : Nat} {s s' : Multiset Id} (hfirst : first ≤ middle)
    (hlast : middle ≤ last) (hs : s' ≤ s + fresh first middle) :
    s' + fresh middle last ≤ s + fresh first last := by
  rw [← fresh_add_fresh hfirst hlast, ← add_assoc]
  exact add_le_add hs le_rfl

/-! ### Conditions -/

namespace Boolean

variable {B : Type}

/-- The identities in a condition. -/
def ids : Boolean B → Multiset Id
  | literal _ | var _ => 0
  | joined id _ left right => {id} + (left.ids + right.ids)
  | ternary id condition ifTrue otherwise => {id} + (condition.ids + ifTrue.ids + otherwise.ids)

/-- The identities in a chain are those of its head and of its parts, and a fresh one for each
part. -/
lemma ids_chainFrom (connective : Connective) (index : Nat) (head : Boolean B)
    (ps : List (Boolean B)) :
    (chainFrom connective index head ps).ids =
      head.ids + (ps.map ids).sum + fresh index (index + ps.length) := by
  induction ps generalizing index head with
  | nil =>
    simp only [chainFrom, List.map_nil, List.sum_nil, List.length_nil, fresh_self, add_zero]
  | cons p rest ih =>
    have hfresh : fresh index (index + (p :: rest).length) =
        {⟨index⟩} + fresh (index + 1) (index + 1 + rest.length) := by
      rw [← fresh_succ, fresh_add_fresh (Nat.le_add_right _ _) (Nat.le_add_right _ _),
        List.length_cons, Nat.add_assoc, Nat.add_comm 1]
    rw [chainFrom, ih, ids, List.map_cons, List.sum_cons, hfresh]
    abel

/-- The parts of a condition carry identities of the condition only. -/
lemma sum_ids_parts_le (connective : Connective) (s : Boolean B) :
    ((s.parts connective).map ids).sum ≤ s.ids := by
  induction s with
  | literal value => exact le_of_eq (List.sum_singleton)
  | var v => exact le_of_eq (List.sum_singleton)
  | joined id own left right ihl ihr =>
    rw [parts]
    split
    · rw [List.map_append, List.sum_append, ids]
      exact (add_le_add ihl ihr).trans (Multiset.le_add_left _ _)
    · exact le_of_eq (List.sum_singleton)
  | ternary id condition ifTrue otherwise => exact le_of_eq (List.sum_singleton)

/-- Attaching the parts of a condition takes a fresh identity for each part. -/
lemma ids_chainFrom_parts_le (connective : Connective) (index : Nat) (head s : Boolean B) :
    (chainFrom connective index head (s.parts connective)).ids ≤
      head.ids + s.ids + fresh index (index + (s.parts connective).length) := by
  have hparts := sum_ids_parts_le connective s
  rw [ids_chainFrom]
  gcongr

/-- What a condition is split into carries identities of the condition only. -/
lemma ids_splitHead_le (connective : Connective) (s : Boolean B) :
    (s.splitHead connective).1.ids + ((s.splitHead connective).2.map ids).sum ≤ s.ids := by
  induction s with
  | literal value => exact le_of_eq (add_zero _)
  | var v => exact le_of_eq (add_zero _)
  | joined id own left right ihl ihr =>
    rw [splitHead]
    split
    · rw [List.map_append, List.sum_append, ids, ← add_assoc]
      have hright := sum_ids_parts_le connective right
      exact (add_le_add ihl hright).trans (Multiset.le_add_left _ _)
    · exact le_of_eq (add_zero _)
  | ternary id condition ifTrue otherwise => exact le_of_eq (add_zero _)

/-- The parts of some conditions carry identities of the conditions only. -/
lemma sum_ids_flatMap_parts_le (connective : Connective) (ss : List (Boolean B)) :
    ((ss.flatMap (parts connective)).map ids).sum ≤ (ss.map ids).sum := by
  induction ss with
  | nil => exact le_rfl
  | cons s rest ih =>
    rw [List.flatMap_cons, List.map_append, List.sum_append, List.map_cons, List.sum_cons]
    exact add_le_add (sum_ids_parts_le connective s) ih

/-- Normalizing keeps identities or replaces them by fresh ones. -/
lemma Normalizes.ids_le {s : Boolean B} {n : Normalized (Boolean B)} {index last : Nat}
    (h : Normalizes index s n last) :
    index ≤ last ∧ n.statement.ids ≤ s.ids + fresh index last := by
  induction h with
  | literal index value => exact ⟨le_rfl, Multiset.le_add_right _ _⟩
  | var index v => exact ⟨le_rfl, Multiset.le_add_right _ _⟩
  | @kept index middle last id connective left right first second hleft hright _ ihl ihr =>
    refine ⟨ihl.1.trans ihr.1, ?_⟩
    have hoperands := add_le_add_fresh ihl.1 ihr.1 ihl.2 ihr.2
    rw [ids, ids, add_assoc]
    exact add_le_add_right hoperands {id}
  | @merged index middle last id connective left right first second hleft hright _ ihl ihr =>
    have hlast := Nat.le_add_right last (second.statement.parts connective).length
    have hoperands := add_le_add_fresh ihl.1 ihr.1 ihl.2 ihr.2
    have hchain := ids_chainFrom_parts_le connective last first.statement second.statement
    have htotal := hchain.trans (add_fresh_le (ihl.1.trans ihr.1) hlast hoperands)
    refine ⟨ihl.1.trans (ihr.1.trans hlast), ?_⟩
    -- The identity of the merged condition itself is given up.
    exact htotal.trans (add_le_add (Multiset.le_add_left _ _) le_rfl)

end Boolean

/-! ### Numeric statements -/

namespace Numeric

variable {A B : Type} {f : Format}

/-- The identities in a statement, those in its conditions included. -/
def ids : Numeric A B f → Multiset Id
  | literal _ | var _ => 0
  | additive id _ left right | scaled id _ left right => {id} + (left.ids + right.ids)
  | round id _ operand => {id} + operand.ids
  | ternary id condition ifTrue otherwise => {id} + (condition.ids + ifTrue.ids + otherwise.ids)

/-- The identities in a chain are those of its head and of its terms, and a fresh one for each
term. -/
lemma ids_chainFrom (index : Nat) (head : Numeric A B f) (ts : List (Sign × Numeric A B f)) :
    (chainFrom index head ts).ids =
      head.ids + (ts.map (·.2.ids)).sum + fresh index (index + ts.length) := by
  induction ts generalizing index head with
  | nil =>
    simp only [chainFrom, List.map_nil, List.sum_nil, List.length_nil, fresh_self, add_zero]
  | cons t rest ih =>
    have hfresh : fresh index (index + (t :: rest).length) =
        {⟨index⟩} + fresh (index + 1) (index + 1 + rest.length) := by
      rw [← fresh_succ, fresh_add_fresh (Nat.le_add_right _ _) (Nat.le_add_right _ _),
        List.length_cons, Nat.add_assoc, Nat.add_comm 1]
    rw [chainFrom, ih, ids, List.map_cons, List.sum_cons, hfresh]
    abel

/-- The signed terms of a statement carry identities of the statement only. -/
lemma sum_ids_terms_le (sign : Sign) (s : Numeric A B f) :
    ((s.terms sign).map (·.2.ids)).sum ≤ s.ids := by
  induction s generalizing sign with
  | literal value =>
    rw [terms]
    split
    · exact le_of_eq List.sum_singleton
    · exact le_of_eq List.sum_singleton
  | var v => exact le_of_eq List.sum_singleton
  | additive id inner left right ihl ihr =>
    rw [terms, List.map_append, List.sum_append, ids]
    exact (add_le_add (ihl sign) (ihr (sign.behind inner))).trans (Multiset.le_add_left _ _)
  | scaled id scaling left right => exact le_of_eq List.sum_singleton
  | round id mode operand => exact le_of_eq List.sum_singleton
  | ternary id condition ifTrue otherwise => exact le_of_eq List.sum_singleton

/-- Attaching the signed terms of a statement takes a fresh identity for each term. -/
lemma ids_chainFrom_terms_le (index : Nat) (head : Numeric A B f) (sign : Sign)
    (s : Numeric A B f) :
    (chainFrom index head (s.terms sign)).ids ≤
      head.ids + s.ids + fresh index (index + (s.terms sign).length) := by
  have hterms := sum_ids_terms_le sign s
  rw [ids_chainFrom]
  gcongr

/-- What a statement is split into carries identities of the statement only. -/
lemma ids_splitHead_le (s : Numeric A B f) :
    s.splitHead.1.ids + (s.splitHead.2.map (·.2.ids)).sum ≤ s.ids := by
  induction s with
  | literal value => exact le_of_eq (add_zero _)
  | var v => exact le_of_eq (add_zero _)
  | additive id sign left right ihl ihr =>
    have hright := sum_ids_terms_le sign right
    rw [splitHead, List.map_append, List.sum_append, ids, ← add_assoc]
    exact (add_le_add ihl hright).trans (Multiset.le_add_left _ _)
  | scaled id scaling left right => exact le_of_eq (add_zero _)
  | round id mode operand => exact le_of_eq (add_zero _)
  | ternary id condition ifTrue otherwise => exact le_of_eq (add_zero _)

/-- The signed terms of some statements carry identities of the statements only. -/
lemma sum_ids_flatMap_terms_le (sign : Sign) (ss : List (Numeric A B f)) :
    ((ss.flatMap (terms sign)).map (·.2.ids)).sum ≤ (ss.map ids).sum := by
  induction ss with
  | nil => exact le_rfl
  | cons s rest ih =>
    rw [List.flatMap_cons, List.map_append, List.sum_append, List.map_cons, List.sum_cons]
    exact add_le_add (sum_ids_terms_le sign s) ih

/-- Normalizing keeps identities or replaces them by fresh ones. -/
lemma Normalizes.ids_le {s : Numeric A B f} {n : Normalized (Numeric A B f)} {index last : Nat}
    (h : Normalizes index s n last) :
    index ≤ last ∧ n.statement.ids ≤ s.ids + fresh index last := by
  induction h with
  | literal index value => exact ⟨le_rfl, Multiset.le_add_right _ _⟩
  | var index v => exact ⟨le_rfl, Multiset.le_add_right _ _⟩
  | @kept index middle last id sign left right first second hleft hright _ ihl ihr =>
    refine ⟨ihl.1.trans ihr.1, ?_⟩
    have hoperands := add_le_add_fresh ihl.1 ihr.1 ihl.2 ihr.2
    rw [ids, ids, add_assoc]
    exact add_le_add_right hoperands {id}
  | @merged index middle last id sign left right first second hleft hright _ ihl ihr =>
    have hlast := Nat.le_add_right last (second.statement.terms sign).length
    have hoperands := add_le_add_fresh ihl.1 ihr.1 ihl.2 ihr.2
    have hchain := ids_chainFrom_terms_le last first.statement sign second.statement
    have htotal := hchain.trans (add_fresh_le (ihl.1.trans ihr.1) hlast hoperands)
    refine ⟨ihl.1.trans (ihr.1.trans hlast), ?_⟩
    -- The identity of the merged statement itself is given up.
    exact htotal.trans (add_le_add (Multiset.le_add_left _ _) le_rfl)

end Numeric

/-! ### Live statements -/

variable {A B : Type} {f : Format}

/-- The identities in a statement of either value type. -/
def Node.ids : Node A B f → Multiset Id
  | numeric s => s.ids
  | boolean s => s.ids

/-- A leaf carries no identity. -/
lemma Node.ids_of_arity_eq_zero {s : Node A B f} (h : s.arity = 0) : s.ids = 0 := by
  cases s with
  | numeric s =>
    cases s with
    | literal value => rfl
    | var v => rfl
    | additive id sign left right => cases h
    | scaled id scaling left right => cases h
    | round id mode operand => cases h
    | ternary id condition ifTrue otherwise => cases h
  | boolean s =>
    cases s with
    | literal value => rfl
    | var v => rfl
    | joined id connective left right => cases h
    | ternary id condition ifTrue otherwise => cases h

/-- The identities in all of some statements. -/
def liveIds (live : Multiset (Node A B f)) : Multiset Id :=
  (live.map Node.ids).sum

@[simp] lemma liveIds_zero : liveIds (0 : Multiset (Node A B f)) = 0 := by
  rw [liveIds, Multiset.map_zero, Multiset.sum_zero]

@[simp] lemma liveIds_singleton (s : Node A B f) : liveIds {s} = s.ids := by
  rw [liveIds, Multiset.map_singleton, Multiset.sum_singleton]

@[simp] lemma liveIds_add (live others : Multiset (Node A B f)) :
    liveIds (live + others) = liveIds live + liveIds others := by
  rw [liveIds, Multiset.map_add, Multiset.sum_add, liveIds, liveIds]

lemma liveIds_pair (s t : Node A B f) : liveIds ({s} + {t}) = s.ids + t.ids := by
  rw [liveIds_add, liveIds_singleton, liveIds_singleton]

lemma liveIds_triple (s t u : Node A B f) :
    liveIds ({s} + {t} + {u}) = s.ids + t.ids + u.ids := by
  rw [liveIds_add, liveIds_pair, liveIds_singleton]

lemma liveIds_map_numeric (ss : List (Numeric A B f)) :
    liveIds (Multiset.map .numeric (ss : Multiset (Numeric A B f))) =
      (ss.map Numeric.ids).sum := by
  rw [liveIds, Multiset.map_map, Multiset.map_coe, Multiset.sum_coe]
  rfl

lemma liveIds_map_boolean (ss : List (Boolean B)) :
    liveIds (Multiset.map (Node.boolean : Boolean B → Node A B f) ss) =
      (ss.map Boolean.ids).sum := by
  rw [liveIds, Multiset.map_map, Multiset.map_coe, Multiset.sum_coe]
  rfl

/-- Fewer statements carry fewer identities. -/
lemma liveIds_le {live others : Multiset (Node A B f)} (h : live ≤ others) :
    liveIds live ≤ liveIds others := by
  obtain ⟨rest, rfl⟩ := Multiset.le_iff_exists_add.mp h
  rw [liveIds_add]
  exact Multiset.le_add_right _ _

end PriorityFormula
