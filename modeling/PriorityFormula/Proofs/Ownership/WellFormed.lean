import Mathlib.Data.Multiset.MapFold
import PriorityFormula.Proofs.Normalize.Derivation
import PriorityFormula.Statement.Build

/-!
# Well-formed statements

A statement is well-formed if every literal in it is finite, every variable has the name of a
variable, and no quotient has a literal zero as its divisor. The first two are part of what a
literal and a name are. The third one is not: a quotient checks its divisor when it is built, and
whatever takes statements apart and puts them together again must not undo this.
-/

namespace PriorityFormula

namespace Boolean

variable {B : Type}

/-- Every variable in the condition has a proper name. -/
def WellFormed : Boolean B → Prop
  | literal _ => True
  | var v => isName v.name.text.toList = true
  | joined _ _ left right => left.WellFormed ∧ right.WellFormed
  | ternary _ condition ifTrue otherwise =>
    condition.WellFormed ∧ ifTrue.WellFormed ∧ otherwise.WellFormed

/-- Names are proper by themselves, so there is nothing to check in a condition. -/
lemma wellFormed (s : Boolean B) : s.WellFormed := by
  induction s with
  | literal value => trivial
  | var v => exact v.name.isName_text
  | joined id connective left right ihl ihr => exact ⟨ihl, ihr⟩
  | ternary id condition ifTrue otherwise ihc iht iho => exact ⟨ihc, iht, iho⟩

end Boolean

namespace Numeric

variable {A B : Type} {f : Format}

/-- Every literal in the statement is finite, every variable has a proper name, and no divisor is a
literal zero. -/
def WellFormed : Numeric A B f → Prop
  | literal value => value.rank < f.infiniteRank
  | var v => isName v.name.text.toList = true
  | additive _ _ left right => left.WellFormed ∧ right.WellFormed
  | scaled _ scaling left right =>
    left.WellFormed ∧ right.WellFormed ∧ (scaling = .divide → right.isLiteralZero = false)
  | round _ _ operand => operand.WellFormed
  | ternary _ condition ifTrue otherwise =>
    condition.WellFormed ∧ ifTrue.WellFormed ∧ otherwise.WellFormed

/-- The signed terms of a well-formed statement are well-formed. -/
lemma WellFormed.terms {s : Numeric A B f} (h : s.WellFormed) (sign : Sign) :
    ∀ t ∈ s.terms sign, t.2.WellFormed :=
  forall_terms (fun _ _ _ _ hs => hs) (fun value _ _ => value.negated.rank_lt) h sign

/-- A chain of well-formed terms behind a well-formed head is well-formed. -/
lemma WellFormed.chainFrom {head : Numeric A B f} (hhead : head.WellFormed)
    {ts : List (Sign × Numeric A B f)} (hts : ∀ t ∈ ts, t.2.WellFormed) (index : Nat) :
    (chainFrom index head ts).WellFormed :=
  chainFrom_induction (Q := WellFormed) (fun _ _ _ _ hchain hterm => ⟨hchain, hterm⟩) hhead hts
    index

/-- A well-formed statement is split into well-formed ones. -/
lemma WellFormed.splitHead {s : Numeric A B f} (h : s.WellFormed) :
    s.splitHead.1.WellFormed ∧ ∀ t ∈ s.splitHead.2, t.2.WellFormed := by
  induction s with
  | literal value => exact ⟨h, List.forall_mem_nil _⟩
  | var v => exact ⟨h, List.forall_mem_nil _⟩
  | additive id sign left right ihl ihr =>
    obtain ⟨hleft, hright⟩ := h
    obtain ⟨hhead, hbehind⟩ := ihl hleft
    exact ⟨hhead, List.forall_mem_append.mpr ⟨hbehind, hright.terms sign⟩⟩
  | scaled id scaling left right => exact ⟨h, List.forall_mem_nil _⟩
  | round id mode operand => exact ⟨h, List.forall_mem_nil _⟩
  | ternary id condition ifTrue otherwise => exact ⟨h, List.forall_mem_nil _⟩

/-- Normalizing keeps statements well-formed. -/
lemma Normalizes.wellFormed {s : Numeric A B f} {n : Normalized (Numeric A B f)}
    {index last : Nat} (h : Normalizes index s n last) (hs : s.WellFormed) :
    n.statement.WellFormed := by
  induction h with
  | literal index value => exact hs
  | var index v => exact hs
  | kept id sign hleft hright _ ihl ihr =>
    obtain ⟨hsl, hsr⟩ := hs
    exact ⟨ihl hsl, ihr hsr⟩
  | merged id sign hleft hright _ ihl ihr =>
    obtain ⟨hsl, hsr⟩ := hs
    exact (ihl hsl).chainFrom ((ihr hsr).terms sign) _

end Numeric

/-! ### Live statements -/

variable {A B : Type} {f : Format}

/-- A statement of either value type that is well-formed. -/
def Node.WellFormed : Node A B f → Prop
  | numeric s => s.WellFormed
  | boolean s => s.WellFormed

/-- A leaf is well-formed. -/
lemma Node.wellFormed_of_arity_eq_zero {s : Node A B f} (h : s.arity = 0) : s.WellFormed := by
  cases s with
  | numeric s =>
    cases s with
    | literal value => exact value.rank_lt
    | var v => exact v.name.isName_text
    | additive id sign left right => cases h
    | scaled id scaling left right => cases h
    | round id mode operand => cases h
    | ternary id condition ifTrue otherwise => cases h
  | boolean s => exact s.wellFormed

/-- All of some statements are well-formed. -/
def AllWellFormed (live : Multiset (Node A B f)) : Prop :=
  ∀ s ∈ live, s.WellFormed

@[simp] lemma allWellFormed_zero : AllWellFormed (0 : Multiset (Node A B f)) :=
  fun _ hs => absurd hs (Multiset.notMem_zero _)

@[simp] lemma allWellFormed_singleton {s : Node A B f} : AllWellFormed {s} ↔ s.WellFormed := by
  simp only [AllWellFormed, Multiset.mem_singleton, forall_eq]

@[simp] lemma allWellFormed_add {live others : Multiset (Node A B f)} :
    AllWellFormed (live + others) ↔ AllWellFormed live ∧ AllWellFormed others := by
  simp only [AllWellFormed, Multiset.mem_add, or_imp, forall_and]

lemma allWellFormed_pair {s t : Node A B f} :
    AllWellFormed ({s} + {t}) ↔ s.WellFormed ∧ t.WellFormed := by
  rw [allWellFormed_add, allWellFormed_singleton, allWellFormed_singleton]

lemma allWellFormed_triple {s t u : Node A B f} :
    AllWellFormed ({s} + {t} + {u}) ↔ s.WellFormed ∧ t.WellFormed ∧ u.WellFormed := by
  rw [allWellFormed_add, allWellFormed_pair, allWellFormed_singleton, and_assoc]

lemma allWellFormed_map_numeric {ss : List (Numeric A B f)} :
    AllWellFormed (Multiset.map .numeric (ss : Multiset (Numeric A B f))) ↔
      ∀ s ∈ ss, s.WellFormed := by
  simp only [AllWellFormed, Multiset.mem_map, Multiset.mem_coe, forall_exists_index, and_imp,
    forall_apply_eq_imp_iff₂, Node.WellFormed]

/-- Fewer statements are well-formed too. -/
lemma AllWellFormed.of_le {live others : Multiset (Node A B f)} (hothers : AllWellFormed others)
    (h : live ≤ others) : AllWellFormed live :=
  fun s hs => hothers s (Multiset.mem_of_le h hs)

end PriorityFormula
