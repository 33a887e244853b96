import PriorityFormula.Chain.Logical
import PriorityFormula.Proofs.Session
import PriorityFormula.Proofs.Statement.Identity

/-!
# Chains of joined parts

Attaching parts by a connective gives the chain in which each joined condition has the next
identity. Attaching the parts of a condition is appending the condition to the head part by part,
except that the identities are fresh ones.
-/

namespace PriorityFormula.Boolean

variable {B : Type}

/-- The chain of a head and parts, with identities that ascend from a first one. -/
def chainFrom (connective : Connective) : Nat → Boolean B → List (Boolean B) → Boolean B
  | _, head, [] => head
  | index, head, part :: rest =>
    chainFrom connective (index + 1) (joined ⟨index⟩ connective head part) rest

/-- Attaching parts gives their chain and takes one identity for each. -/
lemma run_attachParts (connective : Connective) (head : Boolean B) (ps : List (Boolean B))
    (σ : Session) :
    (head.attachParts connective ps).run σ =
      (chainFrom connective σ.nextIndex head ps,
        { σ with nextIndex := σ.nextIndex + ps.length }) := by
  induction ps generalizing head σ with
  | nil => rfl
  | cons p rest ih =>
    rw [attachParts, StateT.run_bind, run_freshId]
    show ((joined _ connective head p).attachParts connective rest).run _ = _
    rw [ih, chainFrom, List.length_cons, Nat.add_assoc, Nat.add_comm 1]

/-- A chain goes on behind another one. -/
lemma chainFrom_append (connective : Connective) (index : Nat) (head : Boolean B)
    (ps qs : List (Boolean B)) :
    chainFrom connective index head (ps ++ qs) =
      chainFrom connective (index + ps.length) (chainFrom connective index head ps) qs := by
  induction ps generalizing index head with
  | nil => rfl
  | cons p rest ih =>
    rw [List.cons_append, chainFrom, ih, chainFrom, List.length_cons, Nat.add_assoc,
      Nat.add_comm 1]

/-- The chain of the parts of a condition is the condition appended to the head. -/
lemma withoutIds_chainFrom_parts (connective : Connective) (index : Nat) (head : Boolean B)
    (id : Id) (s : Boolean B) :
    (chainFrom connective index head (s.parts connective)).withoutIds =
      (appendParts connective head id s).withoutIds := by
  induction s generalizing index head id with
  | literal value => rfl
  | var v => rfl
  | joined id' own left right ihl ihr =>
    by_cases hown : own = connective
    · rw [parts, if_pos hown, chainFrom_append, ihr _ _ id',
        withoutIds_appendParts _ (chainFrom _ _ _ _), ihl _ _ id, appendParts, if_pos hown,
        withoutIds_appendParts _ (appendParts connective head id left)]
    · rw [parts, if_neg hown, appendParts, if_neg hown]
      rfl
  | ternary id' condition ifTrue otherwise => rfl

/-- A chain has a property if its head has it and attaching each of the parts keeps it. -/
lemma chainFrom_induction {connective : Connective} {P Q : Boolean B → Prop}
    (hattach : ∀ id chain part, P chain → Q part → P (joined id connective chain part))
    {head : Boolean B} (hhead : P head) {ps : List (Boolean B)} (hps : ∀ p ∈ ps, Q p)
    (index : Nat) : P (chainFrom connective index head ps) := by
  induction ps generalizing index head with
  | nil => exact hhead
  | cons p rest ih =>
    obtain ⟨hpart, hrest⟩ := List.forall_mem_cons.mp hps
    exact ih (hattach ⟨index⟩ head p hhead hpart) hrest (index + 1)

/-- The parts of a condition have a property if the condition has it and it passes on to joined
operands. -/
lemma forall_parts {connective : Connective} {P : Boolean B → Prop}
    (hoperands : ∀ id left right, P (joined id connective left right) → P left ∧ P right)
    {s : Boolean B} (h : P s) : ∀ p ∈ s.parts connective, P p := by
  induction s with
  | literal value => exact List.forall_mem_singleton.mpr h
  | var v => exact List.forall_mem_singleton.mpr h
  | joined id own left right ihl ihr =>
    rw [parts]
    split
    · next hown =>
      subst hown
      obtain ⟨hleft, hright⟩ := hoperands id left right h
      exact List.forall_mem_append.mpr ⟨ihl hleft, ihr hright⟩
    · exact List.forall_mem_singleton.mpr h
  | ternary id condition ifTrue otherwise => exact List.forall_mem_singleton.mpr h

/-- No part of a condition is joined by the connective. -/
lemma not_joinedBy_of_mem_parts (connective : Connective) (s : Boolean B) :
    ∀ p ∈ s.parts connective, p.joinedBy connective = false := by
  induction s with
  | literal value => exact List.forall_mem_singleton.mpr rfl
  | var v => exact List.forall_mem_singleton.mpr rfl
  | joined id own left right ihl ihr =>
    rw [parts]
    split
    · exact List.forall_mem_append.mpr ⟨ihl, ihr⟩
    · next hown => exact List.forall_mem_singleton.mpr (beq_eq_false_iff_ne.mpr hown)
  | ternary id condition ifTrue otherwise => exact List.forall_mem_singleton.mpr rfl

lemma parts_of_not_joinedBy {connective : Connective} {s : Boolean B}
    (h : s.joinedBy connective = false) : s.parts connective = [s] := by
  cases s with
  | literal value => rfl
  | var v => rfl
  | joined id own left right => rw [parts, if_neg (beq_eq_false_iff_ne.mp h)]
  | ternary id condition ifTrue otherwise => rfl

/-- The parts of a chain are the parts of its head and the ones that were attached. -/
lemma parts_chainFrom {connective : Connective} {ps : List (Boolean B)}
    (hps : ∀ p ∈ ps, p.joinedBy connective = false) (index : Nat) (head : Boolean B) :
    (chainFrom connective index head ps).parts connective = head.parts connective ++ ps := by
  induction ps generalizing index head with
  | nil => rw [chainFrom, List.append_nil]
  | cons p rest ih =>
    obtain ⟨hp, hrest⟩ := List.forall_mem_cons.mp hps
    rw [chainFrom, ih hrest, parts, if_pos rfl, parts_of_not_joinedBy hp, List.append_assoc,
      List.singleton_append]

/-- A chain with at least one part is joined by its connective. -/
lemma joinedBy_chainFrom (connective connective' : Connective) {ps : List (Boolean B)}
    (hps : ps ≠ []) (index : Nat) (head : Boolean B) :
    (chainFrom connective index head ps).joinedBy connective' = (connective == connective') := by
  cases ps with
  | nil => exact absurd rfl hps
  | cons p rest =>
    exact chainFrom_induction (P := fun s => s.joinedBy connective' = (connective == connective'))
      (Q := fun _ => True) (fun _ _ _ _ _ => rfl) rfl (fun _ _ => trivial) (index + 1)

lemma parts_ne_nil (connective : Connective) (s : Boolean B) : s.parts connective ≠ [] := by
  induction s with
  | literal value => exact List.cons_ne_nil _ _
  | var v => exact List.cons_ne_nil _ _
  | joined id own left right ihl ihr =>
    rw [parts]
    split
    · exact List.append_ne_nil_of_left_ne_nil ihl _
    · exact List.cons_ne_nil _ _
  | ternary id condition ifTrue otherwise => exact List.cons_ne_nil _ _

end PriorityFormula.Boolean
