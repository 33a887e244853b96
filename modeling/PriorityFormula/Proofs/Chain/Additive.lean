import PriorityFormula.Chain.Additive
import PriorityFormula.Proofs.Session
import PriorityFormula.Proofs.Statement.Identity

/-!
# Chains of signed terms

Attaching signed terms gives the chain in which each term has the next identity. Attaching the terms
of a statement is putting the statement behind the head term by term, except that the identities
are fresh ones.
-/

namespace PriorityFormula.Numeric

variable {A B : Type} {f : Format}

/-- The chain of a head and signed terms, with identities that ascend from a first one. -/
def chainFrom : Nat → Numeric A B f → List (Sign × Numeric A B f) → Numeric A B f
  | _, head, [] => head
  | index, head, (sign, term) :: rest =>
    chainFrom (index + 1) (additive ⟨index⟩ sign head term) rest

/-- Attaching signed terms gives their chain and takes one identity for each. -/
lemma run_attachTerms (head : Numeric A B f) (ts : List (Sign × Numeric A B f)) (σ : Session) :
    (head.attachTerms ts).run σ =
      (chainFrom σ.nextIndex head ts, { σ with nextIndex := σ.nextIndex + ts.length }) := by
  induction ts generalizing head σ with
  | nil => rfl
  | cons t rest ih =>
    rw [attachTerms, StateT.run_bind, run_freshId]
    show ((additive _ t.1 head t.2).attachTerms rest).run _ = _
    rw [ih, chainFrom, List.length_cons, Nat.add_assoc, Nat.add_comm 1]

/-- A chain goes on behind another one. -/
lemma chainFrom_append (index : Nat) (head : Numeric A B f) (ts us : List (Sign × Numeric A B f)) :
    chainFrom index head (ts ++ us) =
      chainFrom (index + ts.length) (chainFrom index head ts) us := by
  induction ts generalizing index head with
  | nil => rfl
  | cons t rest ih =>
    rw [List.cons_append, chainFrom, ih, chainFrom, List.length_cons, Nat.add_assoc,
      Nat.add_comm 1]

/-- The chain of the terms of a statement is the statement put behind the head. -/
lemma withoutIds_chainFrom_terms (index : Nat) (head : Numeric A B f) (id : Id) (sign : Sign)
    (s : Numeric A B f) :
    (chainFrom index head (s.terms sign)).withoutIds =
      (appendTerms head id sign s).withoutIds := by
  induction s generalizing index head id sign with
  | literal value =>
    rw [terms, appendTerms]
    split <;> rfl
  | var v => rfl
  | additive id' inner left right ihl ihr =>
    rw [terms, chainFrom_append, ihr _ _ id', withoutIds_appendTerms (chainFrom _ _ _), ihl _ _ id,
      appendTerms, withoutIds_appendTerms (appendTerms head id sign left)]
  | scaled id' scaling left right => rfl
  | round id' mode operand => rfl
  | ternary id' condition ifTrue otherwise => rfl

/-- A chain has a property if its head has it and attaching each of the terms keeps it. -/
lemma chainFrom_induction {P Q : Numeric A B f → Prop}
    (hattach : ∀ id sign chain term, P chain → Q term → P (additive id sign chain term))
    {head : Numeric A B f} (hhead : P head) {ts : List (Sign × Numeric A B f)}
    (hts : ∀ t ∈ ts, Q t.2) (index : Nat) : P (chainFrom index head ts) := by
  induction ts generalizing index head with
  | nil => exact hhead
  | cons t rest ih =>
    obtain ⟨hterm, hrest⟩ := List.forall_mem_cons.mp hts
    exact ih (hattach ⟨index⟩ t.1 head t.2 hhead hterm) hrest (index + 1)

/-- The terms of a statement have a property if the statement has it and it passes on to the
operands of sums and differences and to the opposites of literals below zero. -/
lemma forall_terms {P : Numeric A B f → Prop}
    (hoperands : ∀ id sign left right, P (additive id sign left right) → P left ∧ P right)
    (hopposite : ∀ value, value.isNegative = true → P (literal value) → P (literal value.negated))
    {s : Numeric A B f} (h : P s) (sign : Sign) : ∀ t ∈ s.terms sign, P t.2 := by
  induction s generalizing sign with
  | literal value =>
    rw [terms]
    split
    · next hvalue => exact List.forall_mem_singleton.mpr (hopposite value hvalue h)
    · exact List.forall_mem_singleton.mpr h
  | var v => exact List.forall_mem_singleton.mpr h
  | additive id inner left right ihl ihr =>
    obtain ⟨hleft, hright⟩ := hoperands id inner left right h
    exact List.forall_mem_append.mpr ⟨ihl hleft sign, ihr hright (sign.behind inner)⟩
  | scaled id scaling left right => exact List.forall_mem_singleton.mpr h
  | round id mode operand => exact List.forall_mem_singleton.mpr h
  | ternary id condition ifTrue otherwise => exact List.forall_mem_singleton.mpr h

/-- No term of a statement is a sum, a difference or a literal below zero. -/
lemma not_mergeable_of_mem_terms (s : Numeric A B f) (sign : Sign) :
    ∀ t ∈ s.terms sign, t.2.isAdditive = false ∧ t.2.isNegativeLiteral = false := by
  induction s generalizing sign with
  | literal value =>
    rw [terms]
    split
    · next hvalue =>
      exact List.forall_mem_singleton.mpr
        ⟨rfl, FiniteNumber.isNegative_negated_of_isNegative hvalue⟩
    · next hvalue => exact List.forall_mem_singleton.mpr ⟨rfl, eq_false_of_ne_true hvalue⟩
  | var v => exact List.forall_mem_singleton.mpr ⟨rfl, rfl⟩
  | additive id inner left right ihl ihr =>
    exact List.forall_mem_append.mpr ⟨ihl sign, ihr (sign.behind inner)⟩
  | scaled id scaling left right => exact List.forall_mem_singleton.mpr ⟨rfl, rfl⟩
  | round id mode operand => exact List.forall_mem_singleton.mpr ⟨rfl, rfl⟩
  | ternary id condition ifTrue otherwise => exact List.forall_mem_singleton.mpr ⟨rfl, rfl⟩

lemma terms_ne_nil (sign : Sign) (s : Numeric A B f) : s.terms sign ≠ [] := by
  induction s generalizing sign with
  | literal value =>
    rw [terms]
    split <;> exact List.cons_ne_nil _ _
  | var v => exact List.cons_ne_nil _ _
  | additive id inner left right ihl ihr => exact List.append_ne_nil_of_left_ne_nil (ihl sign) _
  | scaled id scaling left right => exact List.cons_ne_nil _ _
  | round id mode operand => exact List.cons_ne_nil _ _
  | ternary id condition ifTrue otherwise => exact List.cons_ne_nil _ _

/-- A chain with at least one term is a sum or difference. -/
lemma isAdditive_chainFrom {ts : List (Sign × Numeric A B f)} (hts : ts ≠ []) (index : Nat)
    (head : Numeric A B f) : (chainFrom index head ts).isAdditive = true := by
  cases ts with
  | nil => exact absurd rfl hts
  | cons t rest =>
    exact chainFrom_induction (P := fun s => s.isAdditive = true) (Q := fun _ => True)
      (fun _ _ _ _ _ _ => rfl) rfl (fun _ _ => trivial) (index + 1)

end PriorityFormula.Numeric
