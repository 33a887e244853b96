import PriorityFormula.Context
import PriorityFormula.Proofs.Normalize.Boolean
import PriorityFormula.Proofs.Normalize.Numeric
import PriorityFormula.Proofs.Statement.Laws

/-!
# Normal forms decide the laws of regrouping

Two statements that have normal forms have the same one, identities aside, if and only if the laws
of regrouping turn one of them into the other. One direction holds because the laws are invisible in
the regrouped statement, which the normal form is; the other one because the laws lead from every
statement to its normal form.
-/

namespace PriorityFormula

namespace Numeric

variable {A B : Type} {f : Format}

/-- A statement without obstacles can be rearranged into the regrouped one. With an obstacle it need
not be, since regrouping also reaches products and quotients. -/
lemma rearranged_regrouped {s : Numeric A B f} (h : s.obstacle = none) :
    s.Rearranged s.regrouped := by
  induction s with
  | literal value => exact .of_withoutIds_eq rfl
  | var v => exact .of_withoutIds_eq rfl
  | additive id sign left right ihl ihr =>
    obtain ⟨hleft, hright⟩ := Option.or_eq_none_iff.mp h
    have happend := rearranged_appendTerms left.regrouped id sign right.regrouped
    exact ((ihl hleft).additive (ihr hright) id id sign).trans happend
  | scaled id scaling left right => cases scaling <;> cases h
  | round id mode operand => cases h
  | ternary id condition ifTrue otherwise => cases h

/-- Two statements without obstacles can be rearranged into each other exactly if they are regrouped
into the same statement, identities aside. -/
lemma rearranged_iff {s t : Numeric A B f} (hs : s.obstacle = none) (ht : t.obstacle = none) :
    s.Rearranged t ↔ s.regrouped.withoutIds = t.regrouped.withoutIds := by
  refine ⟨Rearranged.withoutIds_regrouped_eq, ?_⟩
  intro heq
  have hregrouped : s.regrouped.Rearranged t.regrouped := .of_withoutIds_eq heq
  exact (rearranged_regrouped hs).trans (hregrouped.trans (rearranged_regrouped ht).symm)

/-- A normal form can be rearranged into the statement it was made from. -/
lemma rearranged_of_tryNormalize_eq_ok {s : Numeric A B f} {n : Normalized (Numeric A B f)}
    {σ σ' : Session} (h : s.tryNormalize.run.run σ = (.ok n, σ')) : n.statement.Rearranged s := by
  obtain ⟨hobstacle, hids⟩ := withoutIds_of_tryNormalize_eq_ok h
  exact (Rearranged.of_withoutIds_eq hids).trans (rearranged_regrouped hobstacle).symm

end Numeric

/-- A normal form can be rearranged into the condition it was made from. -/
lemma Boolean.rearranged_of_tryNormalize_eq_ok {B : Type} {s : Boolean B}
    {n : Normalized (Boolean B)} {σ σ' : Session}
    (h : s.tryNormalize.run.run σ = (.ok n, σ')) : n.statement.Rearranged s := by
  have hids := withoutIds_of_tryNormalize_eq_ok h
  exact (Rearranged.of_withoutIds_eq hids).trans s.rearranged_regrouped.symm

/-- Two numeric statements that can be normalized have the same normal form, identities aside, if
and only if one can be turned into the other by the laws of sums and differences; for two conditions
the same holds of the associativity of the connectives. -/
theorem withoutIds_eq_iff_rearranged (A B : Type) (f : Format) :
    (∀ (s t : Numeric A B f) (m n : Normalized (Numeric A B f)) (σ σ' τ τ' : Session),
      s.tryNormalize.run.run σ = (.ok m, σ') → t.tryNormalize.run.run τ = (.ok n, τ') →
        (m.statement.withoutIds = n.statement.withoutIds ↔ s.Rearranged t)) ∧
    ∀ (s t : Boolean B) (m n : Normalized (Boolean B)) (σ σ' τ τ' : Session),
      s.tryNormalize.run.run σ = (.ok m, σ') → t.tryNormalize.run.run τ = (.ok n, τ') →
        (m.statement.withoutIds = n.statement.withoutIds ↔ s.Rearranged t) := by
  constructor
  · intro s t m n σ σ' τ τ' hs ht
    obtain ⟨hobstacle, hm⟩ := Numeric.withoutIds_of_tryNormalize_eq_ok hs
    obtain ⟨hobstacle', hn⟩ := Numeric.withoutIds_of_tryNormalize_eq_ok ht
    rw [hm, hn, Numeric.rearranged_iff hobstacle hobstacle']
  · intro s t m n σ σ' τ τ' hs ht
    rw [Boolean.withoutIds_of_tryNormalize_eq_ok hs, Boolean.withoutIds_of_tryNormalize_eq_ok ht,
      Boolean.rearranged_iff]

/-- A difference that begins with a literal below zero can be rearranged into a flat one; exchanging
two operands is not among the laws. -/
theorem withoutIds_eq_iff_rearranged_differences :
    let two : FiniteNumber .double := ⟨false, 0x4000000000000000, by decide⟩
    let s : Quantity .double := .additive ⟨1⟩ .minus (Quantity.urgency .double)
      (.additive ⟨0⟩ .minus (.literal two.negated) (Quantity.impact .double))
    let t : Quantity .double := .additive ⟨1⟩ .plus (.additive ⟨0⟩ .plus
      (Quantity.urgency .double) (.literal two)) (Quantity.impact .double)
    let a : Condition := .joined ⟨0⟩ .and Condition.vip Condition.businessRelated
    let b : Condition := .joined ⟨0⟩ .and Condition.businessRelated Condition.vip
    s.Rearranged t ∧ ¬ a.Rearranged b := by
  intro two s t a b
  have hnumeric := (withoutIds_eq_iff_rearranged (NumberSource .double) FlagSource .double).1 s t
    _ _ ⟨2, []⟩ _ ⟨2, []⟩ _ rfl rfl
  have hboolean := (withoutIds_eq_iff_rearranged (NumberSource .double) FlagSource .double).2 a b
    _ _ ⟨1, []⟩ _ ⟨1, []⟩ _ rfl rfl
  refine ⟨hnumeric.mp rfl, ?_⟩
  intro hab
  have heq := hboolean.mpr hab
  exact absurd heq (by decide)

end PriorityFormula
