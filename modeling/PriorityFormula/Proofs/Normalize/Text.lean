import PriorityFormula.Context
import PriorityFormula.Proofs.Chain.Created
import PriorityFormula.Proofs.Normalize.Equality
import PriorityFormula.Proofs.Statement.Alike

/-!
# Flattening does not show in the text

Normalizing a statement and creating a chain both put chains together from parts that were taken out
of nested statements. All of this rearranges statements by the laws of regrouping, and these do not
show in the text.
-/

namespace PriorityFormula

/-- A normalized statement has the text of the original one, and a created chain has the text of the
operations built one after the other, whatever the operands are. -/
theorem text_flattened_eq (A B : Type) (f : Format) :
    (∀ (s : Numeric A B f) (n : Normalized (Numeric A B f)) (σ σ' : Session),
      s.tryNormalize.run.run σ = (.ok n, σ') → n.statement.text = s.text) ∧
    (∀ (s : Boolean B) (n : Normalized (Boolean B)) (σ σ' : Session),
      s.tryNormalize.run.run σ = (.ok n, σ') → n.statement.text = s.text) ∧
    (∀ (sign : Sign) (first : Numeric A B f) (rest : List (Numeric A B f)) (σ τ : Session),
      ((Numeric.createAdditive sign first rest).run σ).1.text =
        ((rest.foldlM (Numeric.newAdditive sign) first).run τ).1.text) ∧
    ∀ (connective : Connective) (first : Boolean B) (rest : List (Boolean B)) (σ τ : Session),
      ((Boolean.createLogical connective first rest).run σ).1.text =
        ((rest.foldlM (Boolean.newJoined connective) first).run τ).1.text := by
  refine ⟨?_, ?_, ?_, ?_⟩
  · intro s n σ σ' hrun
    exact (Numeric.rearranged_of_tryNormalize_eq_ok hrun).text_eq
  · intro s n σ σ' hrun
    exact (Boolean.rearranged_of_tryNormalize_eq_ok hrun).text_eq
  · intro sign first rest σ τ
    exact (Numeric.rearranged_createAdditive sign first rest σ τ).text_eq
  · intro connective first rest σ τ
    exact (Boolean.rearranged_createLogical connective first rest σ τ).text_eq

/-- A difference nested on the right and a created chain of differences, both with literals below
zero and, in the second one, a ternary in front. -/
theorem text_flattened_differences :
    let two : FiniteNumber .double := ⟨false, 0x4000000000000000, by decide⟩
    let inner : Quantity .double := .additive ⟨0⟩ .minus (.literal two.negated)
      (Quantity.impact .double)
    let s : Quantity .double := .additive ⟨1⟩ .minus (Quantity.urgency .double) inner
    let choice : Quantity .double :=
      .ternary ⟨2⟩ Condition.vip (Quantity.impact .double) (Quantity.urgency .double)
    (∃ n σ', s.tryNormalize.run.run ⟨3, []⟩ = (.ok n, σ') ∧ n.statement.text = s.text ∧
      s.text = "urgency + 2 + impact".toList) ∧
    ((Numeric.createAdditive .minus choice [inner]).run ⟨3, []⟩).1.text =
      "(vip ? impact : urgency) + 2 + impact".toList := by
  intro two inner s choice
  obtain ⟨hnumeric, _, hcreated, _⟩ :=
    text_flattened_eq (NumberSource .double) FlagSource .double
  refine ⟨⟨_, _, rfl, hnumeric s _ ⟨3, []⟩ _ rfl, by decide +kernel⟩, ?_⟩
  rw [hcreated .minus choice [inner] ⟨3, []⟩ ⟨3, []⟩]
  decide +kernel

end PriorityFormula
