import PriorityFormula.Context
import PriorityFormula.Proofs.Normalize.Derivation

/-!
# Normalized conditions

Where normalizing a condition succeeds, the result is the regrouped condition, except that the
conditions joined anew have fresh identities. It is evaluated like the original: the value is the
same, and so are the variables that are read for it.
-/

namespace PriorityFormula.Boolean

variable {B : Type}

/-- The outcome of normalizing is the regrouped condition up to identities. -/
lemma Normalizes.withoutIds_eq {s : Boolean B} {n : Normalized (Boolean B)} {index last : Nat}
    (h : Normalizes index s n last) : n.statement.withoutIds = s.regrouped.withoutIds := by
  induction h with
  | literal index value => rfl
  | var index v => rfl
  | kept id connective hleft hright hjoined ihl ihr =>
    rw [← appendParts_of_joinedBy_eq_false hjoined, withoutIds_appendParts, ihl, ihr, regrouped,
      withoutIds_appendParts]
  | merged id connective hleft hright hjoined ihl ihr =>
    rw [withoutIds_chainFrom_parts connective _ _ id, withoutIds_appendParts, ihl, ihr, regrouped,
      withoutIds_appendParts]

/-- Where normalizing a condition succeeds, the result is the regrouped condition up to
identities. -/
lemma withoutIds_of_tryNormalize_eq_ok {s : Boolean B} {n : Normalized (Boolean B)}
    {σ σ' : Session} (h : s.tryNormalize.run.run σ = (.ok n, σ')) :
    n.statement.withoutIds = s.regrouped.withoutIds :=
  (normalizes_of_tryNormalize_eq_ok h).withoutIds_eq

/-- A normalized condition is evaluated like the original one, with the same value and the same
reads, whatever the accessors give. -/
theorem trace_of_tryNormalize_eq_ok {s : Boolean B} {n : Normalized (Boolean B)} {σ σ' : Session}
    (h : s.tryNormalize.run.run σ = (.ok n, σ')) (flag : B → Bool) :
    n.statement.trace flag = s.trace flag := by
  have hids := withoutIds_of_tryNormalize_eq_ok h
  rw [trace_eq_of_withoutIds_eq hids, trace_regrouped]

/-- Conjunctions nested to the right are regrouped without reading more or other variables, in every
context. -/
theorem trace_of_tryNormalize_conjunctions :
    let s : Condition := .joined ⟨2⟩ .and Condition.vip (.joined ⟨1⟩ .and
      (.joined ⟨0⟩ .or Condition.businessRelated Condition.vip) Condition.businessRelated)
    ∃ n σ', s.tryNormalize.run.run ⟨3, []⟩ = (.ok n, σ') ∧
      n.statement.id? = some ⟨4⟩ ∧
        ∀ context : Context, n.statement.trace context.flag = s.trace context.flag := by
  intro s
  refine ⟨_, _, rfl, rfl, ?_⟩
  intro context
  exact trace_of_tryNormalize_eq_ok (s := s) rfl context.flag

end PriorityFormula.Boolean
