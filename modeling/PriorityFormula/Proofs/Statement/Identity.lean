import PriorityFormula.Proofs.Statement.Value

/-!
# Statements up to identities

Two statements are the same up to identities if they are equal once every compound statement in them
carries one and the same identity. Nothing that evaluating or regrouping does depends on identities.
-/

namespace PriorityFormula

namespace Boolean

variable {B : Type}

/-- The condition with all identities forgotten. -/
def withoutIds : Boolean B → Boolean B
  | literal value => literal value
  | var v => var v
  | joined _ connective left right => joined ⟨0⟩ connective left.withoutIds right.withoutIds
  | ternary _ condition ifTrue otherwise =>
    ternary ⟨0⟩ condition.withoutIds ifTrue.withoutIds otherwise.withoutIds

/-- Evaluating a condition does not depend on identities. -/
@[simp] lemma trace_withoutIds (flag : B → Bool) (s : Boolean B) :
    s.withoutIds.trace flag = s.trace flag := by
  induction s with
  | literal value => rfl
  | var v => rfl
  | joined id connective left right ihl ihr => rw [withoutIds, trace, trace, ihl, ihr]
  | ternary id condition ifTrue otherwise ihc iht iho =>
    rw [withoutIds, trace, trace, ihc, iht, iho]

/-- Conditions that are the same up to identities are evaluated in the same way. -/
lemma trace_eq_of_withoutIds_eq {s t : Boolean B} (h : s.withoutIds = t.withoutIds)
    (flag : B → Bool) : s.trace flag = t.trace flag := by
  rw [← trace_withoutIds flag s, h, trace_withoutIds]

/-- Appending parts does not depend on identities. -/
lemma withoutIds_appendParts (connective : Connective) (chain : Boolean B) (id : Id)
    (s : Boolean B) : (appendParts connective chain id s).withoutIds =
      appendParts connective chain.withoutIds ⟨0⟩ s.withoutIds := by
  induction s generalizing chain id with
  | literal value => rfl
  | var v => rfl
  | joined id' own left right ihl ihr =>
    by_cases hown : own = connective
    · rw [appendParts, if_pos hown, ihr, ihl, withoutIds, appendParts, if_pos hown]
    · rw [appendParts, if_neg hown, withoutIds, withoutIds, appendParts, if_neg hown]
  | ternary id' condition ifTrue otherwise => rfl

/-- Forgetting identities twice is forgetting them once. -/
@[simp] lemma withoutIds_withoutIds (s : Boolean B) : s.withoutIds.withoutIds = s.withoutIds := by
  induction s with
  | literal value => rfl
  | var v => rfl
  | joined id connective left right ihl ihr => rw [withoutIds, withoutIds, ihl, ihr]
  | ternary id condition ifTrue otherwise ihc iht iho =>
    rw [withoutIds, withoutIds, ihc, iht, iho]

/-- Regrouping does not depend on identities. -/
lemma regrouped_withoutIds (s : Boolean B) : s.withoutIds.regrouped = s.regrouped.withoutIds := by
  induction s with
  | literal value => rfl
  | var v => rfl
  | joined id connective left right ihl ihr =>
    rw [withoutIds, regrouped, ihl, ihr, regrouped, withoutIds_appendParts]
  | ternary id condition ifTrue otherwise ihc iht iho =>
    rw [withoutIds, regrouped, ihc, iht, iho, regrouped, withoutIds]

end Boolean

namespace Numeric

variable {A B K : Type} {f : Format}

/-- The statement with all identities forgotten, those of its conditions too. -/
def withoutIds : Numeric A B f → Numeric A B f
  | literal value => literal value
  | var v => var v
  | additive _ sign left right => additive ⟨0⟩ sign left.withoutIds right.withoutIds
  | scaled _ scaling left right => scaled ⟨0⟩ scaling left.withoutIds right.withoutIds
  | round _ mode operand => round ⟨0⟩ mode operand.withoutIds
  | ternary _ condition ifTrue otherwise =>
    ternary ⟨0⟩ condition.withoutIds ifTrue.withoutIds otherwise.withoutIds

/-- Evaluating a statement does not depend on identities. -/
@[simp] lemma trace_withoutIds (I : Interpretation A B f K) (s : Numeric A B f) :
    s.withoutIds.trace I = s.trace I := by
  induction s with
  | literal value => rfl
  | var v => rfl
  | additive id sign left right ihl ihr => rw [withoutIds, trace, trace, ihl, ihr]
  | scaled id scaling left right ihl ihr => rw [withoutIds, trace, trace, ihl, ihr]
  | round id mode operand ih => rw [withoutIds, trace, trace, ih]
  | ternary id condition ifTrue otherwise iht iho =>
    rw [withoutIds, trace, trace, Boolean.trace_withoutIds, iht, iho]

/-- Statements that are the same up to identities are evaluated in the same way. -/
lemma trace_eq_of_withoutIds_eq {s t : Numeric A B f} (h : s.withoutIds = t.withoutIds)
    (I : Interpretation A B f K) : s.trace I = t.trace I := by
  rw [← trace_withoutIds I s, h, trace_withoutIds]

/-- Putting terms behind a chain does not depend on identities. -/
lemma withoutIds_appendTerms (chain : Numeric A B f) (id : Id) (sign : Sign) (s : Numeric A B f) :
    (appendTerms chain id sign s).withoutIds =
      appendTerms chain.withoutIds ⟨0⟩ sign s.withoutIds := by
  induction s generalizing chain id sign with
  | literal value =>
    rw [appendTerms, withoutIds, appendTerms]
    split <;> rfl
  | var v => rfl
  | additive id' inner left right ihl ihr =>
    rw [appendTerms, ihr, ihl, withoutIds, appendTerms]
  | scaled id' scaling left right => rfl
  | round id' mode operand => rfl
  | ternary id' condition ifTrue otherwise => rfl

/-- Putting factors behind a chain does not depend on identities. -/
lemma withoutIds_appendFactors (scaling : Scaling) (chain : Numeric A B f) (id : Id)
    (s : Numeric A B f) :
    (appendFactors scaling chain id s).withoutIds =
      appendFactors scaling chain.withoutIds ⟨0⟩ s.withoutIds := by
  induction s generalizing chain id with
  | literal value => rfl
  | var v => rfl
  | additive id' sign left right => rfl
  | scaled id' own left right ihl ihr =>
    by_cases hown : own = scaling
    · rw [appendFactors, if_pos hown, ihr, ihl, withoutIds, appendFactors, if_pos hown]
    · rw [appendFactors, if_neg hown, withoutIds, withoutIds, appendFactors, if_neg hown]
  | round id' mode operand => rfl
  | ternary id' condition ifTrue otherwise => rfl

/-- Forgetting identities twice is forgetting them once. -/
@[simp] lemma withoutIds_withoutIds (s : Numeric A B f) :
    s.withoutIds.withoutIds = s.withoutIds := by
  induction s with
  | literal value => rfl
  | var v => rfl
  | additive id sign left right ihl ihr => rw [withoutIds, withoutIds, ihl, ihr]
  | scaled id scaling left right ihl ihr => rw [withoutIds, withoutIds, ihl, ihr]
  | round id mode operand ih => rw [withoutIds, withoutIds, ih]
  | ternary id condition ifTrue otherwise iht iho =>
    rw [withoutIds, withoutIds, Boolean.withoutIds_withoutIds, iht, iho]

/-- Regrouping does not depend on identities. -/
lemma regrouped_withoutIds (s : Numeric A B f) :
    s.withoutIds.regrouped = s.regrouped.withoutIds := by
  induction s with
  | literal value => rfl
  | var v => rfl
  | additive id sign left right ihl ihr =>
    rw [withoutIds, regrouped, ihl, ihr, regrouped, withoutIds_appendTerms]
  | scaled id scaling left right ihl ihr =>
    rw [withoutIds, regrouped, ihl, ihr, regrouped, withoutIds_appendFactors]
  | round id mode operand ih => rw [withoutIds, regrouped, ih, regrouped, withoutIds]
  | ternary id condition ifTrue otherwise iht iho =>
    rw [withoutIds, regrouped, Boolean.regrouped_withoutIds, iht, iho, regrouped, withoutIds]

end Numeric

end PriorityFormula
