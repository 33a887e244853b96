import PriorityFormula.Proofs.Statement.Regrouped

/-!
# Statements that lean to the left

A statement leans to the left if no block in it is nested to the right and no literal below zero is
added or subtracted. Regrouping gives such a statement, and the statements that it leaves alone are
these: they are the normal forms of regrouping, and regrouping twice is regrouping once.
-/

namespace PriorityFormula

namespace Boolean

variable {B : Type}

/-- Nowhere in the condition is a right operand joined by the connective of its parent. -/
def LeansLeft : Boolean B → Prop
  | literal _ | var _ => True
  | joined _ connective left right =>
    left.LeansLeft ∧ right.LeansLeft ∧ right.joinedBy connective = false
  | ternary _ condition ifTrue otherwise =>
    condition.LeansLeft ∧ ifTrue.LeansLeft ∧ otherwise.LeansLeft

instance decidableLeansLeft : (s : Boolean B) → Decidable s.LeansLeft
  | literal _ | var _ => .isTrue trivial
  | joined _ connective left right =>
    have := decidableLeansLeft left
    have := decidableLeansLeft right
    inferInstanceAs
      (Decidable (left.LeansLeft ∧ right.LeansLeft ∧ right.joinedBy connective = false))
  | ternary _ condition ifTrue otherwise =>
    have := decidableLeansLeft condition
    have := decidableLeansLeft ifTrue
    have := decidableLeansLeft otherwise
    inferInstanceAs (Decidable (condition.LeansLeft ∧ ifTrue.LeansLeft ∧ otherwise.LeansLeft))

/-- Appending keeps that conditions lean to the left. -/
lemma leansLeft_appendParts (connective : Connective) {chain s : Boolean B}
    (hchain : chain.LeansLeft) (hs : s.LeansLeft) (id : Id) :
    (appendParts connective chain id s).LeansLeft := by
  induction s generalizing chain id with
  | literal value => exact ⟨hchain, hs, rfl⟩
  | var v => exact ⟨hchain, hs, rfl⟩
  | joined id' own left right ihl ihr =>
    by_cases hown : own = connective
    · obtain ⟨hleft, hright, _⟩ := hs
      rw [appendParts, if_pos hown]
      exact ihr (ihl hchain hleft id) hright id'
    · rw [appendParts, if_neg hown]
      exact ⟨hchain, hs, beq_eq_false_iff_ne.mpr hown⟩
  | ternary id' condition ifTrue otherwise => exact ⟨hchain, hs, rfl⟩

/-- A regrouped condition leans to the left. -/
theorem leansLeft_regrouped (s : Boolean B) : s.regrouped.LeansLeft := by
  induction s with
  | literal value => trivial
  | var v => trivial
  | joined id connective left right ihl ihr => exact leansLeft_appendParts connective ihl ihr id
  | ternary id condition ifTrue otherwise ihc iht iho => exact ⟨ihc, iht, iho⟩

/-- A condition that leans to the left is regrouped already. -/
theorem LeansLeft.regrouped_eq {s : Boolean B} (h : s.LeansLeft) : s.regrouped = s := by
  induction s with
  | literal value => rfl
  | var v => rfl
  | joined id connective left right ihl ihr =>
    obtain ⟨hleft, hright, hjoined⟩ := h
    rw [regrouped, ihl hleft, ihr hright, appendParts_of_joinedBy_eq_false hjoined]
  | ternary id condition ifTrue otherwise ihc iht iho =>
    obtain ⟨hcondition, hifTrue, hotherwise⟩ := h
    rw [regrouped, ihc hcondition, iht hifTrue, iho hotherwise]

/-- Regrouping leaves alone exactly the conditions that lean to the left. -/
theorem regrouped_eq_self_iff {s : Boolean B} : s.regrouped = s ↔ s.LeansLeft := by
  constructor
  · intro heq
    rw [← heq]
    exact s.leansLeft_regrouped
  · exact LeansLeft.regrouped_eq

/-- Regrouping a second time changes nothing. -/
@[simp] theorem regrouped_regrouped (s : Boolean B) : s.regrouped.regrouped = s.regrouped :=
  s.leansLeft_regrouped.regrouped_eq

end Boolean

namespace Numeric

variable {A B : Type} {f : Format}

/-- Nowhere in the statement is a right operand one that the parent's block goes on with, or a
literal below zero that is added or subtracted. -/
def LeansLeft : Numeric A B f → Prop
  | literal _ | var _ => True
  | additive _ _ left right =>
    left.LeansLeft ∧ right.LeansLeft ∧ right.isAdditive = false ∧ right.isNegativeLiteral = false
  | scaled _ scaling left right =>
    left.LeansLeft ∧ right.LeansLeft ∧ right.scaledBy scaling = false
  | round _ _ operand => operand.LeansLeft
  | ternary _ condition ifTrue otherwise =>
    condition.LeansLeft ∧ ifTrue.LeansLeft ∧ otherwise.LeansLeft

instance decidableLeansLeft : (s : Numeric A B f) → Decidable s.LeansLeft
  | literal _ | var _ => .isTrue trivial
  | additive _ _ left right =>
    have := decidableLeansLeft left
    have := decidableLeansLeft right
    inferInstanceAs (Decidable (left.LeansLeft ∧ right.LeansLeft ∧ right.isAdditive = false ∧
      right.isNegativeLiteral = false))
  | scaled _ scaling left right =>
    have := decidableLeansLeft left
    have := decidableLeansLeft right
    inferInstanceAs (Decidable (left.LeansLeft ∧ right.LeansLeft ∧ right.scaledBy scaling = false))
  | round _ _ operand => decidableLeansLeft operand
  | ternary _ condition ifTrue otherwise =>
    have := decidableLeansLeft ifTrue
    have := decidableLeansLeft otherwise
    inferInstanceAs (Decidable (condition.LeansLeft ∧ ifTrue.LeansLeft ∧ otherwise.LeansLeft))

/-- Putting terms behind a chain keeps that statements lean to the left. -/
lemma leansLeft_appendTerms {chain s : Numeric A B f} (hchain : chain.LeansLeft)
    (hs : s.LeansLeft) (id : Id) (sign : Sign) : (appendTerms chain id sign s).LeansLeft := by
  induction s generalizing chain id sign with
  | literal value =>
    cases hvalue : value.isNegative with
    | false =>
      rw [appendTerms, if_neg (ne_true_of_eq_false hvalue)]
      exact ⟨hchain, hs, rfl, hvalue⟩
    | true =>
      rw [appendTerms, if_pos hvalue]
      exact ⟨hchain, trivial, rfl, FiniteNumber.isNegative_negated_of_isNegative hvalue⟩
  | var v => exact ⟨hchain, hs, rfl, rfl⟩
  | additive id' inner left right ihl ihr =>
    obtain ⟨hleft, hright, _⟩ := hs
    rw [appendTerms]
    exact ihr (ihl hchain hleft id sign) hright id' (sign.behind inner)
  | scaled id' scaling left right => exact ⟨hchain, hs, rfl, rfl⟩
  | round id' mode operand => exact ⟨hchain, hs, rfl, rfl⟩
  | ternary id' condition ifTrue otherwise => exact ⟨hchain, hs, rfl, rfl⟩

/-- Putting factors behind a chain keeps that statements lean to the left. -/
lemma leansLeft_appendFactors (scaling : Scaling) {chain s : Numeric A B f}
    (hchain : chain.LeansLeft) (hs : s.LeansLeft) (id : Id) :
    (appendFactors scaling chain id s).LeansLeft := by
  induction s generalizing chain id with
  | literal value => exact ⟨hchain, hs, rfl⟩
  | var v => exact ⟨hchain, hs, rfl⟩
  | additive id' sign left right => exact ⟨hchain, hs, rfl⟩
  | scaled id' own left right ihl ihr =>
    by_cases hown : own = scaling
    · obtain ⟨hleft, hright, _⟩ := hs
      rw [appendFactors, if_pos hown]
      exact ihr (ihl hchain hleft id) hright id'
    · rw [appendFactors, if_neg hown]
      exact ⟨hchain, hs, beq_eq_false_iff_ne.mpr hown⟩
  | round id' mode operand => exact ⟨hchain, hs, rfl⟩
  | ternary id' condition ifTrue otherwise => exact ⟨hchain, hs, rfl⟩

/-- A regrouped statement leans to the left. -/
theorem leansLeft_regrouped (s : Numeric A B f) : s.regrouped.LeansLeft := by
  induction s with
  | literal value => trivial
  | var v => trivial
  | additive id sign left right ihl ihr => exact leansLeft_appendTerms ihl ihr id sign
  | scaled id scaling left right ihl ihr => exact leansLeft_appendFactors scaling ihl ihr id
  | round id mode operand ih => exact ih
  | ternary id condition ifTrue otherwise iht iho =>
    exact ⟨condition.leansLeft_regrouped, iht, iho⟩

/-- A statement that leans to the left is regrouped already. -/
theorem LeansLeft.regrouped_eq {s : Numeric A B f} (h : s.LeansLeft) : s.regrouped = s := by
  induction s with
  | literal value => rfl
  | var v => rfl
  | additive id sign left right ihl ihr =>
    obtain ⟨hleft, hright, hadditive, hnegative⟩ := h
    rw [regrouped, ihl hleft, ihr hright, appendTerms_eq_additive hadditive hnegative]
  | scaled id scaling left right ihl ihr =>
    obtain ⟨hleft, hright, hscaled⟩ := h
    rw [regrouped, ihl hleft, ihr hright, appendFactors_of_scaledBy_eq_false hscaled]
  | round id mode operand ih => rw [regrouped, ih h]
  | ternary id condition ifTrue otherwise iht iho =>
    obtain ⟨hcondition, hifTrue, hotherwise⟩ := h
    rw [regrouped, hcondition.regrouped_eq, iht hifTrue, iho hotherwise]

/-- Regrouping leaves alone exactly the statements that lean to the left. -/
theorem regrouped_eq_self_iff {s : Numeric A B f} : s.regrouped = s ↔ s.LeansLeft := by
  constructor
  · intro heq
    rw [← heq]
    exact s.leansLeft_regrouped
  · exact LeansLeft.regrouped_eq

/-- Regrouping a second time changes nothing. -/
@[simp] theorem regrouped_regrouped (s : Numeric A B f) : s.regrouped.regrouped = s.regrouped :=
  s.leansLeft_regrouped.regrouped_eq

end Numeric

end PriorityFormula
