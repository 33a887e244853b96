import Mathlib.Algebra.Ring.Defs
import Mathlib.Tactic.Abel
import PriorityFormula.Proofs.Statement.Regrouped

/-!
# What regrouping keeps

A regrouped condition has the value of the original one and reads the same variables in the same
order, since the same operands settle it. A regrouped numeric statement also reads the same
variables in the same order. It has the same value wherever addition and subtraction are those of a
commutative group and the scalings whose nesting to the right is dropped are associative.
-/

namespace PriorityFormula

/-! ### Regrouped conditions -/

namespace Boolean

variable {B : Type} (flag : B → Bool)

/-- Nested conditions of one connective are settled by the same operand however they are nested. -/
lemma trace_joined_joined (connective : Connective) (id id' id'' id''' : Id)
    (first second third : Boolean B) :
    (joined id connective (joined id' connective first second) third).trace flag =
      (joined id'' connective first (joined id''' connective second third)).trace flag := by
  by_cases hfirst : connective.settles (first.trace flag).value = true
  · ext1 <;> simp [trace, hfirst]
  · ext1 <;> simp [trace, hfirst]

/-- Appending a condition to a chain is evaluated as joining it to the chain. -/
lemma trace_appendParts (connective : Connective) (chain : Boolean B) (id : Id) (s : Boolean B) :
    (appendParts connective chain id s).trace flag =
      (joined id connective chain s).trace flag := by
  induction s generalizing chain id with
  | literal value => rfl
  | var v => rfl
  | joined id' own left right ihl ihr =>
    by_cases hown : own = connective
    · rw [appendParts, if_pos hown, ihr, hown, ← trace_joined_joined flag connective id' id]
      simp only [trace, ihl]
    · rw [appendParts, if_neg hown]
  | ternary id' condition ifTrue otherwise => rfl

/-- Regrouping keeps the value of a condition and the reads that lead to it. -/
theorem trace_regrouped (s : Boolean B) : s.regrouped.trace flag = s.trace flag := by
  induction s with
  | literal value => rfl
  | var v => rfl
  | joined id connective left right ihl ihr =>
    rw [regrouped, trace_appendParts, trace, trace, ihl, ihr]
  | ternary id condition ifTrue otherwise ihc iht iho =>
    rw [regrouped, trace, trace, ihc, iht, iho]

/-- Regrouping keeps the value of a condition. -/
@[simp] lemma evaluate_regrouped (s : Boolean B) : s.regrouped.evaluate flag = s.evaluate flag := by
  rw [evaluate, evaluate, trace_regrouped]

end Boolean

/-! ### Regrouped numeric statements -/

namespace Numeric

variable {A B K : Type} {f : Format} (I : Interpretation A B f K)

/-- Putting terms behind a chain puts their reads last. -/
lemma reads_trace_appendTerms (chain : Numeric A B f) (id : Id) (sign : Sign) (s : Numeric A B f) :
    ((appendTerms chain id sign s).trace I).reads =
      (chain.trace I).reads ++ (s.trace I).reads := by
  induction s generalizing chain id sign with
  | literal value =>
    rw [appendTerms]
    split
    · exact reads_trace_additive I ..
    · exact reads_trace_additive I ..
  | var v => exact reads_trace_additive I ..
  | additive id' inner left right ihl ihr =>
    rw [appendTerms, ihr, ihl, reads_trace_additive, List.append_assoc]
  | scaled id' scaling left right => exact reads_trace_additive I ..
  | round id' mode operand => exact reads_trace_additive I ..
  | ternary id' condition ifTrue otherwise => exact reads_trace_additive I ..

/-- Putting factors behind a chain puts their reads last. -/
lemma reads_trace_appendFactors (scaling : Scaling) (chain : Numeric A B f) (id : Id)
    (s : Numeric A B f) :
    ((appendFactors scaling chain id s).trace I).reads =
      (chain.trace I).reads ++ (s.trace I).reads := by
  induction s generalizing chain id with
  | literal value => exact reads_trace_scaled I ..
  | var v => exact reads_trace_scaled I ..
  | additive id' sign left right => exact reads_trace_scaled I ..
  | scaled id' own left right ihl ihr =>
    rw [appendFactors]
    split
    · rw [ihr, ihl, reads_trace_scaled, List.append_assoc]
    · exact reads_trace_scaled I ..
  | round id' mode operand => exact reads_trace_scaled I ..
  | ternary id' condition ifTrue otherwise => exact reads_trace_scaled I ..

/-- Regrouping keeps the reads of a statement in order, in every arithmetic. -/
theorem reads_trace_regrouped (s : Numeric A B f) :
    (s.regrouped.trace I).reads = (s.trace I).reads := by
  induction s with
  | literal value => rfl
  | var v => rfl
  | additive id sign left right ihl ihr =>
    rw [regrouped, reads_trace_appendTerms, ihl, ihr, reads_trace_additive]
  | scaled id scaling left right ihl ihr =>
    rw [regrouped, reads_trace_appendFactors, ihl, ihr, reads_trace_scaled]
  | round id mode operand ih => rw [regrouped, reads_trace_round, ih, reads_trace_round]
  | ternary id condition ifTrue otherwise iht iho =>
    rw [regrouped, reads_trace_ternary, Boolean.trace_regrouped, Boolean.evaluate_regrouped, iht,
      iho, reads_trace_ternary]

end Numeric

/-- The arithmetic adds and subtracts as a commutative group does, and opposite literals stand for
opposite elements. -/
structure Interpretation.ExactSums {A B K : Type} {f : Format} [AddCommGroup K]
    (I : Interpretation A B f K) : Prop where
  add : ∀ x y, I.arithmetic.add x y = x + y
  subtract : ∀ x y, I.arithmetic.subtract x y = x - y
  literal_negated : ∀ value, I.literal value.negated = -I.literal value

/-- The arithmetic that adds, subtracts and multiplies in a ring, with any division and rounding. -/
def Arithmetic.ofRing {K : Type} [Ring K] (divide : K → K → K) (round : Rounding → K → K) :
    Arithmetic K where
  add x y := x + y
  subtract x y := x - y
  multiply x y := x * y
  divide := divide
  round := round

/-- The sums of a ring are exact. -/
lemma Interpretation.exactSums_ofRing {A B K : Type} {f : Format} [Ring K] (divide : K → K → K)
    (round : Rounding → K → K) {literal : FiniteNumber f → K} (number : A → K) (flag : B → Bool)
    (hnegated : ∀ value : FiniteNumber f, literal value.negated = -literal value) :
    (⟨.ofRing divide round, literal, number, flag⟩ : Interpretation A B f K).ExactSums where
  add _ _ := rfl
  subtract _ _ := rfl
  literal_negated := hnegated

namespace Numeric

variable {A B K : Type} {f : Format}

/-- Whether somewhere in a statement an operation of a scaling has another operation of the same
scaling on its right. -/
def nestsOnRight (scaling : Scaling) : Numeric A B f → Bool
  | literal _ | var _ => false
  | additive _ _ left right => left.nestsOnRight scaling || right.nestsOnRight scaling
  | scaled _ own left right =>
    own == scaling && right.scaledBy scaling || left.nestsOnRight scaling ||
      right.nestsOnRight scaling
  | round _ _ operand => operand.nestsOnRight scaling
  | ternary _ _ ifTrue otherwise => ifTrue.nestsOnRight scaling || otherwise.nestsOnRight scaling

/-- Where a scaling is associative, putting factors behind a chain is scaling by the value of their
statement. -/
lemma evaluate_appendFactors {I : Interpretation A B f K} {scaling : Scaling}
    (hassoc : ∀ x y z : K, I.arithmetic.scale scaling x (I.arithmetic.scale scaling y z) =
      I.arithmetic.scale scaling (I.arithmetic.scale scaling x y) z)
    (chain : Numeric A B f) (id : Id) (s : Numeric A B f) :
    (appendFactors scaling chain id s).evaluate I =
      I.arithmetic.scale scaling (chain.evaluate I) (s.evaluate I) := by
  induction s generalizing chain id with
  | literal value => rfl
  | var v => rfl
  | additive id' sign left right => rfl
  | scaled id' own left right ihl ihr =>
    by_cases hown : own = scaling
    · rw [appendFactors, if_pos hown, ihr, ihl, evaluate_scaled, hown, hassoc]
    · rw [appendFactors, if_neg hown, evaluate_scaled]
  | round id' mode operand => rfl
  | ternary id' condition ifTrue otherwise => rfl

end Numeric

section ExactSums

variable {A B K : Type} {f : Format} [AddCommGroup K] {I : Interpretation A B f K}

/-- In exact arithmetic a chain is attached with the signs of its terms flipped behind a minus. -/
lemma Interpretation.ExactSums.attach_attach (hI : I.ExactSums) (outer inner : Sign) (x y z : K) :
    I.arithmetic.attach (outer.behind inner) (I.arithmetic.attach outer x y) z =
      I.arithmetic.attach outer x (I.arithmetic.attach inner y z) := by
  cases outer <;> cases inner <;>
    simp only [Arithmetic.attach, Sign.behind, Sign.flipped, hI.add, hI.subtract] <;> abel

/-- In exact arithmetic an opposite is attached with the other sign. -/
lemma Interpretation.ExactSums.attach_flipped_negated (hI : I.ExactSums) (sign : Sign) (x : K)
    (value : FiniteNumber f) :
    I.arithmetic.attach sign.flipped x (I.literal value.negated) =
      I.arithmetic.attach sign x (I.literal value) := by
  cases sign <;>
    simp only [Arithmetic.attach, Sign.flipped, hI.add, hI.subtract, hI.literal_negated] <;> abel

namespace Numeric

/-- In exact arithmetic, putting terms behind a chain is attaching the value of their statement. -/
lemma evaluate_appendTerms (hI : I.ExactSums) (chain : Numeric A B f) (id : Id) (sign : Sign)
    (s : Numeric A B f) :
    (appendTerms chain id sign s).evaluate I =
      I.arithmetic.attach sign (chain.evaluate I) (s.evaluate I) := by
  induction s generalizing chain id sign with
  | literal value =>
    rw [appendTerms]
    split
    · exact hI.attach_flipped_negated sign _ value
    · rfl
  | var v => rfl
  | additive id' inner left right ihl ihr =>
    rw [appendTerms, ihr, ihl, hI.attach_attach, evaluate_additive]
  | scaled id' scaling left right => rfl
  | round id' mode operand => rfl
  | ternary id' condition ifTrue otherwise => rfl

/-- In exact arithmetic regrouping keeps the value of a statement, provided that each scaling that
is nested on the right somewhere in it is associative. -/
theorem evaluate_regrouped (hI : I.ExactSums) (s : Numeric A B f)
    (hassoc : ∀ scaling, s.nestsOnRight scaling = true → ∀ x y z : K,
      I.arithmetic.scale scaling x (I.arithmetic.scale scaling y z) =
        I.arithmetic.scale scaling (I.arithmetic.scale scaling x y) z) :
    s.regrouped.evaluate I = s.evaluate I := by
  induction s with
  | literal value => rfl
  | var v => rfl
  | additive id sign left right ihl ihr =>
    have hleft := ihl fun scaling h => hassoc scaling (by simp [nestsOnRight, h])
    have hright := ihr fun scaling h => hassoc scaling (by simp [nestsOnRight, h])
    rw [regrouped, evaluate_appendTerms hI, hleft, hright, evaluate_additive]
  | scaled id scaling left right ihl ihr =>
    have hleft := ihl fun scaling h => hassoc scaling (by simp [nestsOnRight, h])
    have hright := ihr fun scaling h => hassoc scaling (by simp [nestsOnRight, h])
    rw [regrouped, evaluate_scaled, ← hleft, ← hright]
    cases hroot : right.scaledBy scaling with
    | false =>
      have hregrouped : right.regrouped.scaledBy scaling = false := by
        rw [right.regrouped_root.2.2, hroot]
      rw [appendFactors_of_scaledBy_eq_false hregrouped, evaluate_scaled]
    | true =>
      exact evaluate_appendFactors (hassoc scaling (by simp [nestsOnRight, hroot])) ..
  | round id mode operand ih =>
    have hoperand := ih fun scaling h => hassoc scaling (by simpa [nestsOnRight] using h)
    rw [regrouped, evaluate_round, hoperand, evaluate_round]
  | ternary id condition ifTrue otherwise iht iho =>
    have hifTrue := iht fun scaling h => hassoc scaling (by simp [nestsOnRight, h])
    have hotherwise := iho fun scaling h => hassoc scaling (by simp [nestsOnRight, h])
    rw [regrouped, evaluate_ternary, Boolean.evaluate_regrouped, hifTrue, hotherwise,
      evaluate_ternary]

end Numeric

end ExactSums

end PriorityFormula
