import PriorityFormula.Context
import PriorityFormula.Proofs.Normalize.Derivation
import PriorityFormula.Proofs.Number.Exact

/-!
# Normalized numeric statements

Normalizing fails at the leftmost operand of a sum or difference that is an operation of another
kind. Where it succeeds, the result is the regrouped statement, except that the sums and differences
merged into a chain have fresh identities. Hence the same variables are read in the same order, and
the value is the same wherever sums are exact.
-/

namespace PriorityFormula.Numeric

variable {A B : Type} {f : Format}

/-- The kind of the leftmost operation in a tree of sums and differences that has no normal form. -/
def obstacle : Numeric A B f → Option Kind
  | literal _ | var _ => none
  | additive _ _ left right => left.obstacle.or right.obstacle
  | scaled _ .multiply _ _ => some .product
  | scaled _ .divide _ _ => some .quotient
  | round .. => some .round
  | ternary .. => some .numericalTernary

/-- No scaling nests where there is no obstacle to normalizing. -/
lemma nestsOnRight_of_obstacle_eq_none {s : Numeric A B f} (h : s.obstacle = none)
    (scaling : Scaling) : s.nestsOnRight scaling = false := by
  induction s with
  | literal value => rfl
  | var v => rfl
  | additive id sign left right ihl ihr =>
    obtain ⟨hleft, hright⟩ := Option.or_eq_none_iff.mp h
    rw [nestsOnRight, ihl hleft, ihr hright, Bool.or_false]
  | scaled id own left right => cases own <;> cases h
  | round id mode operand => cases h
  | ternary id condition ifTrue otherwise => cases h

/-- The outcome of normalizing is the regrouped statement up to identities, and there was no
obstacle. -/
lemma Normalizes.withoutIds_eq {s : Numeric A B f} {n : Normalized (Numeric A B f)}
    {index last : Nat} (h : Normalizes index s n last) :
    s.obstacle = none ∧ n.statement.withoutIds = s.regrouped.withoutIds := by
  induction h with
  | literal index value => exact ⟨rfl, rfl⟩
  | var index v => exact ⟨rfl, rfl⟩
  | kept id sign hleft hright hmergeable ihl ihr =>
    obtain ⟨hadditive, hnegative⟩ := Bool.or_eq_false_iff.mp hmergeable
    refine ⟨Option.or_eq_none_iff.mpr ⟨ihl.1, ihr.1⟩, ?_⟩
    rw [← appendTerms_eq_additive hadditive hnegative, withoutIds_appendTerms, ihl.2, ihr.2,
      regrouped, withoutIds_appendTerms]
  | merged id sign hleft hright hmergeable ihl ihr =>
    refine ⟨Option.or_eq_none_iff.mpr ⟨ihl.1, ihr.1⟩, ?_⟩
    rw [withoutIds_chainFrom_terms _ _ id, withoutIds_appendTerms, ihl.2, ihr.2, regrouped,
      withoutIds_appendTerms]

/-- Where normalizing a statement succeeds, there was no obstacle and the result is the regrouped
statement up to identities. -/
lemma withoutIds_of_tryNormalize_eq_ok {s : Numeric A B f} {n : Normalized (Numeric A B f)}
    {σ σ' : Session} (h : s.tryNormalize.run.run σ = (.ok n, σ')) :
    s.obstacle = none ∧ n.statement.withoutIds = s.regrouped.withoutIds :=
  (normalizes_of_tryNormalize_eq_ok h).withoutIds_eq

/-- A normalized statement reads the same variables in the same order as the original one, in every
arithmetic, and wherever sums are exact it has the same value. -/
theorem exact_of_tryNormalize_eq_ok {s : Numeric A B f} {n : Normalized (Numeric A B f)}
    {σ σ' : Session} (h : s.tryNormalize.run.run σ = (.ok n, σ')) :
    (∀ (K : Type) (I : Interpretation A B f K), (n.statement.trace I).reads = (s.trace I).reads) ∧
      ∀ (K : Type) [AddCommGroup K] (I : Interpretation A B f K), I.ExactSums →
        n.statement.evaluate I = s.evaluate I := by
  obtain ⟨hobstacle, hids⟩ := withoutIds_of_tryNormalize_eq_ok h
  constructor
  · intro K I
    rw [trace_eq_of_withoutIds_eq hids, reads_trace_regrouped]
  · intro K _ I hI
    have hvalue : s.regrouped.evaluate I = s.evaluate I := by
      apply evaluate_regrouped hI
      intro scaling hnests
      rw [nestsOnRight_of_obstacle_eq_none hobstacle] at hnests
      cases hnests
    rw [← hvalue, evaluate, trace_eq_of_withoutIds_eq hids, evaluate]

/-- Differences nested to the right of a difference are merged with their signs flipped, also where
they begin with a literal below zero. The rational value is kept. -/
theorem exact_of_tryNormalize_differences :
    let two : FiniteNumber .double := ⟨false, 0x4000000000000000, by decide⟩
    let s : Quantity .double := .additive ⟨2⟩ .minus (Quantity.urgency .double)
      (.additive ⟨1⟩ .minus (.literal two.negated)
        (.additive ⟨0⟩ .plus (Quantity.impact .double) (.literal two)))
    let I : Interpretation (NumberSource .double) FlagSource .double ℚ :=
      ⟨.ofRing (fun x y => x / y) fun _ x => x.floor, FiniteNumber.exact,
        fun source => if source = .urgency then 1 / 3 else 1 / 7, fun _ => false⟩
    ∃ n σ', s.tryNormalize.run.run ⟨3, []⟩ = (.ok n, σ') ∧
      n.statement.text = "urgency + 2 + impact + 2".toList ∧
        (n.statement.trace I).reads = (s.trace I).reads ∧
          n.statement.evaluate I = s.evaluate I := by
  intro two s I
  have hI : I.ExactSums :=
    Interpretation.exactSums_ofRing _ _ _ _ FiniteNumber.exact_negated
  have hexact := exact_of_tryNormalize_eq_ok (s := s) (σ := ⟨3, []⟩) rfl
  exact ⟨_, _, rfl, by decide +kernel, hexact.1 ℚ I, hexact.2 ℚ I hI⟩

end PriorityFormula.Numeric
