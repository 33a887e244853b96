import Mathlib.Algebra.Ring.Rat
import PriorityFormula.Proofs.Number.Numeral

/-!
# Exact values

Every finite number stands for a rational number, and opposite numbers stand for opposite ones. The
two zeros stand for the same number.
-/

namespace PriorityFormula

variable {f : Format}

/-- The rational number that a finite number stands for. -/
def FiniteNumber.exact (x : FiniteNumber f) : ℚ :=
  mkRat x.units (2 ^ f.scale)

/-- The rational number that a number stands for, if it is finite. -/
def Number.exact : Number f → ℚ
  | finite x => x.exact
  | infinite _ | undefined => 0

/-- Opposite numbers stand for opposite rational numbers. -/
lemma FiniteNumber.exact_negated (x : FiniteNumber f) : x.negated.exact = -x.exact := by
  rw [exact, units_negated, ← Rat.neg_mkRat, exact]

/-- The sign of a zero does not matter for the rational number that it stands for. -/
lemma FiniteNumber.exact_unsignedZero (x : FiniteNumber f) : x.unsignedZero.exact = x.exact := by
  cases hzero : x.isZero with
  | false => rw [unsignedZero_eq_self hzero]
  | true =>
    have hmagnitude : x.magnitude = 0 := by
      have hrank : x.rank = 0 := by simpa [isZero] using hzero
      simp [magnitude, hrank, Format.magnitude, Format.significand]
    have hunits : ∀ y : FiniteNumber f, y.magnitude = 0 → y.units = 0 := by
      intro y hy
      simp [units, hy]
    rw [exact, exact, hunits x hmagnitude, hunits x.unsignedZero hmagnitude]

end PriorityFormula
