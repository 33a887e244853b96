import Mathlib.Algebra.Order.Field.Basic
import Mathlib.Algebra.Order.Ring.Rat
import Mathlib.Tactic.Linarith
import Mathlib.Tactic.Positivity
import Mathlib.Tactic.Ring
import PriorityFormula.Proofs.Number.Exact

/-!
# Reading gives the nearest number

A numeral stands for a rational number, which is in general none of a format. What it is read as is
the nearest number of the format: every other one is farther away, or just as far, and then the
number that is chosen has the even rank.
-/

namespace PriorityFormula

/-! ### Distances -/

/-- The lesser of two numbers is the closer one below the middle between them. -/
lemma closer_or_halfway_of_lt {v a b : ℚ} (hab : a < b) (h : 2 * v ≤ a + b) :
    |v - a| < |v - b| ∨ |v - a| = |v - b| ∧ 2 * v = a + b := by
  rcases h.lt_or_eq with hlt | heq
  · left
    have hsquares : (v - b) ^ 2 - (v - a) ^ 2 = (b - a) * (a + b - 2 * v) := by ring
    rw [← sq_lt_sq, ← sub_pos, hsquares]
    exact mul_pos (sub_pos.mpr hab) (sub_pos.mpr hlt)
  · right
    have hmirror : v - a = b - v := by linarith
    exact ⟨by rw [hmirror, abs_sub_comm], heq⟩

/-- The greater of two numbers is the closer one above the middle between them. -/
lemma closer_or_halfway_of_gt {v a b : ℚ} (hba : b < a) (h : a + b ≤ 2 * v) :
    |v - a| < |v - b| ∨ |v - a| = |v - b| ∧ 2 * v = a + b := by
  have hmirror := closer_or_halfway_of_lt (v := -v) (neg_lt_neg hba) (by linarith)
  rw [neg_sub_neg, neg_sub_neg, abs_sub_comm a, abs_sub_comm b] at hmirror
  exact hmirror.imp_right fun ⟨heq, hmiddle⟩ => ⟨heq, by linarith⟩

/-! ### The nearest rung -/

namespace Format

variable {f : Format}

/-- A ratio is rounded to at most a rung exactly if it lies below the middle above that rung, or in
the middle if the rung is even. -/
lemma nearestRank_le_iff_div (f : Format) (num : Nat) {den : Nat} (hden : 0 < den) (rank : Nat) :
    f.nearestRank num den ≤ rank ↔
      2 * (num / den : ℚ) < f.magnitude rank + f.magnitude (rank + 1) ∨
        2 * (num / den : ℚ) = f.magnitude rank + f.magnitude (rank + 1) ∧ rank % 2 = 0 := by
  have hpos : (0 : ℚ) < den := by exact_mod_cast hden
  rw [f.nearestRank_le_iff hden, ← mul_div_assoc, div_lt_iff₀ hpos, div_eq_iff hpos.ne']
  exact_mod_cast Iff.rfl

/-- No rung is nearer to a ratio than the one that it is rounded to, and one that is just as near
leaves the choice to the even rank. -/
lemma closer_nearestRank (f : Format) (num : Nat) {den rank other : Nat} (hden : 0 < den)
    (hrank : f.nearestRank num den = rank) (hne : other ≠ rank) :
    |(num / den : ℚ) - f.magnitude rank| < |(num / den : ℚ) - f.magnitude other| ∨
      |(num / den : ℚ) - f.magnitude rank| = |(num / den : ℚ) - f.magnitude other| ∧
        rank % 2 = 0 := by
  have hmono : ∀ {a b : Nat}, a ≤ b → (f.magnitude a : ℚ) ≤ f.magnitude b :=
    fun h => by exact_mod_cast f.strictMono_magnitude.monotone h
  have hlt : ∀ {a b : Nat}, a < b → (f.magnitude a : ℚ) < f.magnitude b :=
    fun h => by exact_mod_cast f.strictMono_magnitude h
  have hmiddles := f.nearestRank_le_iff_div num hden
  rw [hrank] at hmiddles
  generalize (num / den : ℚ) = v at hmiddles ⊢
  rcases Nat.lt_or_gt_of_ne hne with hbelow | habove
  · obtain ⟨below, rfl⟩ := Nat.exists_eq_succ_of_ne_zero (Nat.ne_zero_of_lt hbelow)
    have hlower := mt (hmiddles below).mpr (Nat.not_succ_le_self below)
    have hother := hmono (Nat.le_of_lt_succ hbelow)
    rw [not_or, not_lt, not_and] at hlower
    rcases closer_or_halfway_of_gt (hlt hbelow) (by linarith [hlower.1]) with
      hcloser | ⟨heq, hmiddle⟩
    · exact .inl hcloser
    · -- The ratio is just in the middle to the next rung below, which is odd.
      have hodd := hlower.2 (le_antisymm (by linarith) hlower.1)
      exact .inr ⟨heq, by omega⟩
  · have hupper := (hmiddles rank).mp (Nat.le_refl rank)
    have hother := hmono (Nat.succ_le_of_lt habove)
    rcases closer_or_halfway_of_lt (hlt habove)
      (by rcases hupper with h | ⟨h, _⟩ <;> linarith) with hcloser | ⟨heq, hmiddle⟩
    · exact .inl hcloser
    · rcases hupper with hstrict | ⟨_, heven⟩
      · linarith
      · exact .inr ⟨heq, heven⟩

end Format

/-! ### The nearest number -/

/-- The rational number that a decimal stands for. -/
def Decimal.value (d : Decimal) : ℚ :=
  d.digits / 10 ^ d.places

/-- The rational number that a decimal stands for behind a minus or without one. -/
def Decimal.signedValue (negative : Bool) (d : Decimal) : ℚ :=
  if negative then -d.value else d.value

namespace FiniteNumber

variable {f : Format}

/-- A finite number is nearest to a rational number if every other one is farther away, or just as
far, and then the nearest one has the even rank. -/
def IsNearest (x : FiniteNumber f) (q : ℚ) : Prop :=
  ∀ y : FiniteNumber f, y.exact ≠ x.exact →
    |q - x.exact| < |q - y.exact| ∨ |q - x.exact| = |q - y.exact| ∧ x.rank % 2 = 0

/-- A finite number stands for as many units as it counts. -/
lemma exact_eq_div (x : FiniteNumber f) : x.exact = x.units / 2 ^ f.scale := by
  rw [exact, Rat.mkRat_eq_div]
  push_cast
  rfl

/-- What is nearest to a number is the opposite of what is nearest to its opposite. -/
lemma IsNearest.negated {x : FiniteNumber f} {q : ℚ} (h : x.IsNearest q) :
    x.negated.IsNearest (-q) := by
  have hdistance : ∀ z : FiniteNumber f, |-q - z.negated.exact| = |q - z.exact| := by
    intro z
    rw [exact_negated, neg_sub_neg, abs_sub_comm]
  intro y hy
  have hne : y.negated.exact ≠ x.exact := by
    intro heq
    apply hy
    rw [exact_negated, ← heq, exact_negated, neg_neg]
  have hcloser := h y.negated hne
  rw [← hdistance x, ← hdistance y.negated, negated_negated] at hcloser
  exact hcloser

/-- Distances may be taken in units. -/
lemma isNearest_iff_units {x : FiniteNumber f} {q : ℚ} :
    x.IsNearest (q / 2 ^ f.scale) ↔ ∀ y : FiniteNumber f, y.units ≠ x.units →
      |q - x.units| < |q - y.units| ∨ |q - x.units| = |q - y.units| ∧ x.rank % 2 = 0 := by
  have hpos : (0 : ℚ) < 2 ^ f.scale := pow_pos two_pos _
  have hdistance : ∀ z : FiniteNumber f,
      |q / 2 ^ f.scale - z.exact| = |q - z.units| / 2 ^ f.scale := by
    intro z
    rw [exact_eq_div, ← sub_div, abs_div, abs_of_pos hpos]
  have hexact : ∀ y : FiniteNumber f, y.exact = x.exact ↔ y.units = x.units := by
    intro y
    rw [exact_eq_div, exact_eq_div, div_left_inj' hpos.ne', Int.cast_inj]
  simp only [IsNearest, hdistance, ne_eq, hexact, div_lt_div_iff_of_pos_right hpos,
    div_left_inj' hpos.ne']

/-- Among all numbers, also those below zero, the one at the nearest rung is nearest to a ratio of
units. -/
lemma isNearest_nearestRank {num den : Nat} (hden : 0 < den) {x : FiniteNumber f}
    (hsign : x.negative = false) (hrank : f.nearestRank num den = x.rank) :
    x.IsNearest (num / den / 2 ^ f.scale) := by
  rw [isNearest_iff_units]
  have hx : (x.units : ℚ) = f.magnitude x.rank := by
    rw [units, hsign]
    exact Int.cast_natCast _
  have hmagnitude : ∀ y : FiniteNumber f, y.magnitude = f.magnitude y.rank := fun _ => rfl
  have hratio : (0 : ℚ) ≤ num / den := by positivity
  intro y hy
  -- A number below zero is farther away than zero, and zero is farther away than the nearest rung.
  by_cases hnegative : y.units < 0
  · left
    have hzero : |(num / den : ℚ) - x.units| ≤ |(num / den : ℚ) - f.magnitude 0| := by
      rw [hx]
      by_cases hrankZero : x.rank = 0
      · rw [hrankZero]
      · rcases f.closer_nearestRank num hden hrank (Ne.symm hrankZero) with hlt | ⟨heq, _⟩
        · exact hlt.le
        · exact heq.le
    have hunits : (y.units : ℚ) < 0 := by exact_mod_cast hnegative
    rw [Format.magnitude_zero, Nat.cast_zero, sub_zero, abs_of_nonneg hratio] at hzero
    have hfarther : (num / den : ℚ) < num / den - y.units :=
      lt_sub_iff_add_lt.mpr (add_lt_of_neg_right _ hunits)
    exact hzero.trans_lt (hfarther.trans_le (le_abs_self _))
  · have hother : (y.units : ℚ) = f.magnitude y.rank := by
      have hunits : y.units = f.magnitude y.rank := by
        unfold units at hnegative ⊢
        rw [hmagnitude] at hnegative ⊢
        split at hnegative <;> simp_all
      rw [hunits]
      exact Int.cast_natCast _
    rw [hx, hother]
    apply f.closer_nearestRank num hden hrank
    intro heq
    apply hy
    have hcast : (y.units : ℚ) = x.units := by rw [hother, hx, heq]
    exact_mod_cast hcast

end FiniteNumber

/-- What a numeral is read as is nearest to the rational number that the numeral stands for. -/
theorem FiniteNumber.isNearest_of_ofDecimal_eq {f : Format} {negative : Bool} {d : Decimal}
    {x : FiniteNumber f} (h : Number.ofDecimal f negative d = .finite x) :
    x.IsNearest (d.signedValue negative) := by
  have hvalue : d.value = ((d.digits * 2 ^ f.scale : Nat) / (10 ^ d.places : Nat) : ℚ) /
      2 ^ f.scale := by
    push_cast
    rw [Decimal.value, mul_div_right_comm, mul_div_cancel_right₀ _ (pow_ne_zero _ two_ne_zero)]
  have hden : 0 < 10 ^ d.places := Nat.pow_pos (by decide)
  obtain ⟨hback, hsign⟩ := readsBack_of_ofDecimal_eq h
  have hrank : f.nearestRank (d.digits * 2 ^ f.scale) (10 ^ d.places) = x.rank :=
    beq_iff_eq.mp hback
  rw [Decimal.signedValue]
  cases negative with
  | false =>
    have hnearest := isNearest_nearestRank hden hsign hrank
    rw [← hvalue] at hnearest
    exact hnearest
  | true =>
    have hpositive : x.negated.negative = false := by rw [negated, hsign]; rfl
    have hnearest := (isNearest_nearestRank (x := x.negated) hden hpositive hrank).negated
    rw [← hvalue, negated_negated] at hnearest
    exact hnearest

end PriorityFormula
