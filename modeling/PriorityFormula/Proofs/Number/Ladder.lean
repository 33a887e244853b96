import Mathlib.Order.Monotone.Basic
import Mathlib.Tactic.ByContra
import Mathlib.Tactic.Lemma
import PriorityFormula.Number.Format

/-!
# The ladder of magnitudes

The magnitudes of the rungs strictly increase, and coming down from a count of units ends at the
rung whose magnitude is at most that count while that of the next one is not.

What a ratio is rounded to is decided by the middles between neighbouring rungs: it is rounded to
at most a rung exactly if it lies below the middle above that rung, or in the middle if the rung is
even. This one equivalence says all about rounding. It shows that greater ratios are not rounded to
lower rungs, that rounding sees a ratio only by its value, and that a ratio equal to a magnitude is
rounded to its rung.
-/

namespace PriorityFormula

namespace Format

variable {f : Format}

/-- A format keeps at least one significant bit. -/
lemma precision_pos (f : Format) : 0 < f.precision := by
  cases f <;> decide

/-- A binade is not empty. -/
lemma binade_pos (f : Format) : 0 < f.binade :=
  Nat.two_pow_pos _

/-- Two binades hold as many rungs as there are significands. -/
lemma two_mul_binade (f : Format) : 2 * f.binade = 2 ^ f.precision := by
  have hp := f.precision_pos
  rw [binade, ← Nat.pow_succ']
  congr 1
  omega

/-! ### Where a rung lies in its binade -/

/-- The rungs of the lowest binade are spaced by one unit. -/
lemma spacing_of_lt_binade {rank : Nat} (h : rank < f.binade) : f.spacing rank = 0 := by
  rw [spacing, Nat.div_eq_of_lt h]

/-- The rungs of the lowest binade are their own significands. -/
lemma significand_of_lt_binade {rank : Nat} (h : rank < f.binade) : f.significand rank = rank := by
  rw [significand, spacing_of_lt_binade h, Nat.zero_mul, Nat.sub_zero]

/-- The significand of a rung is what lies above the binades that the spacing counts. -/
lemma spacing_mul_binade_add_significand (f : Format) (rank : Nat) :
    f.spacing rank * f.binade + f.significand rank = rank := by
  have hle : f.spacing rank * f.binade ≤ rank :=
    Nat.le_trans (Nat.mul_le_mul_right _ (Nat.sub_le _ _)) (Nat.div_mul_le_self _ _)
  rw [significand]
  omega

/-! ### Climbing the ladder -/

/-- The next rung is either in the same binade or the first one of the next binade. -/
lemma spacing_succ (f : Format) (rank : Nat) :
    f.spacing (rank + 1) = f.spacing rank ∨
      (f.spacing (rank + 1) = f.spacing rank + 1 ∧
        f.significand (rank + 1) = f.binade ∧ f.significand rank + 1 = 2 * f.binade) := by
  have hrank := f.spacing_mul_binade_add_significand rank
  have hnext := f.spacing_mul_binade_add_significand (rank + 1)
  have hquotient := Nat.succ_div (a := rank) (b := f.binade)
  by_cases hdvd : f.binade ∣ rank + 1
  · rw [if_pos hdvd] at hquotient
    cases hlow : rank / f.binade with
    | zero =>
      left
      rw [spacing, spacing, hquotient, hlow]
    | succ q =>
      right
      have hspacing : f.spacing rank = q := by rw [spacing, hlow, Nat.add_sub_cancel]
      have hspacing' : f.spacing (rank + 1) = q + 1 := by
        rw [spacing, hquotient, hlow, Nat.add_sub_cancel]
      have hwhole : (q + 1 + 1) * f.binade = rank + 1 := by
        rw [← hlow, ← hquotient]
        exact Nat.div_mul_cancel hdvd
      rw [hspacing'] at hnext
      rw [hspacing] at hrank
      simp only [Nat.add_mul] at hwhole hnext
      rw [hspacing, hspacing']
      exact ⟨rfl, by omega, by omega⟩
  · left
    rw [if_neg hdvd] at hquotient
    rw [spacing, spacing, hquotient, Nat.add_zero]

/-- The gap above a rung is the one that its spacing tells. -/
lemma magnitude_succ (f : Format) (rank : Nat) :
    f.magnitude (rank + 1) = f.magnitude rank + 2 ^ f.spacing rank := by
  have hrank := f.spacing_mul_binade_add_significand rank
  have hnext := f.spacing_mul_binade_add_significand (rank + 1)
  rw [magnitude, magnitude]
  rcases f.spacing_succ rank with hsame | ⟨hspacing, hlow, hhigh⟩
  · rw [hsame] at hnext ⊢
    have hsignificand : f.significand (rank + 1) = f.significand rank + 1 := by omega
    rw [hsignificand, Nat.succ_mul]
  · rw [hspacing, hlow, Nat.pow_succ', ← Nat.succ_mul, Nat.succ_eq_add_one, hhigh,
      ← Nat.mul_assoc, Nat.mul_comm f.binade]

/-- The next rung up has a greater magnitude. -/
lemma magnitude_lt_magnitude_succ (f : Format) (rank : Nat) :
    f.magnitude rank < f.magnitude (rank + 1) := by
  rw [magnitude_succ]
  exact Nat.lt_add_of_pos_right (Nat.two_pow_pos _)

/-- The magnitudes ascend. -/
lemma strictMono_magnitude (f : Format) : StrictMono f.magnitude :=
  strictMono_nat_of_lt_succ f.magnitude_lt_magnitude_succ

/-- The lowest rung is zero. -/
@[simp] lemma magnitude_zero (f : Format) : f.magnitude 0 = 0 := by
  rw [magnitude, significand_of_lt_binade f.binade_pos, Nat.zero_mul]

/-! ### Coming down again -/

/-- The leading bits of a count, as many as the precision allows, make up a significand with its
leading bit. -/
lemma leadingBits_div_binade {units : Nat} (h : f.precision ≤ units.log2) :
    units / 2 ^ (units.log2 + 1 - f.precision) / f.binade = 1 := by
  have hprecision := f.precision_pos
  have hpow : 0 < 2 ^ (units.log2 + 1 - f.precision) := Nat.two_pow_pos _
  have hne : units ≠ 0 := by
    rintro rfl
    rw [Nat.log2_zero] at h
    omega
  apply Nat.div_eq_of_lt_le
  · have hexponent : f.precision - 1 + (units.log2 + 1 - f.precision) = units.log2 := by omega
    rw [Nat.one_mul, Nat.le_div_iff_mul_le hpow, binade, ← Nat.pow_add, hexponent]
    exact Nat.log2_self_le hne
  · have hexponent : f.precision + (units.log2 + 1 - f.precision) = units.log2 + 1 := by omega
    rw [two_mul_binade, Nat.div_lt_iff_lt_mul hpow, ← Nat.pow_add, hexponent]
    exact Nat.lt_log2_self

/-- The spacing at the rung below a count of units leaves as many bits of the count as the precision
allows. -/
lemma spacing_floorRank (f : Format) (units : Nat) :
    f.spacing (f.floorRank units) = units.log2 + 1 - f.precision := by
  have hrank : f.floorRank units = (units.log2 + 1 - f.precision) * f.binade +
      units / 2 ^ (units.log2 + 1 - f.precision) := rfl
  rw [spacing, hrank, Nat.add_comm, Nat.add_mul_div_right _ _ f.binade_pos]
  rcases Nat.lt_or_ge units.log2 f.precision with hlow | hhigh
  · -- All bits of the count fit, so the rung is in one of the two lowest binades.
    have hunits : units < f.binade * 2 := by
      rw [Nat.mul_comm, two_mul_binade]
      exact Nat.lt_of_lt_of_le Nat.lt_log2_self (Nat.pow_le_pow_right (by decide) hlow)
    have hquotient : units / f.binade < 2 := Nat.div_lt_of_lt_mul hunits
    rw [Nat.sub_eq_zero_of_le hlow, Nat.pow_zero, Nat.div_one]
    omega
  · rw [leadingBits_div_binade hhigh]
    omega

/-- The significand of the rung below a count of units are the leading bits of the count. -/
lemma significand_floorRank (f : Format) (units : Nat) :
    f.significand (f.floorRank units) = units / 2 ^ (units.log2 + 1 - f.precision) := by
  rw [significand, spacing_floorRank]
  simp only [floorRank, Nat.add_sub_cancel_left]

/-- The rung below a count of units has at most that magnitude. -/
lemma magnitude_floorRank_le (f : Format) (units : Nat) :
    f.magnitude (f.floorRank units) ≤ units := by
  rw [magnitude, spacing_floorRank, significand_floorRank]
  exact Nat.div_mul_le_self _ _

/-- The next rung above it has a greater one. -/
lemma lt_magnitude_floorRank_succ (f : Format) (units : Nat) :
    units < f.magnitude (f.floorRank units + 1) := by
  rw [magnitude_succ, magnitude, spacing_floorRank, significand_floorRank]
  exact Nat.lt_div_mul_add (Nat.two_pow_pos _)

/-! ### Rounding exact ratios -/

/-- A ratio is rounded to at most a rung exactly if it lies below the middle between that rung and
the next one, or just in the middle if the rung is even. -/
lemma nearestRank_le_iff (f : Format) {num den rank : Nat} (hden : 0 < den) :
    f.nearestRank num den ≤ rank ↔
      2 * num < (f.magnitude rank + f.magnitude (rank + 1)) * den ∨
        2 * num = (f.magnitude rank + f.magnitude (rank + 1)) * den ∧ rank % 2 = 0 := by
  obtain ⟨below, hbelow⟩ : ∃ below, f.floorRank (num / den) = below := ⟨_, rfl⟩
  have hlow : f.magnitude below * den ≤ num :=
    (Nat.le_div_iff_mul_le hden).mp (hbelow ▸ f.magnitude_floorRank_le _)
  have hhigh : num < f.magnitude (below + 1) * den :=
    (Nat.div_lt_iff_lt_mul hden).mp (hbelow ▸ f.lt_magnitude_floorRank_succ _)
  have hrank : below ≤ f.nearestRank num den ∧ f.nearestRank num den ≤ below + 1 := by
    simp only [nearestRank, hbelow]
    split
    · omega
    · omega
    · split <;> omega
  rcases Nat.lt_trichotomy rank below with hlt | rfl | hgt
  · -- Two times the ratio is beyond the sum of any two rungs that are not above the one below it.
    have hsum : f.magnitude rank + f.magnitude (rank + 1) < f.magnitude below + f.magnitude below :=
      Nat.add_lt_add_of_lt_of_le (f.strictMono_magnitude hlt) (f.strictMono_magnitude.monotone hlt)
    have hmul := Nat.mul_lt_mul_of_pos_right hsum hden
    rw [Nat.add_mul (f.magnitude below)] at hmul
    omega
  · have hcases : f.nearestRank num den ≤ rank ↔ ¬ f.nearestRank num den = rank + 1 := by omega
    rw [hcases]
    simp only [nearestRank, hbelow]
    split
    · next hcompare =>
      have hlt := Nat.compare_eq_lt.mp hcompare
      exact iff_of_true (by omega) (.inl hlt)
    · next hcompare =>
      have hgt := Nat.compare_eq_gt.mp hcompare
      exact iff_of_false (by omega) (by omega)
    · next hcompare =>
      have heq := Nat.compare_eq_eq.mp hcompare
      split <;> omega
  · have hsum : f.magnitude (below + 1) + f.magnitude (below + 1) <
        f.magnitude rank + f.magnitude (rank + 1) :=
      Nat.add_lt_add_of_le_of_lt (f.strictMono_magnitude.monotone hgt)
        (f.strictMono_magnitude (Nat.lt_succ_of_le hgt))
    have hmul := Nat.mul_lt_mul_of_pos_right hsum hden
    rw [Nat.add_mul (f.magnitude (below + 1))] at hmul
    omega

/-- A greater ratio is not rounded to a lower rung. -/
lemma nearestRank_mono (f : Format) {num num' den den' : Nat} (hden : 0 < den) (hden' : 0 < den')
    (h : num * den' ≤ num' * den) : f.nearestRank num den ≤ f.nearestRank num' den' := by
  obtain ⟨rank, hrank⟩ : ∃ rank, f.nearestRank num' den' = rank := ⟨_, rfl⟩
  obtain ⟨middle, hmiddle⟩ :
      ∃ middle, f.magnitude rank + f.magnitude (rank + 1) = middle := ⟨_, rfl⟩
  have hle : 2 * num * den' ≤ 2 * num' * den := by
    rw [Nat.mul_assoc, Nat.mul_assoc]
    exact Nat.mul_le_mul_left 2 h
  rw [hrank, f.nearestRank_le_iff hden, hmiddle]
  have hupper := (f.nearestRank_le_iff hden').mp (Nat.le_of_eq hrank)
  rw [hmiddle] at hupper
  rcases hupper with hlt | ⟨heq, heven⟩
  · left
    have hmul : 2 * num' * den < middle * den' * den := Nat.mul_lt_mul_of_pos_right hlt hden
    rw [Nat.mul_right_comm middle] at hmul
    exact Nat.lt_of_mul_lt_mul_right (Nat.lt_of_le_of_lt hle hmul)
  · have hmul : 2 * num' * den = middle * den * den' := by rw [heq, Nat.mul_right_comm]
    have hbelow : 2 * num ≤ middle * den :=
      Nat.le_of_mul_le_mul_right (hmul ▸ hle) hden'
    rcases Nat.lt_or_eq_of_le hbelow with hlt | heq'
    · exact .inl hlt
    · exact .inr ⟨heq', heven⟩

/-- Rounding sees a ratio only by its value. -/
lemma nearestRank_congr (f : Format) {num num' den den' : Nat} (hden : 0 < den) (hden' : 0 < den')
    (h : num * den' = num' * den) : f.nearestRank num den = f.nearestRank num' den' :=
  Nat.le_antisymm (f.nearestRank_mono hden hden' (Nat.le_of_eq h))
    (f.nearestRank_mono hden' hden (Nat.le_of_eq h.symm))

/-- A ratio equal to the magnitude of a rung is rounded to that rung. -/
lemma nearestRank_magnitude_mul (f : Format) (rank : Nat) {den : Nat} (hden : 0 < den) :
    f.nearestRank (f.magnitude rank * den) den = rank := by
  have hstep := f.magnitude_lt_magnitude_succ
  apply Nat.le_antisymm
  · rw [f.nearestRank_le_iff hden]
    left
    rw [← Nat.mul_assoc]
    have hrank := hstep rank
    exact Nat.mul_lt_mul_of_pos_right (by omega) hden
  · by_contra hlt
    obtain ⟨below, rfl⟩ := Nat.exists_eq_succ_of_ne_zero (Nat.ne_zero_of_lt (Nat.not_le.mp hlt))
    have hle := Nat.le_of_lt_succ (Nat.not_le.mp hlt)
    rw [f.nearestRank_le_iff hden, ← Nat.mul_assoc, Nat.succ_eq_add_one] at hle
    have hbelow := hstep below
    have hmul : (f.magnitude below + f.magnitude (below + 1)) * den <
        2 * f.magnitude (below + 1) * den :=
      Nat.mul_lt_mul_of_pos_right (by omega) hden
    omega

end Format

end PriorityFormula
