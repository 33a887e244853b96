import Mathlib.Algebra.Order.Field.Basic
import Mathlib.Algebra.Order.Ring.Rat
import Mathlib.Tactic.FieldSimp
import PriorityFormula.Proofs.Number.Exact

/-!
# Bit patterns

A bit pattern consists of a sign, an exponent field and a fraction field. `valueOfBits` says what
they stand for without any mention of rungs: the fraction field counts parts of the leading bit,
which is added unless the exponent field is zero, and the exponent field is an exponent with a bias.

An exponent field of ones only is kept for infinities and the undefined number. Every other pattern
is that of a finite number, and the number has the value that the fields stand for.
-/

namespace PriorityFormula

namespace Format

/-! ### The fields of a bit pattern -/

/-- The sign of a bit pattern, one below zero. -/
def signField (f : Format) (bits : Nat) : Nat :=
  bits / 2 ^ (f.width - 1) % 2

/-- The exponent field of a bit pattern. -/
def exponentField (f : Format) (bits : Nat) : Nat :=
  bits / 2 ^ (f.precision - 1) % 2 ^ f.exponentBits

/-- The fraction field of a bit pattern. -/
def fractionField (f : Format) (bits : Nat) : Nat :=
  bits % 2 ^ (f.precision - 1)

/-- What an exponent field exceeds its exponent by. -/
def bias (f : Format) : Nat :=
  2 ^ (f.exponentBits - 1) - 1

/-- Whether a bit pattern is one of a finite number: some bit of the exponent field is not set. -/
def IsFinitePattern (f : Format) (bits : Nat) : Prop :=
  f.exponentField bits ≠ 2 ^ f.exponentBits - 1

instance (f : Format) (bits : Nat) : Decidable (f.IsFinitePattern bits) :=
  inferInstanceAs (Decidable (_ ≠ _))

/-- The rational number that a finite pattern stands for. -/
def valueOfBits (f : Format) (bits : Nat) : ℚ :=
  let fraction : ℚ := f.fractionField bits / 2 ^ (f.precision - 1)
  let magnitude : ℚ :=
    if f.exponentField bits = 0 then fraction * 2 ^ (1 - f.bias : ℤ)
    else (1 + fraction) * 2 ^ (f.exponentField bits - f.bias : ℤ)
  (-1) ^ f.signField bits * magnitude

/-! ### The rung of a bit pattern -/

/-- A pattern without its sign is an exponent field and a fraction field. -/
lemma half_eq (f : Format) : 2 ^ (f.width - 1) = f.binade * 2 ^ f.exponentBits := by
  have hwidth : f.width - 1 = f.precision - 1 + f.exponentBits := by cases f <;> rfl
  rw [hwidth, Nat.pow_add, binade]

/-- The exponent field counts the binades below the rung of a pattern. -/
lemma exponentField_eq (f : Format) (bits : Nat) :
    f.exponentField bits = bits % 2 ^ (f.width - 1) / f.binade := by
  rw [half_eq, Nat.mod_mul_right_div_self, exponentField, binade]

/-- The fraction field is the place of the rung of a pattern within its binade. -/
lemma fractionField_eq (f : Format) (bits : Nat) :
    f.fractionField bits = bits % 2 ^ (f.width - 1) % f.binade := by
  rw [half_eq, Nat.mod_mul_right_mod, fractionField, binade]

/-- The rung of a finite pattern is one of a finite magnitude. -/
lemma IsFinitePattern.rank_lt {f : Format} {bits : Nat} (h : f.IsFinitePattern bits) :
    bits % 2 ^ (f.width - 1) < f.infiniteRank := by
  have hfield : f.exponentField bits < 2 ^ f.exponentBits := Nat.mod_lt _ (Nat.two_pow_pos _)
  have hne : f.exponentField bits ≠ 2 ^ f.exponentBits - 1 := h
  rw [infiniteRank, ← Nat.div_lt_iff_lt_mul f.binade_pos, ← exponentField_eq]
  omega

/-- The significand of a rung is the place within its binade, with the leading bit added unless the
binade is the lowest. -/
lemma significand_eq (f : Format) (rank : Nat) :
    f.significand rank = rank % f.binade + if rank / f.binade = 0 then 0 else f.binade := by
  have hrank := Nat.div_add_mod' rank f.binade
  have hspacing := f.spacing_mul_binade_add_significand rank
  rw [spacing] at hspacing
  cases hbinade : rank / f.binade with
  | zero =>
    rw [hbinade] at hrank hspacing
    rw [if_pos rfl]
    omega
  | succ q =>
    rw [hbinade, Nat.succ_mul] at hrank
    rw [hbinade, Nat.add_sub_cancel] at hspacing
    rw [if_neg (Nat.succ_ne_zero q)]
    omega

/-- The least exponent is that of the unit, with the fraction field in front of the point. -/
lemma two_zpow_one_sub_bias (f : Format) :
    (2 : ℚ) ^ (1 - f.bias : ℤ) = 2 ^ (f.precision - 1) / 2 ^ f.scale := by
  have hexponent : (1 - f.bias : ℤ) = (f.precision - 1 : Nat) - f.scale := by cases f <;> rfl
  rw [hexponent, zpow_sub₀ two_ne_zero, zpow_natCast, zpow_natCast]

/-- The magnitude of a rung is what the fields of its pattern stand for. -/
lemma magnitude_eq_fields (f : Format) (bits : Nat) :
    f.magnitude (bits % 2 ^ (f.width - 1)) / 2 ^ f.scale =
      if f.exponentField bits = 0 then
        f.fractionField bits / 2 ^ (f.precision - 1) * (2 : ℚ) ^ (1 - f.bias : ℤ)
      else
        (1 + f.fractionField bits / 2 ^ (f.precision - 1)) *
          (2 : ℚ) ^ (f.exponentField bits - f.bias : ℤ) := by
  rw [magnitude, significand_eq, spacing, ← exponentField_eq, ← fractionField_eq]
  have hbinade : (f.binade : ℚ) = 2 ^ (f.precision - 1) := by
    rw [binade]
    exact Nat.cast_pow 2 _
  cases hfield : f.exponentField bits with
  | zero =>
    rw [if_pos rfl, if_pos rfl, two_zpow_one_sub_bias]
    push_cast
    field_simp
    simp
  | succ exponent =>
    have hexponent : ((exponent + 1 : Nat) - f.bias : ℤ) = exponent + (1 - f.bias) := by
      push_cast
      ring
    rw [if_neg (Nat.succ_ne_zero _), if_neg (Nat.succ_ne_zero _), Nat.add_sub_cancel, hexponent,
      zpow_add₀ two_ne_zero, two_zpow_one_sub_bias, zpow_natCast]
    push_cast
    rw [hbinade]
    field_simp
    ring

end Format

/-! ### The number of a bit pattern -/

variable {f : Format} {bits : Nat}

/-- A finite pattern is one of a finite number, with the sign of the pattern and the rung that the
rest of it counts. -/
lemma Number.exists_ofBits_eq_finite (h : f.IsFinitePattern bits) :
    ∃ x : FiniteNumber f, Number.ofBits f bits = .finite x ∧
      x.negative = (f.signField bits == 1) ∧ x.rank = bits % 2 ^ (f.width - 1) := by
  refine ⟨⟨f.signField bits == 1, bits % 2 ^ (f.width - 1), h.rank_lt⟩, ?_, rfl, rfl⟩
  simp only [Number.ofBits]
  rw [if_pos (Nat.le_of_lt h.rank_lt), Number.ofRank, dif_pos h.rank_lt]
  rfl

namespace FiniteNumber

variable {x : FiniteNumber f}

/-- A number has the value that the fields of its pattern stand for. -/
lemma exact_eq_valueOfBits (hsign : x.negative = (f.signField bits == 1))
    (hrank : x.rank = bits % 2 ^ (f.width - 1)) : x.exact = f.valueOfBits bits := by
  have hfield : f.signField bits = 0 ∨ f.signField bits = 1 := Nat.mod_two_eq_zero_or_one _
  rw [Format.valueOfBits, ← Format.magnitude_eq_fields, ← hrank, exact, Rat.mkRat_eq_div, units,
    hsign, magnitude]
  rcases hfield with hzero | hone
  · simp [hzero]
  · simp [hone, neg_div]

/-- With a zero unsigned, a number keeps the pattern that it was read from, unless that is the
pattern of the negative zero. -/
lemma toBits?_unsignedZero (hbits : bits < 2 ^ f.width)
    (hsign : x.negative = (f.signField bits == 1)) (hrank : x.rank = bits % 2 ^ (f.width - 1)) :
    (Number.finite x.unsignedZero).toBits? =
      some (if bits = 2 ^ (f.width - 1) then 0 else bits) := by
  have hwidth : 2 ^ f.width = 2 ^ (f.width - 1) * 2 := by cases f <;> rfl
  have hsplit := Nat.div_add_mod' bits (2 ^ (f.width - 1))
  have hlow : bits % 2 ^ (f.width - 1) < 2 ^ (f.width - 1) := Nat.mod_lt _ (Nat.two_pow_pos _)
  have hhigh : bits / 2 ^ (f.width - 1) < 2 := Nat.div_lt_of_lt_mul (hwidth ▸ hbits)
  have hpattern : (Number.finite x.unsignedZero).toBits? =
      some ((if x.isNegative then 2 ^ (f.width - 1) else 0) + x.rank) := rfl
  rw [Format.signField, Nat.mod_eq_of_lt hhigh] at hsign
  rw [hpattern, isNegative, hsign, hrank]
  generalize 2 ^ (f.width - 1) = half at *
  rcases Nat.le_one_iff_eq_zero_or_eq_one.mp (Nat.le_of_lt_succ hhigh) with hzero | hone
  · rw [hzero] at hsplit ⊢
    have hne : bits ≠ half := by omega
    simpa [hne] using hsplit
  · rw [hone] at hsplit ⊢
    by_cases hrest : bits % half = 0
    · have heq : bits = half := by omega
      simp [heq]
    · have hne : bits ≠ half := by omega
      simpa [hrest, hne] using hsplit

end FiniteNumber

end PriorityFormula
