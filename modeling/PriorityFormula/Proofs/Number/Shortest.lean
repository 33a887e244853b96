import PriorityFormula.Proofs.Number.Nearest

/-!
# The shortest decimal

Of all decimals that are read as a finite number, the one in which it is written has the fewest
significant digits, and no other one with as few is nearer to the number.

The decimals that are read as a number lie side by side, and the number is one of them. So if any of
them ends in a given number of zeros, then so does one of the two neighbours of the number that the
search looks at, and the nearer of those that read back is the nearest of all. The search begins
with as many zeros as leave a single digit.
-/

namespace PriorityFormula

/-! ### Significant digits -/

/-- Whether a decimal has at most a number of significant digits, that is, of digits in front of the
zeros at its end. -/
def Decimal.FitsIn (d : Decimal) (count : Nat) : Prop :=
  ∃ significant zeros, significant < 10 ^ count ∧ d.digits = significant * 10 ^ zeros

namespace Decimal

/-- The number of significant digits depends on the value only. -/
lemma FitsIn.of_sameValue {d e : Decimal} {count : Nat} (h : e.FitsIn count)
    (hsame : d.SameValue e) : d.FitsIn count := by
  obtain ⟨significant, zeros, hlt, hdigits⟩ := h
  have hvalue : d.digits * 10 ^ e.places = significant * 10 ^ (zeros + d.places) := by
    rw [hsame, hdigits, Nat.mul_assoc, ← Nat.pow_add]
  rcases Nat.le_total e.places (zeros + d.places) with hle | hle
  · refine ⟨significant, zeros + d.places - e.places, hlt, ?_⟩
    apply Nat.eq_of_mul_eq_mul_right (Nat.pow_pos (n := e.places) (by decide : 0 < 10))
    rw [hvalue, Nat.mul_assoc, ← Nat.pow_add, Nat.sub_add_cancel hle]
  · refine ⟨d.digits, 0, Nat.lt_of_le_of_lt ?_ hlt, by rw [Nat.pow_zero, Nat.mul_one]⟩
    apply Nat.le_of_mul_le_mul_right _ (Nat.pow_pos (n := zeros + d.places) (by decide : 0 < 10))
    rw [← hvalue]
    exact Nat.mul_le_mul_left _ (Nat.pow_le_pow_right (by decide) hle)

/-- Decimals may be compared without dividing. -/
lemma value_le {d e : Decimal} (h : d.digits * 10 ^ e.places ≤ e.digits * 10 ^ d.places) :
    d.value ≤ e.value := by
  have hpos : ∀ d : Decimal, (0 : ℚ) < 10 ^ d.places := fun d => by positivity
  rw [value, value, div_le_div_iff₀ (hpos d) (hpos e)]
  exact_mod_cast h

/-- Decimals of the same value stand for the same rational number. -/
lemma SameValue.value_eq {d e : Decimal} (h : d.SameValue e) : d.value = e.value :=
  le_antisymm (value_le (Nat.le_of_eq h)) (value_le (Nat.le_of_eq h.symm))

/-- A decimal that ends in zeros has no more significant digits than there are in front of them. -/
lemma fitsIn_of_dvd {d : Decimal} {length zeros : Nat} (hzeros : zeros < length)
    (hdvd : 10 ^ zeros ∣ d.digits) (hle : d.digits ≤ 10 ^ length) :
    d.FitsIn (length - zeros) := by
  obtain ⟨significant, hdigits⟩ := hdvd
  have hlength : length = zeros + (length - zeros) := by omega
  rw [hdigits, hlength, Nat.pow_add] at hle
  have hbound := Nat.le_of_mul_le_mul_left hle (Nat.pow_pos (by decide))
  rcases Nat.lt_or_eq_of_le hbound with hlt | heq
  · exact ⟨significant, zeros, hlt, by rw [hdigits, Nat.mul_comm]⟩
  · refine ⟨1, length, Nat.one_lt_pow (by omega) (by decide), ?_⟩
    rw [hdigits, heq, ← Nat.pow_add, ← hlength, Nat.one_mul]

end Decimal

namespace FiniteNumber

variable {f : Format} {x : FiniteNumber f}

/-! ### The decimals that read back -/

/-- The decimals that read back lie side by side. -/
lemma readsBack_of_between {d e m : Decimal} (hd : x.readsBack d = true)
    (he : x.readsBack e = true) (hdm : d.digits * 10 ^ m.places ≤ m.digits * 10 ^ d.places)
    (hme : m.digits * 10 ^ e.places ≤ e.digits * 10 ^ m.places) : x.readsBack m = true := by
  have hpow : ∀ d : Decimal, 0 < 10 ^ d.places := fun _ => Nat.pow_pos (by decide)
  have hscaled : ∀ {d e : Decimal}, d.digits * 10 ^ e.places ≤ e.digits * 10 ^ d.places →
      f.nearestRank (d.digits * 2 ^ f.scale) (10 ^ d.places) ≤
        f.nearestRank (e.digits * 2 ^ f.scale) (10 ^ e.places) := by
    intro d e h
    apply f.nearestRank_mono (hpow d) (hpow e)
    rw [Nat.mul_right_comm, Nat.mul_right_comm e.digits]
    exact Nat.mul_le_mul_right _ h
  rw [readsBack, beq_iff_eq] at hd he ⊢
  exact Nat.le_antisymm (he ▸ hscaled hme) (hd ▸ hscaled hdm)

/-- If a multiple of a step reads back, then so does the neighbour of the exact expansion that is a
multiple of it and lies on the same side. -/
lemma readsBack_neighbour {exact : Decimal} (h : x.readsBack exact = true) {step : Nat}
    (hstep : 0 < step) (digits : Nat) (hback : x.readsBack ⟨digits, exact.places⟩ = true)
    (hdvd : step ∣ digits) :
    (digits ≤ exact.digits / step * step ∧
      x.readsBack ⟨exact.digits / step * step, exact.places⟩ = true) ∨
    (exact.digits / step * step + step ≤ digits ∧
      x.readsBack ⟨exact.digits / step * step + step, exact.places⟩ = true) := by
  obtain ⟨count, rfl⟩ := hdvd
  rcases Nat.lt_or_ge (exact.digits / step) count with hlt | hle
  · right
    have habove : exact.digits / step * step + step ≤ step * count := by
      rw [Nat.mul_comm step, ← Nat.succ_mul]
      exact Nat.mul_le_mul_right _ hlt
    refine ⟨habove, readsBack_of_between h hback ?_ (Nat.mul_le_mul_right _ habove)⟩
    exact Nat.mul_le_mul_right _ (Nat.le_of_lt (Nat.lt_div_mul_add hstep))
  · left
    have hbelow : step * count ≤ exact.digits / step * step := by
      rw [Nat.mul_comm]
      exact Nat.mul_le_mul_right _ hle
    refine ⟨hbelow, readsBack_of_between hback h (Nat.mul_le_mul_right _ hbelow) ?_⟩
    exact Nat.mul_le_mul_right _ (Nat.div_mul_le_self _ _)

/-! ### The search -/

/-- A decimal is chosen with a number of zeros if it ends in them, is not beyond the upper neighbour
of the exact expansion, and is nearest among those that end in them and read back. -/
structure ChosenWith (x : FiniteNumber f) (exact chosen : Decimal) (zeros : Nat) : Prop where
  places : chosen.places = exact.places
  dvd : 10 ^ zeros ∣ chosen.digits
  le : chosen.digits ≤ exact.digits / 10 ^ zeros * 10 ^ zeros + 10 ^ zeros
  nearest (digits : Nat) : x.readsBack ⟨digits, exact.places⟩ = true → 10 ^ zeros ∣ digits →
    (chosen.digits - exact.digits : Int).natAbs ≤ (digits - exact.digits : Int).natAbs

/-- With one more zero to try, the search chooses a decimal that ends in all of them, or it goes on
with one zero less because no decimal that ends in all of them reads back. -/
lemma chosenWith_or_not_readsBack {exact : Decimal} (h : x.readsBack exact = true)
    (dropped : Nat) :
    x.ChosenWith exact (x.shortestFrom exact (dropped + 1)) (dropped + 1) ∨
      x.shortestFrom exact (dropped + 1) = x.shortestFrom exact dropped ∧
        ∀ digits, x.readsBack ⟨digits, exact.places⟩ = true → ¬ 10 ^ (dropped + 1) ∣ digits := by
  have hstep : 0 < 10 ^ (dropped + 1) := Nat.pow_pos (by decide)
  have hneighbour := readsBack_neighbour h hstep
  have hbelow : exact.digits / 10 ^ (dropped + 1) * 10 ^ (dropped + 1) ≤ exact.digits :=
    Nat.div_mul_le_self _ _
  have habove := Nat.lt_div_mul_add (a := exact.digits) hstep
  have hdvd := Nat.dvd_mul_left (10 ^ (dropped + 1)) (exact.digits / 10 ^ (dropped + 1))
  have hle := Nat.le_add_right (exact.digits / 10 ^ (dropped + 1) * 10 ^ (dropped + 1))
    (10 ^ (dropped + 1))
  rw [shortestFrom]
  split
  · next hchosen =>
    rw [Bool.and_eq_true, Bool.or_eq_true, decide_eq_true_iff, Bool.not_eq_true'] at hchosen
    refine .inl ⟨rfl, Nat.dvd_add hdvd (Nat.dvd_refl _), Nat.le_refl _, ?_⟩
    intro digits hback hzeros
    rcases hneighbour digits hback hzeros with ⟨hdigits, hlow⟩ | ⟨hdigits, _⟩
    · have hnearer := hchosen.2.resolve_right (by rw [hlow]; decide)
      dsimp only
      omega
    · dsimp only
      omega
  · next hchosen =>
    split
    · next hlow =>
      refine .inl ⟨rfl, hdvd, hle, ?_⟩
      intro digits hback hzeros
      rcases hneighbour digits hback hzeros with ⟨hdigits, _⟩ | ⟨hdigits, hhigh⟩
      · dsimp only
        omega
      · rw [hhigh, Bool.true_and, Bool.or_eq_true, decide_eq_true_iff, not_or] at hchosen
        dsimp only
        omega
    · next hlow =>
      refine .inr ⟨rfl, ?_⟩
      intro digits hback hzeros
      rcases hneighbour digits hback hzeros with ⟨_, hneighbour⟩ | ⟨_, hneighbour⟩
      · exact hlow hneighbour
      · rw [Bool.not_eq_true] at hlow
        rw [hneighbour, hlow, Bool.not_false, Bool.or_true] at hchosen
        exact hchosen rfl

/-- The search chooses a decimal with some zeros, and no decimal reads back that ends in more of
those that it has tried. -/
lemma exists_chosenWith {exact : Decimal} (h : x.readsBack exact = true) (dropped : Nat) :
    ∃ zeros ≤ dropped, x.ChosenWith exact (x.shortestFrom exact dropped) zeros ∧
      ∀ more ≤ dropped, zeros < more → ∀ digits, x.readsBack ⟨digits, exact.places⟩ = true →
        ¬ 10 ^ more ∣ digits := by
  induction dropped with
  | zero =>
    refine ⟨0, Nat.le_refl 0, ⟨rfl, Nat.one_dvd _, ?_, ?_⟩, ?_⟩
    · rw [shortestFrom, Nat.pow_zero, Nat.div_one, Nat.mul_one]
      exact Nat.le_succ _
    · intro digits _ _
      rw [shortestFrom, Int.sub_self]
      exact Nat.zero_le _
    · exact fun more hle hlt => absurd hlt (Nat.not_lt.mpr hle)
  | succ dropped ih =>
    rcases chosenWith_or_not_readsBack h dropped with hchosen | ⟨heq, hnone⟩
    · exact ⟨dropped + 1, Nat.le_refl _, hchosen,
        fun more hle hlt => absurd hlt (Nat.not_lt.mpr hle)⟩
    · obtain ⟨zeros, hzeros, hchosen, hmore⟩ := ih
      rw [heq]
      refine ⟨zeros, Nat.le_succ_of_le hzeros, hchosen, fun more hle hlt => ?_⟩
      rcases Nat.lt_or_eq_of_le hle with hbefore | rfl
      · exact hmore more (Nat.le_of_lt_succ hbefore) hlt
      · exact hnone

/-- A chosen decimal has at most as many significant digits as are left by its zeros. -/
lemma ChosenWith.fitsIn {exact chosen : Decimal} {zeros length : Nat}
    (h : x.ChosenWith exact chosen zeros) (hzeros : zeros < length)
    (hlength : exact.digits < 10 ^ length) : chosen.FitsIn (length - zeros) := by
  apply Decimal.fitsIn_of_dvd hzeros h.dvd
  have hpow : 10 ^ length = 10 ^ (length - zeros) * 10 ^ zeros := by
    rw [← Nat.pow_add, Nat.sub_add_cancel (Nat.le_of_lt hzeros)]
  have hquotient : exact.digits / 10 ^ zeros < 10 ^ (length - zeros) := by
    rw [Nat.div_lt_iff_lt_mul (Nat.pow_pos (by decide)), ← hpow]
    exact hlength
  calc chosen.digits
      ≤ (exact.digits / 10 ^ zeros + 1) * 10 ^ zeros := by
        rw [Nat.succ_mul]
        exact h.le
    _ ≤ 10 ^ length := by
        rw [hpow]
        exact Nat.mul_le_mul_right _ hquotient

/-- A chosen decimal is nearest among those that end in its zeros and read back. -/
lemma ChosenWith.abs_le {exact chosen : Decimal} {zeros digits : Nat}
    (h : x.ChosenWith exact chosen zeros) (hback : x.readsBack ⟨digits, exact.places⟩ = true)
    (hdvd : 10 ^ zeros ∣ digits) :
    |chosen.value - exact.value| ≤ |(⟨digits, exact.places⟩ : Decimal).value - exact.value| := by
  have hpos : (0 : ℚ) < 10 ^ exact.places := by positivity
  have hdistance : ∀ n : Nat, |(n / 10 ^ exact.places - exact.digits / 10 ^ exact.places : ℚ)| =
      (n - exact.digits : Int).natAbs / 10 ^ exact.places := by
    intro n
    rw [← sub_div, abs_div, abs_of_pos hpos, Nat.cast_natAbs]
    push_cast
    rfl
  rw [Decimal.value, Decimal.value, Decimal.value, h.places, hdistance, hdistance]
  exact div_le_div_of_nonneg_right (by exact_mod_cast h.nearest digits hback hdvd) hpos.le

/-! ### The decimal in which a number is written -/

/-- A decimal that reads back as a number other than zero has a significant digit. -/
lemma pos_of_fitsIn {d : Decimal} {count : Nat} (hne : x.exactDecimal.digits ≠ 0)
    (hback : x.readsBack d = true) (hfits : d.FitsIn count) : 0 < count := by
  by_contra hnone
  obtain ⟨significant, zeros, hlt, hdigits⟩ := hfits
  rw [Nat.eq_zero_of_not_pos hnone, Nat.pow_zero, Nat.lt_one_iff] at hlt
  have hlowest := f.nearestRank_magnitude_mul 0 (Nat.pow_pos (n := d.places) (by decide : 0 < 10))
  rw [Format.magnitude_zero, Nat.zero_mul] at hlowest
  rw [readsBack, hdigits, hlt, Nat.zero_mul, Nat.zero_mul, hlowest, beq_iff_eq] at hback
  exact hne (by simp [exactDecimal, ← hback, Format.significand])

/-- The number of digits of a positive number tells between which powers of ten it is. -/
lemma exists_length_toDigits {n : Nat} (h : 0 < n) :
    ∃ top, (Nat.toDigits 10 n).length = top + 1 ∧ 10 ^ top ≤ n ∧ n < 10 ^ (top + 1) := by
  have hpos : 0 < (Nat.toDigits 10 n).length := List.length_pos_iff.mpr Nat.toDigits_ne_nil
  obtain ⟨top, hlength⟩ := Nat.exists_eq_succ_of_ne_zero (Nat.ne_of_gt hpos)
  refine ⟨top, hlength, ?_, ?_⟩
  · rcases Nat.eq_zero_or_pos top with rfl | hmore
    · exact h
    · apply Nat.not_lt.mp
      rw [← Nat.length_toDigits_le_iff (by decide) hmore, hlength]
      exact Nat.not_succ_le_self top
  · rw [← Nat.length_toDigits_le_iff (by decide) (Nat.succ_pos top), hlength]

/-- Instead of a decimal of some significant digits that reads back there is one that is no farther
from the exact expansion, with as many decimal places and with zeros behind that many digits. -/
lemma exists_readsBack_of_fitsIn {exact other : Decimal} {top count : Nat}
    (h : x.readsBack exact = true) (htop : 10 ^ top ≤ exact.digits) (hcount : 0 < count)
    (hle : count ≤ top + 1) (hfits : other.FitsIn count) (hback : x.readsBack other = true) :
    ∃ digits, x.readsBack ⟨digits, exact.places⟩ = true ∧ 10 ^ (top + 1 - count) ∣ digits ∧
      |(⟨digits, exact.places⟩ : Decimal).value - exact.value| ≤ |other.value - exact.value| := by
  obtain ⟨significant, zeros, hlt, hdigits⟩ := hfits
  rcases Nat.lt_or_ge (zeros + exact.places) (other.places + (top + 1 - count)) with
    hfine | hcoarse
  · -- The other decimal is below the leading digit of the exact expansion.
    have hbelow : other.digits * 10 ^ exact.places ≤ 10 ^ top * 10 ^ other.places := by
      calc other.digits * 10 ^ exact.places
          = significant * 10 ^ (zeros + exact.places) := by
            rw [hdigits, Nat.mul_assoc, ← Nat.pow_add]
        _ ≤ 10 ^ count * 10 ^ (zeros + exact.places) :=
            Nat.mul_le_mul_right _ (Nat.le_of_lt hlt)
        _ ≤ 10 ^ top * 10 ^ other.places := by
            rw [← Nat.pow_add, ← Nat.pow_add]
            exact Nat.pow_le_pow_right (by decide) (by omega)
    have hleading : 10 ^ top * 10 ^ exact.places ≤ exact.digits * 10 ^ exact.places :=
      Nat.mul_le_mul_right _ htop
    refine ⟨10 ^ top, ?_, Nat.pow_dvd_pow 10 (by omega), ?_⟩
    · exact readsBack_of_between hback h hbelow hleading
    · have hother : other.value ≤ (⟨10 ^ top, exact.places⟩ : Decimal).value :=
        Decimal.value_le hbelow
      have hexact : (⟨10 ^ top, exact.places⟩ : Decimal).value ≤ exact.value :=
        Decimal.value_le hleading
      rw [abs_of_nonpos (sub_nonpos.mpr hexact),
        abs_of_nonpos (sub_nonpos.mpr (hother.trans hexact))]
      exact neg_le_neg (sub_le_sub_right hother _)
  · -- The other decimal has zeros of its own behind that many digits.
    have hsame : Decimal.SameValue
        ⟨significant * 10 ^ (zeros + exact.places - other.places), exact.places⟩ other := by
      have hexponent : zeros + exact.places - other.places + other.places =
          zeros + exact.places := by omega
      show significant * 10 ^ (zeros + exact.places - other.places) * 10 ^ other.places =
        other.digits * 10 ^ exact.places
      rw [hdigits, Nat.mul_assoc, Nat.mul_assoc, ← Nat.pow_add, ← Nat.pow_add, hexponent]
    refine ⟨_, readsBack_of_sameValue hsame hback, ?_, ?_⟩
    · exact Nat.dvd_mul_left_of_dvd (Nat.pow_dvd_pow 10 (by omega)) _
    · rw [hsame.value_eq]

/-- Every decimal that reads back has more significant digits than the one in which the number is
written, or as many and is no nearer to the exact expansion. -/
lemma shortest_fitsIn {other : Decimal} {count : Nat} (hfits : other.FitsIn count)
    (hback : x.readsBack other = true) :
    (∃ fewer < count, x.shortest.FitsIn fewer) ∨ x.shortest.FitsIn count ∧
      |x.shortest.value - x.exactDecimal.value| ≤ |other.value - x.exactDecimal.value| := by
  by_cases hzero : x.exactDecimal.digits = 0
  · right
    rw [shortest_eq_exactDecimal hzero, sub_self, abs_zero]
    exact ⟨⟨0, 0, Nat.pow_pos (by decide), by rw [hzero, Nat.zero_mul]⟩, abs_nonneg _⟩
  · obtain ⟨top, hlength, hlower, hupper⟩ := exists_length_toDigits (Nat.pos_of_ne_zero hzero)
    obtain ⟨zeros, hzeros, hchosen, hmore⟩ := exists_chosenWith x.readsBack_exactDecimal top
    have hshortest : x.shortest = x.shortestFrom x.exactDecimal top := by
      rw [shortest, hlength, Nat.add_sub_cancel]
    rw [← hshortest] at hchosen
    have hshort := hchosen.fitsIn (Nat.lt_succ_of_le hzeros) hupper
    rcases Nat.lt_or_ge (top + 1 - zeros) count with hlt | hge
    · exact .inl ⟨top + 1 - zeros, hlt, hshort⟩
    · have hcount := pos_of_fitsIn hzero hback hfits
      obtain ⟨digits, hdigits, hdvd, hcloser⟩ := exists_readsBack_of_fitsIn
        x.readsBack_exactDecimal hlower hcount (by omega) hfits hback
      rcases Nat.lt_or_eq_of_le hge with hgt | heq
      · -- The search has tried as many zeros, and found none.
        exact absurd hdvd (hmore (top + 1 - count) (by omega) (by omega) digits hdigits)
      · right
        have hends : top + 1 - count = zeros := by omega
        rw [hends] at hdvd
        rw [← heq] at hshort
        exact ⟨hshort, (hchosen.abs_le hdigits hdvd).trans hcloser⟩

/-- A number is what its exact expansion stands for behind its sign. -/
lemma exact_eq_signedValue (x : FiniteNumber f) :
    x.exact = x.exactDecimal.signedValue x.isNegative := by
  have hvalue : x.exactDecimal.value = x.magnitude / 2 ^ f.scale := by
    rw [Decimal.value, div_eq_div_iff (pow_ne_zero _ (by norm_num)) (pow_ne_zero _ two_ne_zero)]
    exact_mod_cast x.digits_exactDecimal_mul
  rw [← exact_unsignedZero, exact_eq_div, Decimal.signedValue, hvalue, units]
  show (((if x.isNegative then -(x.magnitude : Int) else x.magnitude) : Int) : ℚ) / 2 ^ f.scale = _
  cases x.isNegative with
  | false => simp
  | true => simp [neg_div]

/-- A decimal is a shortest one of a finite number if every decimal that is read as that number has
more significant digits, or as many and is no nearer to the number. -/
def IsShortest (x : FiniteNumber f) (d : Decimal) : Prop :=
  ∀ other count, other.FitsIn count →
    Number.ofDecimal f x.isNegative other = .finite x.unsignedZero →
      (∃ fewer < count, d.FitsIn fewer) ∨ d.FitsIn count ∧
        |d.signedValue x.isNegative - x.exact| ≤ |other.signedValue x.isNegative - x.exact|

/-- The numeral of a finite number is a shortest one. -/
theorem isShortest_numeral (x : FiniteNumber f) : x.IsShortest x.numeral := by
  have hsame : x.numeral.SameValue x.shortest := x.shortest.sameValue_ofNumeral
  have hdistance : ∀ d : Decimal, |d.signedValue x.isNegative - x.exact| =
      |d.value - x.exactDecimal.value| := by
    intro d
    rw [exact_eq_signedValue, Decimal.signedValue, Decimal.signedValue]
    cases x.isNegative with
    | false => rfl
    | true => exact (congrArg abs (neg_sub_neg _ _)).trans (abs_sub_comm _ _)
  intro other count hfits hread
  have hback : x.readsBack other = true := (readsBack_of_ofDecimal_eq hread).1
  rw [hdistance, hdistance, hsame.value_eq]
  rcases shortest_fitsIn hfits hback with ⟨fewer, hlt, hfewer⟩ | ⟨hcount, hcloser⟩
  · exact .inl ⟨fewer, hlt, hfewer.of_sameValue hsame⟩
  · exact .inr ⟨hcount.of_sameValue hsame, hcloser⟩

end FiniteNumber

end PriorityFormula
