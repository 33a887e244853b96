import Mathlib.Tactic.Ring
import PriorityFormula.Proofs.Number.Ladder
import PriorityFormula.Number.Decimal

/-!
# Numerals of finite numbers

The decimal in which a finite number is written reads back as that number. The exact expansion does,
since its value is the magnitude of a rung, and the search for fewer digits only ever leaves it for
a decimal that reads back as well. Laying a decimal out as digits before and behind a point drops
zeros at its end but keeps its value.

A numeral has no way to show the sign of a zero, so what is read back is the number with a zero
unsigned.
-/

namespace PriorityFormula

/-! ### Decimals of the same value -/

namespace Decimal

/-- Two decimals have the same value. -/
def SameValue (d e : Decimal) : Prop :=
  d.digits * 10 ^ e.places = e.digits * 10 ^ d.places

/-- What `trimZeros` takes away from a run of digits are zeros at its end. -/
lemma exists_trimZeros_append (digits : List Char) :
    ∃ n, digits = trimZeros digits ++ List.replicate n '0' := by
  have hzeros : digits.reverse.takeWhile (· == '0') =
      List.replicate (digits.reverse.takeWhile (· == '0')).length '0' := by
    rw [List.eq_replicate_iff]
    exact ⟨rfl, fun c hc => by simpa using List.all_eq_true.mp List.all_takeWhile c hc⟩
  refine ⟨(digits.reverse.takeWhile (· == '0')).length, ?_⟩
  have hsplit := congrArg List.reverse
    (List.takeWhile_append_dropWhile (p := (· == '0')) (l := digits.reverse))
  rw [List.reverse_append, List.reverse_reverse, hzeros, List.reverse_replicate] at hsplit
  rw [trimZeros, hsplit]

/-- All digits behind the point, also the zeros at the end that `fraction` drops. -/
def padded (d : Decimal) : List Char :=
  let digits := Nat.toDigits 10 (d.digits % 10 ^ d.places)
  List.replicate (d.places - digits.length) '0' ++ digits

/-- The padded digits behind the point count the part of the decimal behind the point. -/
lemma ofDigitChars_padded (d : Decimal) :
    Nat.ofDigitChars 10 d.padded 0 = d.digits % 10 ^ d.places := by
  rw [padded, Nat.ofDigitChars_append, Nat.ofDigitChars_replicate_zero, Nat.mul_zero,
    Nat.ofDigitChars_ten_toDigits]

/-- With at least one decimal place, there are as many padded digits as decimal places. -/
lemma length_padded {d : Decimal} (h : 0 < d.places) : d.padded.length = d.places := by
  have hlt : d.digits % 10 ^ d.places < 10 ^ d.places := Nat.mod_lt _ (Nat.pow_pos (by decide))
  have hle : (Nat.toDigits 10 (d.digits % 10 ^ d.places)).length ≤ d.places :=
    (Nat.length_toDigits_le_iff (by decide) h).mpr hlt
  simp only [padded, List.length_append, List.length_replicate]
  omega

/-- The digits behind the point have the value of the part of the decimal behind the point. -/
lemma ofDigitChars_fraction (d : Decimal) :
    Nat.ofDigitChars 10 d.fraction 0 * 10 ^ d.places =
      d.digits % 10 ^ d.places * 10 ^ d.fraction.length := by
  obtain ⟨n, hn⟩ := exists_trimZeros_append d.padded
  have hvalue : Nat.ofDigitChars 10 d.fraction 0 * 10 ^ n = d.digits % 10 ^ d.places := by
    rw [← ofDigitChars_padded, hn, Nat.ofDigitChars_append, Nat.ofDigitChars_replicate_zero,
      Nat.mul_comm]
    rfl
  by_cases hplaces : d.places = 0
  · have hzero : Nat.ofDigitChars 10 d.fraction 0 * 10 ^ n = 0 := by
      rw [hvalue, hplaces, Nat.pow_zero, Nat.mod_one]
    have hfraction : Nat.ofDigitChars 10 d.fraction 0 = 0 :=
      (Nat.mul_eq_zero.mp hzero).resolve_right (Nat.ne_of_gt (Nat.pow_pos (by decide)))
    rw [hfraction, hplaces, Nat.pow_zero, Nat.mod_one, Nat.zero_mul, Nat.zero_mul]
  · have hlength : d.fraction.length + n = d.places := by
      have hlen := congrArg List.length hn
      rw [length_padded (Nat.pos_of_ne_zero hplaces), List.length_append,
        List.length_replicate] at hlen
      exact hlen.symm
    rw [← hvalue, ← hlength, Nat.pow_add, Nat.mul_assoc, Nat.mul_comm (10 ^ n)]

/-- Laying out a decimal keeps its value. -/
lemma sameValue_ofNumeral (d : Decimal) : SameValue (ofNumeral d.whole d.fraction) d := by
  have hwhole : Nat.ofDigitChars 10 d.whole 0 = d.digits / 10 ^ d.places :=
    Nat.ofDigitChars_ten_toDigits
  have hdigits : (ofNumeral d.whole d.fraction).digits =
      10 ^ d.fraction.length * (d.digits / 10 ^ d.places) + Nat.ofDigitChars 10 d.fraction 0 := by
    rw [ofNumeral, Nat.ofDigitChars_append, hwhole, Nat.ofDigitChars_eq_ofDigitChars_zero]
  have hsplit := Nat.div_add_mod d.digits (10 ^ d.places)
  show (ofNumeral d.whole d.fraction).digits * 10 ^ d.places = d.digits * 10 ^ d.fraction.length
  calc (ofNumeral d.whole d.fraction).digits * 10 ^ d.places
      = 10 ^ d.places * (d.digits / 10 ^ d.places) * 10 ^ d.fraction.length +
          Nat.ofDigitChars 10 d.fraction 0 * 10 ^ d.places := by
        rw [hdigits, Nat.add_mul]
        ring
    _ = (10 ^ d.places * (d.digits / 10 ^ d.places) + d.digits % 10 ^ d.places) *
          10 ^ d.fraction.length := by rw [ofDigitChars_fraction, Nat.add_mul]
    _ = d.digits * 10 ^ d.fraction.length := by rw [hsplit]

/-! ### The digits of a numeral -/

/-- There is a digit before the point. -/
lemma whole_ne_nil (d : Decimal) : d.whole ≠ [] :=
  Nat.toDigits_ne_nil

/-- What stands before the point are digits. -/
lemma isDigit_of_mem_whole {d : Decimal} {c : Char} (h : c ∈ d.whole) : c.isDigit = true :=
  Nat.isDigit_of_mem_toDigits (by decide) (by decide) h

/-- What stands behind the point are digits. -/
lemma isDigit_of_mem_fraction {d : Decimal} {c : Char} (h : c ∈ d.fraction) :
    c.isDigit = true := by
  have hpadded : c ∈ d.padded :=
    List.mem_reverse.mp ((List.dropWhile_sublist _).subset (List.mem_reverse.mp h))
  rcases List.mem_append.mp hpadded with hzero | hdigit
  · rw [(List.mem_replicate.mp hzero).2]
    decide
  · exact Nat.isDigit_of_mem_toDigits (by decide) (by decide) hdigit

end Decimal

namespace FiniteNumber

variable {f : Format}

/-! ### The chosen decimal reads back -/

/-- The exact expansion has the magnitude of the number. -/
lemma digits_exactDecimal_mul (x : FiniteNumber f) :
    x.exactDecimal.digits * 2 ^ f.scale = f.magnitude x.rank * 10 ^ x.exactDecimal.places := by
  have hexponent : f.spacing x.rank - f.scale + f.scale =
      f.spacing x.rank + (f.scale - f.spacing x.rank) := by omega
  show f.significand x.rank * 5 ^ (f.scale - f.spacing x.rank) *
      2 ^ (f.spacing x.rank - f.scale) * 2 ^ f.scale =
    f.significand x.rank * 2 ^ f.spacing x.rank * (2 * 5) ^ (f.scale - f.spacing x.rank)
  rw [Nat.mul_assoc _ (2 ^ _), ← Nat.pow_add, hexponent, Nat.pow_add, Nat.mul_pow]
  ring

/-- The exact expansion reads back. -/
lemma readsBack_exactDecimal (x : FiniteNumber f) : x.readsBack x.exactDecimal = true := by
  rw [readsBack, x.digits_exactDecimal_mul,
    f.nearestRank_magnitude_mul x.rank (Nat.pow_pos (by decide)), beq_self_eq_true]

/-- The search for fewer digits keeps that the decimal reads back. -/
lemma readsBack_shortestFrom (x : FiniteNumber f) {exact : Decimal}
    (h : x.readsBack exact = true) (dropped : Nat) :
    x.readsBack (x.shortestFrom exact dropped) = true := by
  induction dropped with
  | zero => exact h
  | succ dropped ih =>
    rw [shortestFrom]
    split
    · next hhigh => exact (Bool.and_eq_true_iff.mp hhigh).1
    · split
      · next hlow => exact hlow
      · exact ih

/-- The decimal in which a finite number is written reads back. -/
lemma readsBack_shortest (x : FiniteNumber f) : x.readsBack x.shortest = true :=
  x.readsBack_shortestFrom x.readsBack_exactDecimal _

/-- Whether a decimal reads back depends on its value only. -/
lemma readsBack_of_sameValue {x : FiniteNumber f} {d e : Decimal} (hsame : d.SameValue e)
    (h : x.readsBack e = true) : x.readsBack d = true := by
  have hrank : f.nearestRank (d.digits * 2 ^ f.scale) (10 ^ d.places) =
      f.nearestRank (e.digits * 2 ^ f.scale) (10 ^ e.places) := by
    apply f.nearestRank_congr (Nat.pow_pos (by decide)) (Nat.pow_pos (by decide))
    rw [Nat.mul_right_comm, hsame, Nat.mul_right_comm]
  rw [readsBack, hrank]
  exact h

/-! ### Writing and reading a finite number -/

/-- The number with a zero unsigned. -/
def unsignedZero (x : FiniteNumber f) : FiniteNumber f :=
  { x with negative := x.isNegative }

/-- A number that is not zero is left as it is. -/
lemma unsignedZero_eq_self {x : FiniteNumber f} (h : x.isZero = false) : x.unsignedZero = x := by
  ext
  · simp_all [unsignedZero, isNegative, isZero]
  · rfl

/-- The decimal that is read where a finite number stands in a formula. -/
def numeral (x : FiniteNumber f) : Decimal :=
  .ofNumeral x.shortest.whole x.shortest.fraction

/-- A decimal that is read as a finite number with a sign reads back as its magnitude. -/
lemma readsBack_of_ofDecimal_eq {negative : Bool} {d : Decimal} {x : FiniteNumber f}
    (h : Number.ofDecimal f negative d = .finite x) :
    x.readsBack d = true ∧ x.negative = negative := by
  rw [Number.ofDecimal, Number.nearest, Number.ofRank] at h
  split at h
  · cases h
    exact ⟨beq_self_eq_true _, rfl⟩
  · cases h

/-- Reading the numeral of a finite number gives that number, except for the sign of a zero. -/
lemma ofDecimal_numeral (x : FiniteNumber f) :
    Number.ofDecimal f x.isNegative x.numeral = .finite x.unsignedZero := by
  have hback : x.readsBack x.numeral = true :=
    readsBack_of_sameValue x.shortest.sameValue_ofNumeral x.readsBack_shortest
  rw [readsBack, beq_iff_eq] at hback
  rw [Number.ofDecimal, Number.nearest, hback, Number.ofRank, dif_pos x.rank_lt]
  rfl

/-- Without digits other than zero there is nothing to shorten. -/
lemma shortest_eq_exactDecimal {x : FiniteNumber f} (h : x.exactDecimal.digits = 0) :
    x.shortest = x.exactDecimal := by
  rw [shortest, h]
  rfl

/-- The digits chosen for a zero are a single zero. -/
lemma plain_shortest_of_isZero {x : FiniteNumber f} (h : x.isZero = true) :
    x.shortest.plain = ['0'] := by
  have hrank : x.rank = 0 := by simpa [isZero] using h
  have hdigits : x.exactDecimal.digits = 0 := by
    simp [exactDecimal, hrank, Format.significand]
  have hshortest := shortest_eq_exactDecimal hdigits
  have hwhole : x.shortest.whole = ['0'] := by
    rw [hshortest, Decimal.whole, hdigits, Nat.zero_div, Nat.toDigits_zero]
  have hzeros : x.shortest.fraction = [] := by
    rw [hshortest, Decimal.fraction, hdigits, Nat.zero_mod, Nat.toDigits_zero]
    simp [Decimal.trimZeros]
  rw [Decimal.plain, hzeros, hwhole]
  rfl

/-- A finite number is written as a minus, if it is below zero, and its digits. -/
lemma plain_eq (x : FiniteNumber f) :
    x.plain = (if x.isNegative then ['-'] else []) ++ x.shortest.plain := by
  rw [plain]
  split
  · next hzero =>
    have hsign : x.isNegative = false := by simp_all [isNegative, isZero]
    rw [plain_shortest_of_isZero hzero, hsign]
    rfl
  · next hzero =>
    have hsign : x.isNegative = x.negative := by simp_all [isNegative, isZero]
    rw [hsign]
    cases x.negative <;> rfl

end FiniteNumber

end PriorityFormula
