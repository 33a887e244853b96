import PriorityFormula.Proofs.Number.Bits
import PriorityFormula.Proofs.Number.Shortest
import PriorityFormula.Proofs.Reader.Grammar
import PriorityFormula.Proofs.Statement.Reread

/-!
# Reading a printed literal back

A literal is printed as a numeral: digits, perhaps with a minus in front of them, and perhaps with a
point and more digits behind them. It has no exponent, and a zero is a single digit without a sign.
No decimal with fewer significant digits would do, and no number of the format is nearer to the
numeral than the one that it is printed for. So reading it back gives that number with all its bits,
and only the negative zero comes back as the positive one.
-/

namespace PriorityFormula

open Reader (Token Value evaluateText tokens)

variable {f : Format}

/-- A text shows a finite number in digits before and behind a point. -/
structure FiniteNumber.ShownBy (x : FiniteNumber f) (whole fraction text : List Char) : Prop where
  /-- There are digits before the point, and all the rest behind it are digits. -/
  wellFormed : (Token.numeral x.isNegative whole fraction).WellFormed
  /-- The text consists of the digits, of the minus of a number below zero, and of a point if digits
  stand behind it. -/
  text_eq : text = (Token.numeral x.isNegative whole fraction).text
  /-- The whole text is read as a single numeral. -/
  tokens_eq : tokens true text = some [.numeral x.isNegative whole fraction]
  /-- A zero is shown without a sign and a point. -/
  zero : x.isZero = true → text = ['0']
  /-- No number of the format is nearer to the numeral than the one that is shown. -/
  nearest : x.IsNearest ((Decimal.ofNumeral whole fraction).signedValue x.isNegative)
  /-- No decimal with fewer digits shows the number, and none with as many is nearer to it. -/
  shortest : x.IsShortest (.ofNumeral whole fraction)

namespace FiniteNumber

/-- The sign of a zero does not matter for what it is nearest to. -/
lemma isNearest_of_unsignedZero {x : FiniteNumber f} {q : ℚ} (h : x.unsignedZero.IsNearest q) :
    x.IsNearest q := by
  intro y hy
  have hcloser := h y
  rw [exact_unsignedZero] at hcloser
  exact hcloser hy

/-- The text of a finite number shows it. -/
lemma shownBy_plain (x : FiniteNumber f) :
    x.ShownBy x.shortest.whole x.shortest.fraction x.plain where
  wellFormed := ⟨x.shortest.whole_ne_nil, fun _ => Decimal.isDigit_of_mem_whole,
    fun _ => Decimal.isDigit_of_mem_fraction⟩
  text_eq := x.plain_eq_text
  tokens_eq := by
    rw [plain_eq_text]
    exact (Reader.lexes_numeral x.isNegative x.shortest.whole_ne_nil
      (fun _ => Decimal.isDigit_of_mem_whole)
      (fun _ => Decimal.isDigit_of_mem_fraction)).tokens_eq_some
  zero hzero := by
    rw [plain, if_pos hzero]
  nearest := isNearest_of_unsignedZero (isNearest_of_ofDecimal_eq x.ofDecimal_numeral)
  shortest := x.isShortest_numeral

end FiniteNumber

/-- Every finite bit pattern is a literal with the value of the pattern, its text shows that value,
and from the text the same pattern is read, except that the negative zero is read as zero. -/
theorem Numeric.evaluateText_literal_ofBits {A B : Type} {f : Format} {bits : Nat}
    (hbits : bits < 2 ^ f.width) (hfinite : f.IsFinitePattern bits) :
    ∃ x : FiniteNumber f, FiniteNumber.ofNumber (Number.ofBits f bits) = .ok x ∧
      x.exact = f.valueOfBits bits ∧
      (∃ whole fraction, x.ShownBy whole fraction (literal x : Numeric A B f).text) ∧
      ∀ lookup, ∃ y : Number f,
        evaluateText (.ofFormat f lookup) (literal x : Numeric A B f).text = .ok (.number y) ∧
          y.toBits? = some (if bits = 2 ^ (f.width - 1) then 0 else bits) := by
  obtain ⟨x, hx, hsign, hrank⟩ := Number.exists_ofBits_eq_finite hfinite
  refine ⟨x, ?_, FiniteNumber.exact_eq_valueOfBits hsign hrank, ?_, fun lookup => ?_⟩
  · rw [hx]
    rfl
  · exact ⟨_, _, x.shownBy_plain⟩
  · exact ⟨.finite x.unsignedZero, x.evaluateText_plain_ofFormat lookup,
      FiniteNumber.toBits?_unsignedZero hbits hsign hrank⟩

/-- The greatest number below zero needs a single digit, far behind the point. -/
theorem Quantity.evaluateText_literal_subnormal :
    ∃ x : FiniteNumber .double,
      FiniteNumber.ofNumber (Number.ofBits .double 0x8000000000000001) = .ok x ∧
        x.exact = -(1 / 2 ^ 1074) ∧
        (.literal x : Quantity .double).text =
          '-' :: '0' :: '.' :: (List.replicate 323 '0' ++ ['5']) ∧
        ∃ y : Number .double,
          evaluateText (.ofFormat .double fun _ => none) (.literal x : Quantity .double).text =
            .ok (.number y) ∧ y.toBits? = some 0x8000000000000001 := by
  obtain ⟨x, hx, hexact, _, hread⟩ :=
    Numeric.evaluateText_literal_ofBits (A := NumberSource .double) (B := FlagSource)
      (by decide : 0x8000000000000001 < 2 ^ Format.double.width) (by decide)
  obtain rfl : x = ⟨true, 1, by decide⟩ := by
    injection hx.symm
  exact ⟨_, hx, hexact.trans (by decide +kernel), by decide +kernel, hread _⟩

end PriorityFormula
