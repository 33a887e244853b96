import PriorityFormula.Number.Arithmetic

/-!
# Decimal numerals

A decimal is a whole number of digits with a count of decimal places. Reading one gives the nearest
number of a format. Writing a finite number chooses the decimal with the fewest significant digits
that reads back as that number, and among those the one nearest to it; of two equally near ones the
larger is taken. The choice always succeeds, because the exact expansion of a finite number ends.

Two layouts are offered: a plain one without exponent, in which formulas are printed, and an
explicit one that always shows a point or an exponent and the sign of a zero.
-/

namespace PriorityFormula

/-- The non-negative decimal `digits / 10 ^ places`. -/
structure Decimal where
  digits : Nat
  places : Nat
  deriving DecidableEq, Repr

/-- The number nearest to a decimal, with a sign. -/
def Number.ofDecimal (f : Format) (negative : Bool) (d : Decimal) : Number f :=
  .nearest f negative (d.digits * 2 ^ f.scale) (10 ^ d.places)

namespace Decimal

/-- The decimal written as the digits of a whole part and of a fraction. -/
def ofNumeral (whole fraction : List Char) : Decimal :=
  ⟨Nat.ofDigitChars 10 (whole ++ fraction) 0, fraction.length⟩

/-- A run of digits without its trailing zeros. -/
def trimZeros (digits : List Char) : List Char :=
  (digits.reverse.dropWhile (· == '0')).reverse

/-- The digits before the point, at least one. -/
def whole (d : Decimal) : List Char :=
  Nat.toDigits 10 (d.digits / 10 ^ d.places)

/-- The digits after the point, without trailing zeros. -/
def fraction (d : Decimal) : List Char :=
  let digits := Nat.toDigits 10 (d.digits % 10 ^ d.places)
  trimZeros (List.replicate (d.places - digits.length) '0' ++ digits)

/-- The decimal without exponent; a point is written only if digits follow it. -/
def plain (d : Decimal) : List Char :=
  if d.fraction.isEmpty then d.whole else d.whole ++ '.' :: d.fraction

/-- The power of ten of the leading digit. -/
def leadingExponent (d : Decimal) : Int :=
  (Nat.toDigits 10 d.digits).length - 1 - d.places

/-- The leading digit, a point if more digits follow, those digits, and the power of ten. -/
def scientific (d : Decimal) : List Char :=
  let mantissa :=
    match trimZeros (Nat.toDigits 10 d.digits) with
    | [] => ['0']
    | [leading] => [leading]
    | leading :: rest => leading :: '.' :: rest
  let exponent := d.leadingExponent
  let sign := if exponent < 0 then ['-'] else []
  mantissa ++ 'e' :: sign ++ Nat.toDigits 10 exponent.natAbs

/-- The plain layout with a fraction of at least one digit for magnitudes from `10 ^ (-4)` up to but
not including `10 ^ 16`, and the scientific layout outside that range. -/
def explicit (d : Decimal) : List Char :=
  if -4 ≤ d.leadingExponent ∧ d.leadingExponent < 16 then
    if d.fraction.isEmpty then d.whole ++ ['.', '0'] else d.plain
  else d.scientific

end Decimal

namespace FiniteNumber

variable {f : Format}

/-- The decimal equal to the magnitude of a finite number. -/
def exactDecimal (x : FiniteNumber f) : Decimal :=
  let spacing := f.spacing x.rank
  ⟨f.significand x.rank * 5 ^ (f.scale - spacing) * 2 ^ (spacing - f.scale), f.scale - spacing⟩

/-- Whether a decimal is read as the magnitude of a finite number. -/
def readsBack (x : FiniteNumber f) (d : Decimal) : Bool :=
  f.nearestRank (d.digits * 2 ^ f.scale) (10 ^ d.places) == x.rank

/-- Of the two neighbours of `exact` that end in `dropped` zeros the nearer one that reads back, or,
if neither does, the same with one zero less. -/
def shortestFrom (x : FiniteNumber f) (exact : Decimal) : Nat → Decimal
  | 0 => exact
  | dropped + 1 =>
    let step := 10 ^ (dropped + 1)
    let low := exact.digits / step * step
    let high := low + step
    if x.readsBack ⟨high, exact.places⟩ &&
        (high - exact.digits ≤ exact.digits - low || !x.readsBack ⟨low, exact.places⟩) then
      ⟨high, exact.places⟩
    else if x.readsBack ⟨low, exact.places⟩ then ⟨low, exact.places⟩
    else x.shortestFrom exact dropped

/-- The decimal with the fewest significant digits that reads back as the magnitude. -/
def shortest (x : FiniteNumber f) : Decimal :=
  x.shortestFrom x.exactDecimal ((Nat.toDigits 10 x.exactDecimal.digits).length - 1)

/-- The number as it stands in a formula: never an exponent, and zero without its sign. -/
def plain (x : FiniteNumber f) : List Char :=
  if x.isZero then ['0']
  else if x.negative then '-' :: x.shortest.plain
  else x.shortest.plain

/-- The number with a point or an exponent and with the sign of a zero. -/
def explicit (x : FiniteNumber f) : List Char :=
  let magnitude := if x.isZero then ['0', '.', '0'] else x.shortest.explicit
  if x.negative then '-' :: magnitude else magnitude

end FiniteNumber

end PriorityFormula
