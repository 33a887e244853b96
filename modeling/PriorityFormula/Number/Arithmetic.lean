import PriorityFormula.Number.Basic

/-!
# Arithmetic on numbers

Each operation is the exact result, rounded once to the nearest number of the format. Exact results
are ratios of whole numbers of units, so nothing but `Number.nearest` ever rounds. What remains to
be said per operation is the sign of a zero and what infinite and undefined operands give.
-/

namespace PriorityFormula

/-- How a number is brought to a whole number. -/
inductive Rounding where
  | ceiling
  | floor
  | nearest
  deriving DecidableEq, Repr

namespace FiniteNumber

variable {f : Format}

/-- The sum. A vanishing sum is negative only if both operands carry a minus sign. -/
def add (x y : FiniteNumber f) : Number f :=
  let sum := x.units + y.units
  let negative := if sum = 0 then x.negative && y.negative else decide (sum < 0)
  .nearest f negative sum.natAbs 1

/-- The product, negative if exactly one operand carries a minus sign. -/
def multiply (x y : FiniteNumber f) : Number f :=
  .nearest f (x.negative != y.negative) (x.magnitude * y.magnitude) (2 ^ f.scale)

/-- The quotient. A zero divisor gives an infinity, or an undefined number if the dividend is zero
too. -/
def divide (x y : FiniteNumber f) : Number f :=
  if y.isZero then
    if x.isZero then .undefined else .infinite (x.negative != y.negative)
  else
    .nearest f (x.negative != y.negative) (x.magnitude * 2 ^ f.scale) y.magnitude

/-- The neighbouring whole number that a rounding chooses; a result of zero keeps the sign. -/
def round (mode : Rounding) (x : FiniteNumber f) : Number f :=
  let one := 2 ^ f.scale
  let whole := x.magnitude / one
  let rest := x.magnitude % one
  let away :=
    match mode with
    | .ceiling => !x.negative && rest != 0
    | .floor => x.negative && rest != 0
    | .nearest => decide (one ≤ 2 * rest)
  .nearest f x.negative ((if away then whole + 1 else whole) * one) 1

end FiniteNumber

namespace Number

variable {f : Format}

/-- The sum; infinities of opposite sign have none. -/
def add : Number f → Number f → Number f
  | undefined, _ => undefined
  | _, undefined => undefined
  | infinite a, infinite b => if a = b then infinite a else undefined
  | infinite a, finite _ => infinite a
  | finite _, infinite b => infinite b
  | finite x, finite y => x.add y

/-- The difference, as the sum with the opposite. -/
def subtract (x y : Number f) : Number f :=
  x.add y.negated

/-- The product; an infinity times zero has none. -/
def multiply : Number f → Number f → Number f
  | undefined, _ => undefined
  | _, undefined => undefined
  | infinite a, infinite b => infinite (a != b)
  | infinite a, finite y => if y.isZero then undefined else infinite (a != y.negative)
  | finite x, infinite b => if x.isZero then undefined else infinite (x.negative != b)
  | finite x, finite y => x.multiply y

/-- The quotient; two infinities have none, and a finite number over an infinity is zero. -/
def divide : Number f → Number f → Number f
  | undefined, _ => undefined
  | _, undefined => undefined
  | infinite _, infinite _ => undefined
  | infinite a, finite y => infinite (a != y.negative)
  | finite x, infinite b => ofRank f (x.negative != b) 0
  | finite x, finite y => x.divide y

/-- A whole number near to the given one; infinite and undefined numbers stay as they are. -/
def round (mode : Rounding) : Number f → Number f
  | undefined => undefined
  | infinite negative => infinite negative
  | finite x => x.round mode

/-- Adding an opposite is subtracting. -/
theorem add_negated (x y : Number f) : x.add y.negated = x.subtract y := rfl

@[simp] theorem negated_negated (x : Number f) : x.negated.negated = x := by
  cases x <;> simp [negated]

/-- Subtracting an opposite is adding. -/
theorem subtract_negated (x y : Number f) : x.subtract y.negated = x.add y := by
  simp [subtract]

end Number

end PriorityFormula
