/-!
# Binary formats

A format fixes how many significant bits a finite number keeps and how far its exponents reach.
All finite magnitudes of a format are whole multiples of one unit, the least positive magnitude,
and they form a single ascending ladder: rank `0` is zero, rank `1` is one unit, and each further
rank is the next magnitude up. The ladder is what the rest of the library computes with:
`magnitude` climbs it, `floorRank` finds the highest rung not above a count of units, and
`nearestRank` rounds an exact ratio to a rung. A rung's rank is also its bit pattern without the
sign, so ranks need no separate encoding.
-/

namespace PriorityFormula

/-- Powers of natural numbers are those of the core library, also where algebra offers others. -/
scoped instance (priority := 2000) corePow : Pow Nat Nat := instPowNat

/-- The two precisions in which formulas are evaluated. -/
inductive Format where
  | double
  | single
  deriving DecidableEq, Repr

namespace Format

/-- The number of significant bits, the leading one included. -/
def precision : Format → Nat
  | double => 53
  | single => 24

/-- The width of the exponent field. -/
def exponentBits : Format → Nat
  | double => 11
  | single => 8

/-- The width of a whole bit pattern: a sign, the exponent field and the stored fraction. -/
def width (f : Format) : Nat :=
  f.precision + f.exponentBits

/-- A unit, the least positive magnitude, is `2 ^ (-scale)`. -/
def scale (f : Format) : Nat :=
  2 ^ (f.exponentBits - 1) + f.precision - 3

/-- The number of rungs in one binade, a stretch of the ladder with equal spacing. -/
def binade (f : Format) : Nat :=
  2 ^ (f.precision - 1)

/-- The first rank whose magnitude is too large to be finite. -/
def infiniteRank (f : Format) : Nat :=
  (2 ^ f.exponentBits - 1) * f.binade

/-! ### The ladder of magnitudes

The two lowest binades are both spaced by one unit; from there on the spacing doubles with every
binade. `spacing` is the binary logarithm of the gap above a rung. -/

/-- The binary logarithm of the gap, in units, between a rung and the next one. -/
def spacing (f : Format) (rank : Nat) : Nat :=
  rank / f.binade - 1

/-- The whole number that is scaled by the spacing to give the magnitude of a rung. -/
def significand (f : Format) (rank : Nat) : Nat :=
  rank - f.spacing rank * f.binade

/-- The magnitude of a rung, in units. -/
def magnitude (f : Format) (rank : Nat) : Nat :=
  f.significand rank * 2 ^ f.spacing rank

/-- The highest rung whose magnitude is at most the given number of units. -/
def floorRank (f : Format) (units : Nat) : Nat :=
  let spacing := units.log2 + 1 - f.precision
  spacing * f.binade + units / 2 ^ spacing

/-- The rung nearest to `num / den` units; halfway between two rungs the even rank wins. -/
def nearestRank (f : Format) (num den : Nat) : Nat :=
  let below := f.floorRank (num / den)
  match compare (2 * num) ((f.magnitude below + f.magnitude (below + 1)) * den) with
  | .lt => below
  | .gt => below + 1
  | .eq => if below % 2 = 0 then below else below + 1

end Format

end PriorityFormula
