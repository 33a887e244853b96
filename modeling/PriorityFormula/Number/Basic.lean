import PriorityFormula.Number.Format

/-!
# Numbers of a format

A finite number is a sign and a rank on the ladder of its format, so that every finite number has
exactly one representation and zero comes with either sign. A number may also be infinite or
undefined; there is a single undefined number. Bit patterns are read and written here.
-/

namespace PriorityFormula

/-- A finite number: a sign and a rung on the ladder of magnitudes. -/
@[ext]
structure FiniteNumber (f : Format) where
  /-- Whether the number carries a minus sign; zero may carry one too. -/
  negative : Bool
  /-- The rung of its magnitude. -/
  rank : Nat
  /-- The rung is one of a finite magnitude. -/
  rank_lt : rank < f.infiniteRank
  deriving DecidableEq

/-- A number as arithmetic produces it. -/
inductive Number (f : Format) where
  | undefined
  | infinite (negative : Bool)
  | finite (value : FiniteNumber f)
  deriving DecidableEq

namespace FiniteNumber

variable {f : Format}

/-- Whether the number is zero, of either sign. -/
def isZero (x : FiniteNumber f) : Bool :=
  x.rank == 0

/-- Whether the number is below zero; a zero never is, whatever its sign. -/
def isNegative (x : FiniteNumber f) : Bool :=
  x.negative && x.rank != 0

/-- The number with the opposite sign. -/
def negated (x : FiniteNumber f) : FiniteNumber f :=
  { x with negative := !x.negative }

/-- The distance from zero, in units. -/
def magnitude (x : FiniteNumber f) : Nat :=
  f.magnitude x.rank

/-- The number as a signed count of units; both zeros count zero. -/
def units (x : FiniteNumber f) : Int :=
  if x.negative then -(x.magnitude : Int) else x.magnitude

@[simp] theorem negated_negated (x : FiniteNumber f) : x.negated.negated = x := by
  simp [negated]

@[simp] theorem isZero_negated (x : FiniteNumber f) : x.negated.isZero = x.isZero := rfl

/-- A number below zero has an opposite that is not. -/
theorem isNegative_negated_of_isNegative {x : FiniteNumber f} (h : x.isNegative = true) :
    x.negated.isNegative = false := by
  simp_all [isNegative, negated]

/-- Opposite numbers count opposite units. -/
theorem units_negated (x : FiniteNumber f) : x.negated.units = -x.units := by
  cases h : x.negative <;> simp [units, negated, magnitude, h]

end FiniteNumber

namespace Number

variable {f : Format}

/-- The number at a rung with a sign; past the last finite rung it is infinite. -/
def ofRank (f : Format) (negative : Bool) (rank : Nat) : Number f :=
  if h : rank < f.infiniteRank then .finite ⟨negative, rank, h⟩ else .infinite negative

/-- The number nearest to `num / den` units, with a sign. -/
def nearest (f : Format) (negative : Bool) (num den : Nat) : Number f :=
  ofRank f negative (f.nearestRank num den)

/-- The number with the opposite sign. -/
def negated : Number f → Number f
  | undefined => undefined
  | infinite negative => infinite (!negative)
  | finite x => finite x.negated

/-- The number nearest to a whole number. -/
def ofNat (f : Format) (n : Nat) : Number f :=
  nearest f false (n * 2 ^ f.scale) 1

/-- The nearest number of another format. -/
def convert (g : Format) : Number f → Number g
  | undefined => undefined
  | infinite negative => infinite negative
  | finite x => nearest g x.negative (x.magnitude * 2 ^ g.scale) (2 ^ f.scale)

/-! ### Bit patterns

The sign is the highest bit and the rank is the rest. The rank just past the finite ones stands
for the infinities, and everything above it is the undefined number. -/

/-- The number with the given bit pattern. -/
def ofBits (f : Format) (bits : Nat) : Number f :=
  let half := 2 ^ (f.width - 1)
  let negative := bits / half % 2 == 1
  let rank := bits % half
  if rank ≤ f.infiniteRank then ofRank f negative rank else undefined

/-- The bit pattern of a number, if it has exactly one. -/
def toBits? : Number f → Option Nat
  | undefined => none
  | infinite negative => some (signBit negative + f.infiniteRank)
  | finite x => some (signBit x.negative + x.rank)
where
  /-- The contribution of a minus sign to a bit pattern. -/
  signBit (negative : Bool) : Nat :=
    if negative then 2 ^ (f.width - 1) else 0

/-- The bit pattern in lower-case hexadecimal at its full width; the undefined number by name. -/
def hex (x : Number f) : String :=
  match x.toBits? with
  | none => "NaN"
  | some bits =>
    let digits := Nat.toDigits 16 bits
    String.ofList (List.replicate (f.width / 4 - digits.length) '0' ++ digits)

/-- The value of a hexadecimal digit of either case. -/
def hexDigit? (c : Char) : Option Nat :=
  if '0' ≤ c ∧ c ≤ '9' then some (c.toNat - '0'.toNat)
  else if 'a' ≤ c ∧ c ≤ 'f' then some (c.toNat - 'a'.toNat + 10)
  else if 'A' ≤ c ∧ c ≤ 'F' then some (c.toNat - 'A'.toNat + 10)
  else none

/-- The number a special name stands for: an infinity, the undefined number, the negative zero, or
a bit pattern in hexadecimal after `0x`. -/
def ofName? (f : Format) (name : String) : Option (Number f) :=
  match name.toList with
  | ['N', 'a', 'N'] => some undefined
  | ['i', 'n', 'f'] => some (infinite false)
  | ['-', 'i', 'n', 'f'] => some (infinite true)
  | ['-', '0'] => some (ofRank f true 0)
  | '0' :: 'x' :: digits =>
    if digits.isEmpty || digits.length > f.width / 4 then none
    else (digits.mapM hexDigit?).map fun values =>
      ofBits f (values.foldl (fun bits digit => 16 * bits + digit) 0)
  | _ => none

end Number

end PriorityFormula
