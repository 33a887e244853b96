import PriorityFormula.Kind
import PriorityFormula.Text.Quoted

/-!
# Faults

What can go wrong when statements are built, taken apart or normalized. A fault is a cause; its
wording is in `Fault.message`.
-/

namespace PriorityFormula

/-- The place of an operand that is missing. -/
inductive Position where
  | left
  | right
  | only
  deriving DecidableEq, Repr

/-- The position's name in messages. -/
def Position.name : Position → String
  | left => "left"
  | right => "right"
  | only => "only"

/-- The values that no literal can have. -/
inductive NonFinite where
  | undefined
  | infinite (negative : Bool)
  deriving DecidableEq, Repr

/-- The value's name in messages. -/
def NonFinite.name : NonFinite → String
  | undefined => "NaN"
  | infinite false => "inf"
  | infinite true => "-inf"

/-- The families of tags that are read from text. -/
inductive TagFamily where
  | rounding
  | baseFormula
  deriving DecidableEq, Repr

/-- The family's name in messages. -/
def TagFamily.name : TagFamily → String
  | rounding => "rounding type"
  | baseFormula => "base formula type"

/-- The cause of a failure. -/
inductive Fault where
  /-- Too few operands were given; the first missing one is named. -/
  | missingOperand (position : Position)
  /-- A literal was to have a value that is not finite. -/
  | invalidLiteral (value : NonFinite)
  /-- A literal zero was to be a divisor. -/
  | divisionByZero
  /-- There is no operand at an index. -/
  | indexOutOfRange (index length : Nat)
  /-- A text cannot name a variable. -/
  | invalidName (text : String)
  /-- A text is no tag of a family. -/
  | unknownTag (family : TagFamily) (text : String)
  /-- Statements of a kind have no normal form yet. -/
  | notImplemented (kind : Kind)
  deriving DecidableEq, Repr

/-- The wording of a fault. -/
def Fault.message : Fault → String
  | missingOperand position => "Missing " ++ position.name ++ " operand"
  | invalidLiteral value => "Invalid literal value: " ++ value.name
  | divisionByZero => "Division by zero"
  | indexOutOfRange index length =>
    "Index " ++ toString index ++ " is out of range for a statement with " ++ toString length ++
      " operands"
  | invalidName text => "Invalid variable name: " ++ Text.quoted text
  | unknownTag family text => "Unknown " ++ family.name ++ ": " ++ Text.quoted text
  | notImplemented kind => "Normalization of " ++ kind.name ++ " statements is not implemented"

end PriorityFormula
