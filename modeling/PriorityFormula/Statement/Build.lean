import PriorityFormula.Session

/-!
# Building statements

A compound statement takes the next identity when it is built. Building from a list of operands
checks their number, and a quotient refuses a literal zero as its divisor; a refused statement takes
no identity.
-/

namespace PriorityFormula

/-- The two operands of an operation, or the fault of a list that is too short or too long. -/
def pairOfOperands {S : Type} : List S → Except Fault (S × S)
  | [] => .error (.missingOperand .left)
  | [_] => .error (.missingOperand .right)
  | [left, right] => .ok (left, right)
  | _ :: _ :: _ :: _ => .error (.indexOutOfRange 2 2)

/-- The one operand of a rounding, or the fault of a list that is too short or too long. -/
def onlyOperand {S : Type} : List S → Except Fault S
  | [] => .error (.missingOperand .only)
  | [operand] => .ok operand
  | _ :: _ :: _ => .error (.indexOutOfRange 1 1)

namespace Boolean

variable {B : Type}

/-- Joins two conditions. -/
def newJoined (connective : Connective) (left right : Boolean B) : Work (Boolean B) := do
  return joined (← freshId) connective left right

/-- Joins the two conditions of a list. -/
def joinedOfOperands (connective : Connective) (operands : List (Boolean B)) :
    Attempt (Boolean B) := do
  let (left, right) ← pairOfOperands operands
  newJoined connective left right

/-- Chooses between two conditions. -/
def newTernary (condition ifTrue otherwise : Boolean B) : Work (Boolean B) := do
  return ternary (← freshId) condition ifTrue otherwise

end Boolean

namespace Numeric

variable {A B : Type} {f : Format}

/-- Adds or subtracts. -/
def newAdditive (sign : Sign) (left right : Numeric A B f) : Work (Numeric A B f) := do
  return additive (← freshId) sign left right

/-- Adds or subtracts the two operands of a list. -/
def additiveOfOperands (sign : Sign) (operands : List (Numeric A B f)) :
    Attempt (Numeric A B f) := do
  let (left, right) ← pairOfOperands operands
  newAdditive sign left right

/-- Whether scaling by the given factor is refused. -/
def isRefusedFactor (scaling : Scaling) (factor : Numeric A B f) : Bool :=
  scaling == .divide && factor.isLiteralZero

/-- Multiplies or divides. -/
def newScaled (scaling : Scaling) (left right : Numeric A B f) : Attempt (Numeric A B f) := do
  if right.isRefusedFactor scaling then throw .divisionByZero
  return scaled (← freshId) scaling left right

/-- Multiplies, which is never refused. -/
def newProduct (left right : Numeric A B f) : Work (Numeric A B f) := do
  return scaled (← freshId) .multiply left right

/-- Multiplies or divides the two operands of a list. -/
def scaledOfOperands (scaling : Scaling) (operands : List (Numeric A B f)) :
    Attempt (Numeric A B f) := do
  let (left, right) ← pairOfOperands operands
  newScaled scaling left right

/-- Rounds to a whole number. -/
def newRound (mode : Rounding) (operand : Numeric A B f) : Work (Numeric A B f) := do
  return round (← freshId) mode operand

/-- Rounds the only operand of a list. -/
def roundOfOperands (mode : Rounding) (operands : List (Numeric A B f)) :
    Attempt (Numeric A B f) := do
  let operand ← onlyOperand operands
  newRound mode operand

/-- Chooses between two numbers. -/
def newTernary (condition : Boolean B) (ifTrue otherwise : Numeric A B f) :
    Work (Numeric A B f) := do
  return ternary (← freshId) condition ifTrue otherwise

end Numeric

end PriorityFormula
