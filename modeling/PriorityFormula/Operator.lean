/-!
# Operators

The six binary operators of formulas and the three pairs they fall into. A `Sign` stands in front
of a term of a chain of additions and subtractions, a `Scaling` joins two factors, and a
`Connective` joins two conditions.
-/

namespace PriorityFormula

/-- A binary operator. -/
inductive Operator where
  | add
  | subtract
  | multiply
  | divide
  | and
  | or
  deriving DecidableEq, Repr

namespace Operator

/-- The operator as it stands in a formula. -/
def symbol : Operator → List Char
  | add => ['+']
  | subtract => ['-']
  | multiply => ['*']
  | divide => ['/']
  | and => ['&', '&']
  | or => ['|', '|']

/-- The operator's name. -/
def name : Operator → String
  | add => "Add"
  | subtract => "Subtract"
  | multiply => "Multiply"
  | divide => "Divide"
  | and => "And"
  | or => "Or"

/-- The operators that count as mathematical: addition, multiplication and division do, subtraction
does not. -/
def isMath : Operator → Bool
  | add | multiply | divide => true
  | subtract | and | or => false

end Operator

/-- The sign of a term in a chain of additions and subtractions. -/
inductive Sign where
  | plus
  | minus
  deriving DecidableEq, Repr

namespace Sign

/-- The other sign. -/
def flipped : Sign → Sign
  | plus => minus
  | minus => plus

/-- The operator that puts a term with this sign behind a chain. -/
def operator : Sign → Operator
  | plus => .add
  | minus => .subtract

@[simp] theorem flipped_flipped (sign : Sign) : sign.flipped.flipped = sign := by
  cases sign <;> rfl

end Sign

/-- How a second factor scales a first one. -/
inductive Scaling where
  | multiply
  | divide
  deriving DecidableEq, Repr

/-- The operator that writes a scaling. -/
def Scaling.operator : Scaling → Operator
  | multiply => .multiply
  | divide => .divide

/-- How two conditions are joined. -/
inductive Connective where
  | and
  | or
  deriving DecidableEq, Repr

namespace Connective

/-- The operator that writes a connective. -/
def operator : Connective → Operator
  | and => .and
  | or => .or

/-- The value of the left condition that settles the joined one, so that the right condition is not
looked at. -/
def settles : Connective → Bool → Bool
  | and, left => !left
  | or, left => left

end Connective

end PriorityFormula
