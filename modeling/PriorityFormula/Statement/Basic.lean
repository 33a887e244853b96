import PriorityFormula.Name
import PriorityFormula.Operator
import PriorityFormula.Tag
import PriorityFormula.Number.Decimal

/-!
# Statements

A priority formula is a tree of statements. Conditions are valued by truth (`Boolean`), everything
else by numbers (`Numeric`); a condition never contains a number, while a number may depend on a
condition. Leaves are literals and variables, and every compound statement carries an identity.

A variable is a name together with an accessor. What an accessor gives is a matter of the context
in which a formula is evaluated, so accessors stay abstract here: `A` is the type of those that give
numbers and `B` the type of those that give truth values.
-/

namespace PriorityFormula

/-- The identity of a compound statement. -/
structure Id where
  index : Nat
  deriving DecidableEq, Repr

/-- A named access to the context. -/
structure Variable (A : Type) where
  name : Name
  accessor : A
  deriving DecidableEq

/-- A statement valued by truth. -/
inductive Boolean (B : Type) where
  | literal (value : Bool)
  | var (v : Variable B)
  | joined (id : Id) (connective : Connective) (left right : Boolean B)
  | ternary (id : Id) (condition ifTrue otherwise : Boolean B)
  deriving DecidableEq

/-- A statement valued by numbers of the format `f`. -/
inductive Numeric (A B : Type) (f : Format) where
  | literal (value : FiniteNumber f)
  | var (v : Variable A)
  | additive (id : Id) (sign : Sign) (left right : Numeric A B f)
  | scaled (id : Id) (scaling : Scaling) (left right : Numeric A B f)
  | round (id : Id) (mode : Rounding) (operand : Numeric A B f)
  | ternary (id : Id) (condition : Boolean B) (ifTrue otherwise : Numeric A B f)
  deriving DecidableEq

/-- The literal with a given value, which has to be finite. -/
def FiniteNumber.ofNumber {f : Format} : Number f → Except Fault (FiniteNumber f)
  | .finite x => .ok x
  | .infinite negative => .error (.invalidLiteral (.infinite negative))
  | .undefined => .error (.invalidLiteral .undefined)

namespace Boolean

variable {B : Type}

/-- The kind of the root. -/
def kind : Boolean B → Kind
  | literal _ => .booleanLiteral
  | var _ => .booleanVariable
  | joined _ .and _ _ => .and
  | joined _ .or _ _ => .or
  | ternary .. => .booleanTernary

/-- The identity of the root; leaves have none. -/
def id? : Boolean B → Option Id
  | literal _ | var _ => none
  | joined id .. | ternary id .. => some id

/-- The number of operands of the root. -/
def arity : Boolean B → Nat
  | literal _ | var _ => 0
  | joined .. => 2
  | ternary .. => 3

/-- Whether the root has operands. -/
def isCompound (s : Boolean B) : Bool :=
  s.arity != 0

/-- Whether the root joins two conditions by the given connective. -/
def joinedBy (connective : Connective) : Boolean B → Bool
  | joined _ c _ _ => c == connective
  | literal _ | var _ | ternary .. => false

end Boolean

namespace Numeric

variable {A B : Type} {f : Format}

/-- The kind of the root. -/
def kind : Numeric A B f → Kind
  | literal _ => .numericalLiteral
  | var _ => .numericalVariable
  | additive _ .plus _ _ => .sum
  | additive _ .minus _ _ => .difference
  | scaled _ .multiply _ _ => .product
  | scaled _ .divide _ _ => .quotient
  | round .. => .round
  | ternary .. => .numericalTernary

/-- The identity of the root; leaves have none. -/
def id? : Numeric A B f → Option Id
  | literal _ | var _ => none
  | additive id .. | scaled id .. | round id .. | ternary id .. => some id

/-- The number of operands of the root. -/
def arity : Numeric A B f → Nat
  | literal _ | var _ => 0
  | round .. => 1
  | additive .. | scaled .. => 2
  | ternary .. => 3

/-- Whether the root has operands. -/
def isCompound (s : Numeric A B f) : Bool :=
  s.arity != 0

/-- Whether the root is a sum or a difference. -/
def isAdditive : Numeric A B f → Bool
  | additive .. => true
  | literal _ | var _ | scaled .. | round .. | ternary .. => false

/-- Whether the root scales a factor in the given way. -/
def scaledBy (scaling : Scaling) : Numeric A B f → Bool
  | scaled _ s _ _ => s == scaling
  | literal _ | var _ | additive .. | round .. | ternary .. => false

/-- Whether the root chooses between two branches. -/
def isTernary : Numeric A B f → Bool
  | ternary .. => true
  | literal _ | var _ | additive .. | scaled .. | round .. => false

/-- Whether the statement is a literal zero, of either sign. -/
def isLiteralZero : Numeric A B f → Bool
  | literal value => value.isZero
  | var _ | additive .. | scaled .. | round .. | ternary .. => false

/-- Whether the statement is a literal below zero. -/
def isNegativeLiteral : Numeric A B f → Bool
  | literal value => value.isNegative
  | var _ | additive .. | scaled .. | round .. | ternary .. => false

end Numeric

/-- A statement of either value type. -/
inductive Node (A B : Type) (f : Format) where
  | numeric (s : Numeric A B f)
  | boolean (s : Boolean B)
  deriving DecidableEq

namespace Node

variable {A B : Type} {f : Format}

/-- The kind of the root. -/
def kind : Node A B f → Kind
  | numeric s => s.kind
  | boolean s => s.kind

/-- The identity of the root; leaves have none. -/
def id? : Node A B f → Option Id
  | numeric s => s.id?
  | boolean s => s.id?

/-- The number of operands of the root. -/
def arity : Node A B f → Nat
  | numeric s => s.arity
  | boolean s => s.arity

end Node

end PriorityFormula
