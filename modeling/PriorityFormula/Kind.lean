/-!
# Kinds of statements
-/

namespace PriorityFormula

/-- What a statement is at its root. -/
inductive Kind where
  | numericalLiteral
  | booleanLiteral
  | numericalVariable
  | booleanVariable
  | sum
  | difference
  | product
  | quotient
  | round
  | and
  | or
  | numericalTernary
  | booleanTernary
  deriving DecidableEq, Repr

/-- The kind's name, as messages and descriptions show it. -/
def Kind.name : Kind → String
  | numericalLiteral => "NumericalLiteral"
  | booleanLiteral => "BooleanLiteral"
  | numericalVariable => "NumericalVariable"
  | booleanVariable => "BooleanVariable"
  | sum => "Sum"
  | difference => "Difference"
  | product => "Product"
  | quotient => "Quotient"
  | round => "Round"
  | and => "And"
  | or => "Or"
  | numericalTernary => "NumericalTernary"
  | booleanTernary => "BooleanTernary"

end PriorityFormula
