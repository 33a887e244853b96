import PriorityFormula.Session
import PriorityFormula.Statement.Text

/-!
# Chains of additions and subtractions

A statement is unrolled into signed terms: a nested sum or difference gives up its operands, the
right operand of a difference with the other sign, and a literal below zero becomes its opposite
with the other sign. Attaching signed terms to a head, one after the other, gives a chain that
leans to the left.
-/

namespace PriorityFormula

namespace Numeric

variable {A B : Type} {f : Format}

/-- The signed terms of a statement that stands behind a sign, in order. -/
def terms (sign : Sign) : Numeric A B f → List (Sign × Numeric A B f)
  | additive _ inner left right => left.terms sign ++ right.terms (sign.behind inner)
  | literal value =>
    if value.isNegative then [(sign.flipped, literal value.negated)] else [(sign, literal value)]
  | var v => [(sign, var v)]
  | scaled id scaling left right => [(sign, scaled id scaling left right)]
  | round id mode operand => [(sign, round id mode operand)]
  | ternary id condition ifTrue otherwise => [(sign, ternary id condition ifTrue otherwise)]

/-- The leftmost operand of a chain and the signed terms behind it. The leftmost operand stays as
it is, also if it is a literal below zero. -/
def splitHead : Numeric A B f → Numeric A B f × List (Sign × Numeric A B f)
  | additive _ sign left right =>
    let (head, behind) := left.splitHead
    (head, behind ++ right.terms sign)
  | literal value => (literal value, [])
  | var v => (var v, [])
  | scaled id scaling left right => (scaled id scaling left right, [])
  | round id mode operand => (round id mode operand, [])
  | ternary id condition ifTrue otherwise => (ternary id condition ifTrue otherwise, [])

/-- Attaches signed terms to a head, each with a fresh identity. -/
def attachTerms (head : Numeric A B f) : List (Sign × Numeric A B f) → Work (Numeric A B f)
  | [] => pure head
  | (sign, term) :: rest => do
    let id ← freshId
    (additive id sign head term).attachTerms rest

/-- Creates the flat chain of a first operand and further ones that all stand behind `sign`. -/
def createAdditive (sign : Sign) (first : Numeric A B f) (rest : List (Numeric A B f)) :
    Work (Numeric A B f) := do
  let (head, behind) := first.splitHead
  let chain ← head.attachTerms (behind ++ rest.flatMap (terms sign))
  record (.createdAdditive chain.text)
  return chain

end Numeric

end PriorityFormula
