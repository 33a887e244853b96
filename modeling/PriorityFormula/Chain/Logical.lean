import PriorityFormula.Session
import PriorityFormula.Statement.Text

/-!
# Chains of a connective

A condition is unrolled into the parts that one connective joins, in order; conditions joined by the
other connective stay whole. Attaching parts to a head, one after the other, gives a chain that
leans to the left, and since the order is kept the same conditions settle it.
-/

namespace PriorityFormula

namespace Boolean

variable {B : Type}

/-- The parts of a condition that a connective joins. -/
def parts (connective : Connective) : Boolean B → List (Boolean B)
  | joined id own left right =>
    if own = connective then left.parts connective ++ right.parts connective
    else [joined id own left right]
  | literal value => [literal value]
  | var v => [var v]
  | ternary id condition ifTrue otherwise => [ternary id condition ifTrue otherwise]

/-- The leftmost part of a chain and the parts behind it. -/
def splitHead (connective : Connective) : Boolean B → Boolean B × List (Boolean B)
  | joined id own left right =>
    if own = connective then
      let (head, behind) := left.splitHead connective
      (head, behind ++ right.parts connective)
    else (joined id own left right, [])
  | literal value => (literal value, [])
  | var v => (var v, [])
  | ternary id condition ifTrue otherwise => (ternary id condition ifTrue otherwise, [])

/-- Attaches parts to a head by a connective, each with a fresh identity. -/
def attachParts (connective : Connective) (head : Boolean B) : List (Boolean B) → Work (Boolean B)
  | [] => pure head
  | part :: rest => do
    let id ← freshId
    (joined id connective head part).attachParts connective rest

/-- Creates the flat chain of a first condition and further ones. -/
def createLogical (connective : Connective) (first : Boolean B) (rest : List (Boolean B)) :
    Work (Boolean B) := do
  let (head, behind) := first.splitHead connective
  let chain ← head.attachParts connective (behind ++ rest.flatMap (parts connective))
  record (.createdLogical connective chain.text)
  return chain

end Boolean

end PriorityFormula
