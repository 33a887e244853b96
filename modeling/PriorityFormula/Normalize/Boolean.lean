import PriorityFormula.Chain.Logical
import PriorityFormula.Normalize.Outcome

/-!
# Normal forms of conditions

In normal form no condition has a condition joined by its own connective on its right. As for
numbers, normalizing works from the operands up, an offending right operand is merged into its
parent as a flat chain, leaves are normal, and ternaries have no normal form yet.
-/

namespace PriorityFormula

namespace Boolean

variable {B : Type}

/-- Puts a joined condition together from its normalized operands. -/
def joinLogical {T : Type} (id : Id) (connective : Connective) (left right : Normalized (Boolean B))
    (onNormalized onUnchanged : Boolean B → Work T) : Work T :=
  if right.statement.joinedBy connective then do
    let chain ← left.statement.attachParts connective (right.statement.parts connective)
    record (.mergedLogical connective chain.text)
    onNormalized chain
  else
    let statement := joined id connective left.statement right.statement
    if left.wasNormalized || right.wasNormalized then onNormalized statement
    else onUnchanged statement

/-- Normalizes a condition without announcing its root, then runs the continuation that applies. -/
def normalizeNodeWith {T : Type} :
    Boolean B → (onNormalized onUnchanged : Boolean B → Work T) → Attempt T
  | joined id connective left right, onNormalized, onUnchanged => do
    record (.normalizing left.kind)
    let first ← left.normalizeNodeWith Normalized.changed Normalized.unchanged
    record (.normalizing right.kind)
    let second ← right.normalizeNodeWith Normalized.changed Normalized.unchanged
    ExceptT.lift (joinLogical id connective first second onNormalized onUnchanged)
  | literal value, _, onUnchanged => ExceptT.lift (onUnchanged (literal value))
  | var v, _, onUnchanged => ExceptT.lift (onUnchanged (var v))
  | ternary .., _, _ => throw (.notImplemented .booleanTernary)

/-- Normalizes a condition, then runs the continuation that applies. -/
def normalizeWith {T : Type} (s : Boolean B) (onNormalized onUnchanged : Boolean B → Work T) :
    Attempt T := do
  record (.normalizing s.kind)
  s.normalizeNodeWith onNormalized onUnchanged

/-- Normalizes a condition and reports whether anything was changed. -/
def tryNormalize (s : Boolean B) : Attempt (Normalized (Boolean B)) :=
  s.normalizeWith Normalized.changed Normalized.unchanged

/-- Like `tryNormalize`, without announcing the root. -/
def tryNormalizeNode (s : Boolean B) : Attempt (Normalized (Boolean B)) :=
  s.normalizeNodeWith Normalized.changed Normalized.unchanged

/-- Normalizes a condition and runs the continuation that applies, if there is one. -/
def normalize (s : Boolean B) (onNormalized onUnchanged : Option (Boolean B → Work (Boolean B))) :
    Attempt (Boolean B) :=
  s.normalizeWith (continueWith onNormalized) (continueWith onUnchanged)

/-- Like `normalize`, without announcing the root. -/
def normalizeNode (s : Boolean B)
    (onNormalized onUnchanged : Option (Boolean B → Work (Boolean B))) : Attempt (Boolean B) :=
  s.normalizeNodeWith (continueWith onNormalized) (continueWith onUnchanged)

/-- Creates a ternary, for which there is no normal form yet. -/
def createTernary (_condition _ifTrue _otherwise : Boolean B) : Attempt (Boolean B) :=
  throw (.notImplemented .booleanTernary)

end Boolean

end PriorityFormula
