import PriorityFormula.Chain.Additive
import PriorityFormula.Normalize.Outcome

/-!
# Normal forms of numeric statements

In normal form no sum or difference has a sum, a difference or a literal below zero on its right.
Normalizing works from the operands up: an offending right operand is merged into its parent as a
flat chain, and a statement whose right operand does not offend keeps its identity. Leaves are
normal. Products, quotients, roundings and ternaries have no normal form yet; rather than pass one
through, normalizing fails.

Every visited statement is announced by a message, except where a compound statement is handed to
its own normalizer directly, by the functions that speak of a node.
-/

namespace PriorityFormula

namespace Numeric

variable {A B : Type} {f : Format}

/-- Whether a right operand has to be merged into its parent. -/
def isMergeable (s : Numeric A B f) : Bool :=
  s.isAdditive || s.isNegativeLiteral

/-- Puts a sum or difference together from its normalized operands. -/
def joinAdditive {T : Type} (id : Id) (sign : Sign) (left right : Normalized (Numeric A B f))
    (onNormalized onUnchanged : Numeric A B f → Work T) : Work T :=
  if right.statement.isMergeable then do
    let chain ← left.statement.attachTerms (right.statement.terms sign)
    record (.mergedAdditive chain.text)
    onNormalized chain
  else
    let statement := additive id sign left.statement right.statement
    if left.wasNormalized || right.wasNormalized then onNormalized statement
    else onUnchanged statement

/-- Normalizes a statement without announcing its root, then runs the continuation that applies. -/
def normalizeNodeWith {T : Type} :
    Numeric A B f → (onNormalized onUnchanged : Numeric A B f → Work T) → Attempt T
  | additive id sign left right, onNormalized, onUnchanged => do
    record (.normalizing left.kind)
    let first ← left.normalizeNodeWith Normalized.changed Normalized.unchanged
    record (.normalizing right.kind)
    let second ← right.normalizeNodeWith Normalized.changed Normalized.unchanged
    ExceptT.lift (joinAdditive id sign first second onNormalized onUnchanged)
  | literal value, _, onUnchanged => ExceptT.lift (onUnchanged (literal value))
  | var v, _, onUnchanged => ExceptT.lift (onUnchanged (var v))
  | scaled _ .multiply _ _, _, _ => throw (.notImplemented .product)
  | scaled _ .divide _ _, _, _ => throw (.notImplemented .quotient)
  | round .., _, _ => throw (.notImplemented .round)
  | ternary .., _, _ => throw (.notImplemented .numericalTernary)

/-- Normalizes a statement, then runs the continuation that applies. -/
def normalizeWith {T : Type} (s : Numeric A B f)
    (onNormalized onUnchanged : Numeric A B f → Work T) : Attempt T := do
  record (.normalizing s.kind)
  s.normalizeNodeWith onNormalized onUnchanged

/-- Normalizes a statement and reports whether anything was changed. -/
def tryNormalize (s : Numeric A B f) : Attempt (Normalized (Numeric A B f)) :=
  s.normalizeWith Normalized.changed Normalized.unchanged

/-- Like `tryNormalize`, without announcing the root. -/
def tryNormalizeNode (s : Numeric A B f) : Attempt (Normalized (Numeric A B f)) :=
  s.normalizeNodeWith Normalized.changed Normalized.unchanged

/-- Normalizes a statement and runs the continuation that applies, if there is one. -/
def normalize (s : Numeric A B f)
    (onNormalized onUnchanged : Option (Numeric A B f → Work (Numeric A B f))) :
    Attempt (Numeric A B f) :=
  s.normalizeWith (continueWith onNormalized) (continueWith onUnchanged)

/-- Like `normalize`, without announcing the root. -/
def normalizeNode (s : Numeric A B f)
    (onNormalized onUnchanged : Option (Numeric A B f → Work (Numeric A B f))) :
    Attempt (Numeric A B f) :=
  s.normalizeNodeWith (continueWith onNormalized) (continueWith onUnchanged)

/-! ### Creating statements in normal form -/

/-- Creates the flat chain of a scaling, for which there is no normal form yet. -/
def createScaled (scaling : Scaling) (_first : Numeric A B f) (_rest : List (Numeric A B f)) :
    Attempt (Numeric A B f) :=
  match scaling with
  | .multiply => throw (.notImplemented .product)
  | .divide => throw (.notImplemented .quotient)

/-- Creates a rounding, for which there is no normal form yet. -/
def createRound (_mode : Rounding) (_operand : Numeric A B f) : Attempt (Numeric A B f) :=
  throw (.notImplemented .round)

/-- Creates a ternary, for which there is no normal form yet. -/
def createTernary (_condition : Boolean B) (_ifTrue _otherwise : Numeric A B f) :
    Attempt (Numeric A B f) :=
  throw (.notImplemented .numericalTernary)

end Numeric

end PriorityFormula
