import PriorityFormula.Session

/-!
# Outcomes of normalization

Normalizing a statement ends in one of two ways: something in it was changed, or nothing was. A
caller can have the outcome reported, or hand in one continuation for each way.
-/

namespace PriorityFormula

/-- A statement in normal form, and whether anything was changed to get there. -/
structure Normalized (S : Type) where
  statement : S
  wasNormalized : Bool
  deriving DecidableEq

namespace Normalized

variable {S : Type}

/-- Reports a statement as changed. -/
def changed (statement : S) : Work (Normalized S) :=
  pure ⟨statement, true⟩

/-- Reports a statement as left alone. -/
def unchanged (statement : S) : Work (Normalized S) :=
  pure ⟨statement, false⟩

end Normalized

/-- The continuation to run; a missing one returns the statement as it is. -/
def continueWith {S : Type} (continuation : Option (S → Work S)) : S → Work S :=
  continuation.getD pure

end PriorityFormula
