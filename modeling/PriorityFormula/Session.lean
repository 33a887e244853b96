import PriorityFormula.Fault
import PriorityFormula.Operator
import PriorityFormula.Statement.Basic

/-!
# Sessions

Work on statements happens in a session, which hands out identities in ascending order and keeps the
messages that were recorded. Work that can fail leaves the session as far as it got: identities
that were handed out stay taken, and messages stay recorded.
-/

namespace PriorityFormula

/-- What is recorded while statements are normalized and chains are created. -/
inductive Message where
  /-- A statement of a kind is about to be normalized. -/
  | normalizing (kind : Kind)
  /-- The right operand of a sum or difference was merged; the result is shown. -/
  | mergedAdditive (formula : List Char)
  /-- The right operand of a connective was merged; the result is shown. -/
  | mergedLogical (connective : Connective) (formula : List Char)
  /-- A chain of additions and subtractions was created. -/
  | createdAdditive (formula : List Char)
  /-- A chain of a connective was created. -/
  | createdLogical (connective : Connective) (formula : List Char)
  deriving DecidableEq, Repr

/-- The message as a line: its level, then its wording. -/
def Message.line : Message → String
  | normalizing kind => "TRACE normalizing " ++ kind.name ++ " statement"
  | mergedAdditive formula => "DEBUG merged additive operand into " ++ String.ofList formula
  | mergedLogical connective formula =>
    "DEBUG merged " ++ connective.operator.name ++ " operand into " ++ String.ofList formula
  | createdAdditive formula => "DEBUG created additive chain " ++ String.ofList formula
  | createdLogical connective formula =>
    "DEBUG created " ++ connective.operator.name ++ " chain " ++ String.ofList formula

/-- The state of a session. -/
structure Session where
  /-- The index of the identity that is handed out next. -/
  nextIndex : Nat
  /-- The recorded messages, in order. -/
  messages : List Message
  deriving DecidableEq, Repr

/-- The state in which every session begins. -/
def Session.start : Session :=
  ⟨0, []⟩

/-- Work in a session. -/
abbrev Work := StateM Session

/-- Work in a session that may fail. -/
abbrev Attempt := ExceptT Fault Work

/-- Takes the next identity. -/
def freshId : Work Id :=
  modifyGet fun session =>
    (⟨session.nextIndex⟩, { session with nextIndex := session.nextIndex + 1 })

/-- Records a message. -/
def record (message : Message) : Work Unit :=
  modify fun session => { session with messages := session.messages ++ [message] }

end PriorityFormula
