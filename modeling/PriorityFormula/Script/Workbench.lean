import PriorityFormula.Context

/-!
# Workbenches

A workbench holds statements in named slots, remembers identities under names, and runs one session.
Statements are never copied: taking one empties its slot.
-/

namespace PriorityFormula.Script

/-- Why a step of a script has no answer. -/
inductive Failure where
  | fault (fault : Fault)
  /-- The slot holds nothing. -/
  | emptySlot
  /-- A leaf was to be taken apart or handed to the normalizer of its kind. -/
  | notCompound
  /-- No identity is remembered under the name. -/
  | noMark
  /-- The step asks for something that is not offered. -/
  | malformed
  deriving DecidableEq, Repr

/-- The state of a workbench. -/
structure Workbench (f : Format) where
  session : Session
  slots : List (String × Formula f)
  marks : List (String × Id)

/-- The empty workbench. -/
def Workbench.start (f : Format) : Workbench f :=
  ⟨.start, [], []⟩

/-- Work at a workbench. What was done before a failure stays done. -/
abbrev Job (f : Format) := ExceptT Failure (StateM (Workbench f))

namespace Job

variable {f : Format} {α : Type}

/-- Work in the session of the workbench. -/
def ofWork (work : Work α) : Job f α := do
  let bench ← get
  let (result, session) := work.run bench.session
  set { bench with session := session }
  return result

/-- Work in the session of the workbench that may fail. -/
def ofAttempt (attempt : Attempt α) : Job f α := do
  match ← ofWork attempt.run with
  | .ok result => return result
  | .error fault => throw (.fault fault)

/-- A result that may be a fault. -/
def ofExcept (result : Except Fault α) : Job f α :=
  match result with
  | .ok value => pure value
  | .error fault => throw (.fault fault)

/-- The statement in a slot, which stays there. -/
def look (slot : String) : Job f (Formula f) := do
  match (← get).slots.lookup slot with
  | some formula => return formula
  | none => throw .emptySlot

/-- The statement in a slot, which is taken out. -/
def take (slot : String) : Job f (Formula f) := do
  let formula ← look slot
  modify fun bench => { bench with slots := bench.slots.filter fun entry => entry.1 != slot }
  return formula

/-- Puts a statement into a slot in place of what it held. -/
def put (slot : String) (formula : Formula f) : Job f Unit :=
  modify fun bench =>
    { bench with slots := (slot, formula) :: bench.slots.filter fun entry => entry.1 != slot }

/-- Takes a numeric statement out of a slot. -/
def takeQuantity (slot : String) : Job f (Quantity f) := do
  match ← look slot with
  | .numeric s =>
    let _ ← take slot
    return s
  | .boolean _ => throw .malformed

/-- Takes a condition out of a slot. -/
def takeCondition (slot : String) : Job f Condition := do
  match ← look slot with
  | .boolean s =>
    let _ ← take slot
    return s
  | .numeric _ => throw .malformed

end Job

end PriorityFormula.Script
