import PriorityFormula.Script.Answer
import PriorityFormula.Script.Recipe

/-!
# Scripts

A script is a list of steps at one workbench. Every step gives an answer or a failure together with
the messages recorded during it, and the script goes on after a failure.
-/

namespace PriorityFormula.Script

/-- What a continuation does with a normalized statement. -/
inductive ContinuationRecipe (f : Format) where
  | same
  /-- Adds a statement. -/
  | add (recipe : QuantityRecipe f)
  /-- Subtracts from a statement. -/
  | subtractFrom (recipe : QuantityRecipe f)
  /-- Multiplies by a statement. -/
  | multiply (recipe : QuantityRecipe f)
  /-- Rounds by a tagged rounding. -/
  | round (tag : String)
  /-- Requires a further condition. -/
  | andAlso (recipe : ConditionRecipe)
  /-- Puts another condition in front as an alternative. -/
  | orElse (recipe : ConditionRecipe)

/-- How a normalization reports back. -/
inductive Reporting where
  /-- Reports whether anything was changed. -/
  | outcome
  /-- Runs the continuations that are given. -/
  | optional
  /-- Runs one of two continuations; one that is not given is the identity. -/
  | always
  deriving DecidableEq, Repr

/-- A step of a script. -/
inductive Step (f : Format) where
  /-- Builds a statement and puts it into a slot. -/
  | build (slot : String) (recipe : Recipe f)
  | explicit (slot : String)
  | outline (slot : String)
  | describe (slot : String) (path : List Nat)
  | operand (slot : String) (path : List Nat) (index : Nat)
  /-- Remembers the identity of a statement inside a slot. -/
  | mark (slot : String) (path : List Nat) (name : String)
  /-- Looks for a remembered identity inside a slot. -/
  | find (slot : String) (mark : String)
  | evaluate (slot : String) (contexts : List Context)
  /-- Evaluates and tells which variables were read. -/
  | trace (slot : String) (contexts : List Context)
  /-- Evaluates the formula of a statement from its text. -/
  | reread (slot : String) (context : Context)
  /-- Normalizes; `direct` hands a compound statement to the normalizer of its kind. -/
  | normalize (slot : String) (reporting : Reporting) (direct : Bool)
      (onNormalized onUnchanged : Option (ContinuationRecipe f))

namespace Step

variable {f : Format}

/-- The statement reached by operand indexes; every statement on the way has to be compound. -/
def follow (formula : Formula f) : List Nat → Job f (Formula f)
  | [] => pure formula
  | index :: path => do
    if formula.arity = 0 then throw .notCompound
    let operand ← Job.ofExcept (formula.get index)
    follow operand path

/-- The value of a statement in a context, with the declared variables that were read. -/
def traceIn (formula : Formula f) (context : Context) :
    Traced String (Reader.Value (Number f)) :=
  match formula with
  | .numeric s =>
    let traced := s.trace (context.interpretation f)
    ⟨.number traced.value, traced.reads.filterMap declared?⟩
  | .boolean s =>
    let traced := (s.trace context.flag).mapReads (Access.flag (A := NumberSource f))
    ⟨.truth traced.value, traced.reads.filterMap declared?⟩
where
  /-- The name of a variable that is not built in. -/
  declared? : Access (NumberSource f) FlagSource → Option String
    | .number v => if v.accessor.isBuiltIn then none else some v.name.text
    | .flag v => if v.accessor.isBuiltIn then none else some v.name.text

/-- The continuation for numeric statements that a recipe describes. -/
def quantityContinuation : ContinuationRecipe f → Job f (Quantity f → Work (Quantity f))
  | .same => return pure
  | .add recipe => do
    let other ← recipe.build
    return fun s => Numeric.newAdditive .plus s other
  | .subtractFrom recipe => do
    let other ← recipe.build
    return fun s => Numeric.newAdditive .minus other s
  | .multiply recipe => do
    let other ← recipe.build
    return fun s => Numeric.newProduct s other
  | .round tag => do
    let mode ← Job.ofExcept (Rounding.ofTag tag)
    return Numeric.newRound mode
  | .andAlso _ | .orElse _ => throw .malformed

/-- The continuation for conditions that a recipe describes. -/
def conditionContinuation : ContinuationRecipe f → Job f (Condition → Work Condition)
  | .same => return pure
  | .andAlso recipe => do
    let other ← recipe.build
    return fun s => Boolean.newJoined .and s other
  | .orElse recipe => do
    let other ← recipe.build
    return fun s => Boolean.newJoined .or other s
  | .add _ | .subtractFrom _ | .multiply _ | .round _ => throw .malformed

/-- Builds something that may be missing. -/
def buildOptional {α β : Type} (build : α → Job f β) : Option α → Job f (Option β)
  | none => return none
  | some recipe => do return some (← build recipe)

/-- Runs a continuation and tells which one it was: `way` if it is reported. -/
def tell {S : Type} (reporting : Reporting) (way : Bool) (continuation : Option (S → Work S))
    (statement : S) : Work (S × Outcome) := do
  match reporting with
  | .outcome => return (statement, .wasNormalized way)
  | .optional =>
    return (← continueWith continuation statement, .continued (continuation.map fun _ => way))
  | .always => return (← continueWith continuation statement, .continued (some way))

/-- Takes a statement out of a slot, unless it is a leaf that would be handed to the normalizer of
its kind. -/
def takeToNormalize (slot : String) (direct : Bool) : Job f Unit := do
  let formula ← Job.look slot
  if direct && formula.arity == 0 then throw .notCompound
  let _ ← Job.take slot

/-- Normalizes the statement in a slot. The continuations are built first; a fault of the
normalizer leaves the slot empty. -/
def runNormalize (slot : String) (reporting : Reporting) (direct : Bool)
    (onNormalized onUnchanged : Option (ContinuationRecipe f)) : Job f (Answer f) := do
  match ← Job.look slot with
  | .numeric s =>
    let yes ← buildOptional quantityContinuation onNormalized
    let no ← buildOptional quantityContinuation onUnchanged
    takeToNormalize slot direct
    let normalizer := if direct then s.normalizeNodeWith else s.normalizeWith
    let (result, outcome) ←
      Job.ofAttempt (normalizer (tell reporting true yes) (tell reporting false no))
    Job.put slot (.numeric result)
    return .normalized (.of (Node.numeric result)) outcome
  | .boolean s =>
    let yes ← buildOptional conditionContinuation onNormalized
    let no ← buildOptional conditionContinuation onUnchanged
    takeToNormalize slot direct
    let normalizer := if direct then s.normalizeNodeWith else s.normalizeWith
    let (result, outcome) ←
      Job.ofAttempt (normalizer (tell reporting true yes) (tell reporting false no))
    Job.put slot (.boolean result)
    return .normalized (.of (f := f) (Node.boolean result)) outcome

/-- Runs a step. -/
def run : Step f → Job f (Answer f)
  | build slot recipe => do
    let formula ← recipe.build
    Job.put slot formula
    return .summary (.of formula)
  | explicit slot => do return .explicit (← Job.look slot).explicit
  | outline slot => do return .outline (.of (← Job.look slot))
  | describe slot path => do return .description (.of (← follow (← Job.look slot) path))
  | operand slot path index => do
    let formula ← follow (← Job.look slot) (path ++ [index])
    return .summary (.of formula)
  | mark slot path name => do
    let formula ← follow (← Job.look slot) path
    if let some id := formula.id? then
      modify fun bench =>
        { bench with marks := (name, id) :: bench.marks.filter fun entry => entry.1 != name }
    return .identity formula.id?
  | find slot name => do
    match (← get).marks.lookup name with
    | some id => return .found (((← Job.look slot).find id).map .of)
    | none => throw .noMark
  | evaluate slot contexts => do
    let formula ← Job.look slot
    return .values (contexts.map fun context => (traceIn formula context).value)
  | trace slot contexts => do
    let formula ← Job.look slot
    return .traces (contexts.map (traceIn formula))
  | reread slot context => do
    let formula ← Job.look slot
    let scope := Reader.Scope.ofFormat .double context.lookup
    return .reread (formulaText formula) (Reader.evaluateText scope formula.text)
  | normalize slot reporting direct onNormalized onUnchanged =>
    runNormalize slot reporting direct onNormalized onUnchanged

end Step

/-- The result of a step and the messages recorded during it. -/
structure Report (f : Format) where
  result : Except Failure (Answer f)
  messages : List Message

/-- Runs the steps of a script one after the other. -/
def run {f : Format} (bench : Workbench f) : List (Step f) → List (Report f)
  | [] => []
  | step :: steps =>
    let quiet := { bench with session := { bench.session with messages := [] } }
    let (result, next) := step.run.run.run quiet
    ⟨result, next.session.messages⟩ :: run next steps

end PriorityFormula.Script
