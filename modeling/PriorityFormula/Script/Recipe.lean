import PriorityFormula.Normalize.Boolean
import PriorityFormula.Normalize.Numeric
import PriorityFormula.Script.Workbench

/-!
# Recipes

A recipe says how a statement is put together at a workbench. Operands are built from left to
right, and the first failure is the failure of the whole.
-/

namespace PriorityFormula.Script

/-- A numeric operation with two operands. -/
inductive Operation where
  | attach (sign : Sign)
  | scale (scaling : Scaling)
  deriving DecidableEq, Repr

/-- How a condition is put together. -/
inductive ConditionRecipe where
  | literal (value : Bool)
  | vip
  | businessRelated
  | entry (name : String)
  | fixed (name : String) (value : Bool)
  /-- Joins the operands of a list, whose number is checked. -/
  | ofOperands (connective : Connective) (operands : List ConditionRecipe)
  | join (connective : Connective) (left right : ConditionRecipe)
  | choose (condition ifTrue otherwise : ConditionRecipe)
  /-- Joins several conditions so that the tree leans to the left. -/
  | leanLeft (connective : Connective) (items : List ConditionRecipe)
  /-- Joins several conditions so that the tree leans to the right. -/
  | leanRight (connective : Connective) (items : List ConditionRecipe)
  /-- Creates a flat chain. -/
  | create (connective : Connective) (first : ConditionRecipe) (rest : List ConditionRecipe)
  | createChoice (condition ifTrue otherwise : ConditionRecipe)
  | take (slot : String)

/-- How a numeric statement is put together. -/
inductive QuantityRecipe (f : Format) where
  | literal (value : Number f)
  | urgency
  | impact
  | entry (name : String)
  | fixed (name : String) (value : Number f)
  /-- Applies an operation to the operands of a list, whose number is checked. -/
  | ofOperands (operation : Operation) (operands : List (QuantityRecipe f))
  | apply (operation : Operation) (left right : QuantityRecipe f)
  /-- Rounds the operands of a list, whose number is checked, by a tagged rounding. -/
  | roundOfOperands (tag : String) (operands : List (QuantityRecipe f))
  | round (mode : Rounding) (operand : QuantityRecipe f)
  | choose (condition : ConditionRecipe) (ifTrue otherwise : QuantityRecipe f)
  /-- Applies an operation to several statements so that the tree leans to the left. -/
  | leanLeft (operation : Operation) (items : List (QuantityRecipe f))
  /-- Applies an operation to several statements so that the tree leans to the right. -/
  | leanRight (operation : Operation) (items : List (QuantityRecipe f))
  /-- Creates a flat chain. -/
  | create (operation : Operation) (first : QuantityRecipe f) (rest : List (QuantityRecipe f))
  | createRound (tag : String) (operand : QuantityRecipe f)
  | createChoice (condition : ConditionRecipe) (ifTrue otherwise : QuantityRecipe f)
  | take (slot : String)

/-- Joins items one after the other, from the left. -/
def foldLeft {m : Type → Type} [Monad m] {S : Type} (join : S → S → m S) (first : S) :
    List S → m S
  | [] => pure first
  | item :: rest => do
    let joined ← join first item
    foldLeft join joined rest

/-- Joins items so that the last two are joined first. -/
def foldRight {m : Type → Type} [Monad m] {S : Type} (join : S → S → m S) (first : S) :
    List S → m S
  | [] => pure first
  | item :: rest => do
    let joined ← foldRight join item rest
    join first joined

namespace ConditionRecipe

variable {f : Format}

mutual

/-- Puts a condition together. -/
def build : ConditionRecipe → Job f Condition
  | literal value => pure (.literal value)
  | vip => pure Condition.vip
  | businessRelated => pure Condition.businessRelated
  | entry name => do
    let name ← Job.ofExcept (Name.ofText name)
    return .var ⟨name, .entry name.text⟩
  | fixed name value => do
    let name ← Job.ofExcept (Name.ofText name)
    return .var ⟨name, .fixed value⟩
  | ofOperands connective operands => do
    let operands ← buildAll operands
    Job.ofAttempt (Boolean.joinedOfOperands connective operands)
  | join connective left right => do
    let left ← left.build
    let right ← right.build
    Job.ofWork (Boolean.newJoined connective left right)
  | choose condition ifTrue otherwise => do
    let condition ← condition.build
    let ifTrue ← ifTrue.build
    let otherwise ← otherwise.build
    Job.ofWork (Boolean.newTernary condition ifTrue otherwise)
  | leanLeft connective items => do
    match ← buildAll items with
    | [] => throw .malformed
    | first :: rest => Job.ofWork (foldLeft (Boolean.newJoined connective) first rest)
  | leanRight connective items => do
    match ← buildAll items with
    | [] => throw .malformed
    | first :: rest => Job.ofWork (foldRight (Boolean.newJoined connective) first rest)
  | create connective first rest => do
    let first ← first.build
    let rest ← buildAll rest
    Job.ofWork (first.createLogical connective rest)
  | createChoice condition ifTrue otherwise => do
    let condition ← condition.build
    let ifTrue ← ifTrue.build
    let otherwise ← otherwise.build
    Job.ofAttempt (Boolean.createTernary condition ifTrue otherwise)
  | take slot => Job.takeCondition slot

/-- Puts conditions together, from left to right. -/
def buildAll : List ConditionRecipe → Job f (List Condition)
  | [] => pure []
  | recipe :: recipes => do
    let first ← recipe.build
    let rest ← buildAll recipes
    return first :: rest

end

end ConditionRecipe

/-- Applies an operation to two statements. -/
def Operation.apply {f : Format} (operation : Operation) (left right : Quantity f) :
    Attempt (Quantity f) :=
  match operation with
  | attach sign => Numeric.newAdditive sign left right
  | scale scaling => Numeric.newScaled scaling left right

/-- Applies an operation to the operands of a list. -/
def Operation.applyToOperands {f : Format} (operation : Operation) (operands : List (Quantity f)) :
    Attempt (Quantity f) :=
  match operation with
  | attach sign => Numeric.additiveOfOperands sign operands
  | scale scaling => Numeric.scaledOfOperands scaling operands

/-- Creates the flat chain of an operation. -/
def Operation.create {f : Format} (operation : Operation) (first : Quantity f)
    (rest : List (Quantity f)) : Attempt (Quantity f) :=
  match operation with
  | attach sign => Numeric.createAdditive sign first rest
  | scale scaling => Numeric.createScaled scaling first rest

namespace QuantityRecipe

variable {f : Format}

mutual

/-- Puts a numeric statement together. -/
def build : QuantityRecipe f → Job f (Quantity f)
  | literal value => do
    let value ← Job.ofExcept (FiniteNumber.ofNumber value)
    return .literal value
  | urgency => pure (Quantity.urgency f)
  | impact => pure (Quantity.impact f)
  | entry name => do
    let name ← Job.ofExcept (Name.ofText name)
    return .var ⟨name, .entry name.text⟩
  | fixed name value => do
    let name ← Job.ofExcept (Name.ofText name)
    return .var ⟨name, .fixed value⟩
  | ofOperands operation operands => do
    let operands ← buildAll operands
    Job.ofAttempt (operation.applyToOperands operands)
  | apply operation left right => do
    let left ← left.build
    let right ← right.build
    Job.ofAttempt (operation.apply left right)
  | roundOfOperands tag operands => do
    let mode ← Job.ofExcept (Rounding.ofTag tag)
    let operands ← buildAll operands
    Job.ofAttempt (Numeric.roundOfOperands mode operands)
  | round mode operand => do
    let operand ← operand.build
    Job.ofWork (Numeric.newRound mode operand)
  | choose condition ifTrue otherwise => do
    let condition ← condition.build
    let ifTrue ← ifTrue.build
    let otherwise ← otherwise.build
    Job.ofWork (Numeric.newTernary condition ifTrue otherwise)
  | leanLeft operation items => do
    match ← buildAll items with
    | [] => throw .malformed
    | first :: rest => Job.ofAttempt (foldLeft operation.apply first rest)
  | leanRight operation items => do
    match ← buildAll items with
    | [] => throw .malformed
    | first :: rest => Job.ofAttempt (foldRight operation.apply first rest)
  | create operation first rest => do
    let first ← first.build
    let rest ← buildAll rest
    Job.ofAttempt (operation.create first rest)
  | createRound tag operand => do
    let mode ← Job.ofExcept (Rounding.ofTag tag)
    let operand ← operand.build
    Job.ofAttempt (Numeric.createRound mode operand)
  | createChoice condition ifTrue otherwise => do
    let condition ← condition.build
    let ifTrue ← ifTrue.build
    let otherwise ← otherwise.build
    Job.ofAttempt (Numeric.createTernary condition ifTrue otherwise)
  | take slot => Job.takeQuantity slot

/-- Puts numeric statements together, from left to right. -/
def buildAll : List (QuantityRecipe f) → Job f (List (Quantity f))
  | [] => pure []
  | recipe :: recipes => do
    let first ← recipe.build
    let rest ← buildAll recipes
    return first :: rest

end

end QuantityRecipe

/-- How a statement of either value type is put together. -/
inductive Recipe (f : Format) where
  | quantity (recipe : QuantityRecipe f)
  | condition (recipe : ConditionRecipe)

/-- Puts a statement together. -/
def Recipe.build {f : Format} : Recipe f → Job f (Formula f)
  | quantity recipe => do return .numeric (← recipe.build)
  | condition recipe => do return .boolean (← recipe.build)

end PriorityFormula.Script
