import PriorityFormula.Reader.Expression
import PriorityFormula.Statement.Evaluate

/-!
# Evaluating a formula from its text

Operators bind in four levels: connectives bind more loosely than arithmetic, `||` more loosely than
`&&`, and additions and subtractions more loosely than multiplications and divisions. Operators of
one level group to the left. A chain is evaluated while it is read: an operand is evaluated as soon
as it comes, and a pending operator is applied as soon as the next one does not bind tighter.

The first fault met on the way is the answer. Both operands of a binary operator are evaluated
before it is applied, also where a connective is already settled by its left operand; only then is
the right operand allowed to be a number.
-/

namespace PriorityFormula.Reader

/-- What a formula evaluates to. -/
inductive Value (K : Type) where
  | number (value : K)
  | truth (value : Bool)
  deriving DecidableEq

/-- Why a text has no value. -/
inductive ReadFault where
  /-- The text is not an expression. -/
  | malformed
  /-- A truth value stands where a number is needed. -/
  | expectedNumber
  /-- A number stands where a truth value is needed. -/
  | expectedBoolean
  /-- A name has no value. -/
  | unbound (name : String)
  deriving DecidableEq, Repr

/-- The wording of a fault; a malformed text has none. -/
def ReadFault.message? : ReadFault → Option String
  | malformed => none
  | expectedNumber => some "Expected Number"
  | expectedBoolean => some "Expected Boolean"
  | unbound name => some ("Unbound variable " ++ name)

/-- What gives a formula its meaning: the arithmetic, the values of numerals and those of names. -/
structure Scope (K : Type) where
  arithmetic : Arithmetic K
  numeral : (negative : Bool) → Decimal → K
  lookup : String → Option (Value K)

namespace Value

variable {K : Type}

/-- The number that a value has to be. -/
def toNumber : Value K → Except ReadFault K
  | number value => .ok value
  | truth _ => .error .expectedNumber

/-- The truth value that a value has to be. -/
def toTruth : Value K → Except ReadFault Bool
  | truth value => .ok value
  | number _ => .error .expectedBoolean

/-- Applies an operation to two numbers, of which the left one is checked first. -/
def calculate (operation : K → K → K) (left right : Value K) : Except ReadFault (Value K) := do
  let x ← left.toNumber
  let y ← right.toNumber
  return number (operation x y)

/-- Joins two truth values; the right one is checked only if the left one does not settle the
matter. -/
def join (connective : Connective) (left right : Value K) : Except ReadFault (Value K) := do
  let first ← left.toTruth
  if connective.settles first then return truth first
  return truth (← right.toTruth)

/-- Applies a binary operator. -/
def apply (arithmetic : Arithmetic K) : Operator → Value K → Value K → Except ReadFault (Value K)
  | .add => calculate arithmetic.add
  | .subtract => calculate arithmetic.subtract
  | .multiply => calculate arithmetic.multiply
  | .divide => calculate arithmetic.divide
  | .and => join .and
  | .or => join .or

end Value

/-- How tightly an operator binds. -/
def bindingLevel : Operator → Nat
  | .or => 1
  | .and => 2
  | .add | .subtract => 3
  | .multiply | .divide => 4

/-- Applies the pending operators, innermost first, down to the first one that binds more loosely
than `level`. -/
def settle {m : Type → Type} [Monad m] {α : Type} (apply : Operator → α → α → m α) (level : Nat) :
    List (α × Operator) → α → m (List (α × Operator) × α)
  | [], current => pure ([], current)
  | (left, op) :: pending, current =>
    if level ≤ bindingLevel op then do
      let result ← apply op left current
      settle apply level pending result
    else pure ((left, op) :: pending, current)

mutual

/-- The value of an operand. -/
def Term.evaluate {K : Type} (scope : Scope K) : Term → Except ReadFault (Value K)
  | .number negative magnitude => .ok (.number (scope.numeral negative magnitude))
  | .truth value => .ok (.truth value)
  | .name text =>
    match scope.lookup (String.ofList text) with
    | some value => .ok value
    | none => .error (.unbound (String.ofList text))
  | .rounded mode inner => do
    let value ← inner.evaluate scope
    return .number (scope.arithmetic.round mode (← value.toNumber))
  | .grouped inner => inner.evaluate scope

/-- The value of a chain whose operators up to here are pending. -/
def Links.evaluate {K : Type} (scope : Scope K) :
    Links → List (Value K × Operator) → Value K → Except ReadFault (Value K)
  | .done, pending, current => do
    let (_, result) ← settle (Value.apply scope.arithmetic) 0 pending current
    return result
  | .link op term rest, pending, current => do
    let (pending, left) ← settle (Value.apply scope.arithmetic) (bindingLevel op) pending current
    let operand ← term.evaluate scope
    rest.evaluate scope ((left, op) :: pending) operand

/-- The value of an expression. -/
def Expression.evaluate {K : Type} (scope : Scope K) : Expression → Except ReadFault (Value K)
  | .chain head links => do
    let first ← head.evaluate scope
    links.evaluate scope [] first
  | .choice head links ifTrue otherwise => do
    let first ← head.evaluate scope
    let condition ← links.evaluate scope [] first
    if ← condition.toTruth then ifTrue.evaluate scope else otherwise.evaluate scope

end

/-- The value of a text. -/
def evaluateText {K : Type} (scope : Scope K) (text : List Char) : Except ReadFault (Value K) :=
  match read text with
  | none => .error .malformed
  | some expression => expression.evaluate scope

/-- The meaning of formulas in the arithmetic of a format, with values for names. -/
def Scope.ofFormat (f : Format) (lookup : String → Option (Value (Number f))) :
    Scope (Number f) where
  arithmetic := Number.arithmetic f
  numeral := Number.ofDecimal f
  lookup := lookup

end PriorityFormula.Reader
