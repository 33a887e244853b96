import PriorityFormula.Fault
import PriorityFormula.Number.Arithmetic

/-!
# Tags

Roundings and base formulas are chosen by callers through short texts. Reading a tag accepts the
exact spelling only.
-/

namespace PriorityFormula

/-- How a calculator combines its base numbers. Statements only carry the choice. -/
inductive BaseFormula where
  | multiply
  | add
  | multiplyAdd
  | addMultiply
  deriving DecidableEq, Repr

namespace Rounding

/-- Every rounding. -/
def all : List Rounding :=
  [ceiling, floor, nearest]

/-- The spelling by which a rounding is chosen. -/
def tag : Rounding → String
  | ceiling => "ceiling"
  | floor => "floor"
  | nearest => "nearest"

/-- The rounding's name. -/
def name : Rounding → String
  | ceiling => "Ceiling"
  | floor => "Floor"
  | nearest => "Nearest"

/-- The function that a formula applies to round. -/
def function : Rounding → List Char
  | ceiling => ['M', 'a', 't', 'h', '.', 'c', 'e', 'i', 'l']
  | floor => ['M', 'a', 't', 'h', '.', 'f', 'l', 'o', 'o', 'r']
  | nearest => ['M', 'a', 't', 'h', '.', 'r', 'o', 'u', 'n', 'd']

/-- The rounding with a given spelling. -/
def ofTag (text : String) : Except Fault Rounding :=
  match all.find? fun mode => mode.tag == text with
  | some mode => .ok mode
  | none => .error (.unknownTag .rounding text)

end Rounding

namespace BaseFormula

/-- Every base formula. -/
def all : List BaseFormula :=
  [multiply, add, multiplyAdd, addMultiply]

/-- The spelling by which a base formula is chosen. -/
def tag : BaseFormula → String
  | multiply => "multiply"
  | add => "add"
  | multiplyAdd => "multiplyAdd"
  | addMultiply => "addMultiply"

/-- The base formula's name. -/
def name : BaseFormula → String
  | multiply => "Multiply"
  | add => "Add"
  | multiplyAdd => "MultiplyAdd"
  | addMultiply => "AddMultiply"

/-- The base formula with a given spelling. -/
def ofTag (text : String) : Except Fault BaseFormula :=
  match all.find? fun formula => formula.tag == text with
  | some formula => .ok formula
  | none => .error (.unknownTag .baseFormula text)

end BaseFormula

end PriorityFormula
