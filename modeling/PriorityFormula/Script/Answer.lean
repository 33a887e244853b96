import PriorityFormula.Statement.Explicit
import PriorityFormula.Statement.Text
import PriorityFormula.Script.Workbench

/-!
# Answers

What the steps of a script answer: views of statements, values, and outcomes of normalization.
-/

namespace PriorityFormula.Script

/-- A statement at a glance. -/
structure Summary where
  kind : Kind
  id : Option Id
  text : String

/-- The formula of a statement as a string. -/
def formulaText {f : Format} (formula : Formula f) : String :=
  String.ofList formula.text

/-- The summary of a statement. -/
def Summary.of {f : Format} (formula : Formula f) : Summary :=
  ⟨formula.kind, formula.id?, formulaText formula⟩

/-- The shape of a statement: leaves with their text, compounds with their identity. -/
inductive Outline where
  | leaf (kind : Kind) (text : String)
  | compound (kind : Kind) (id : Id) (children : List Outline)

/-- The shape of a condition. -/
def conditionOutline (s : Condition) : Outline :=
  match s with
  | .literal _ | .var _ => .leaf s.kind (String.ofList s.text)
  | .joined id _ left right => .compound s.kind id [conditionOutline left, conditionOutline right]
  | .ternary id condition ifTrue otherwise =>
    .compound s.kind id
      [conditionOutline condition, conditionOutline ifTrue, conditionOutline otherwise]

/-- The shape of a numeric statement. -/
def quantityOutline {f : Format} (s : Quantity f) : Outline :=
  match s with
  | .literal _ | .var _ => .leaf s.kind (String.ofList s.text)
  | .additive id _ left right => .compound s.kind id [quantityOutline left, quantityOutline right]
  | .scaled id _ left right => .compound s.kind id [quantityOutline left, quantityOutline right]
  | .round id _ operand => .compound s.kind id [quantityOutline operand]
  | .ternary id condition ifTrue otherwise =>
    .compound s.kind id
      [conditionOutline condition, quantityOutline ifTrue, quantityOutline otherwise]

/-- The shape of a statement. -/
def Outline.of {f : Format} : Formula f → Outline
  | .numeric s => quantityOutline s
  | .boolean s => conditionOutline s

/-- What the root of a statement holds besides its operands. -/
inductive Detail (f : Format) where
  | number (value : FiniteNumber f)
  | truth (value : Bool)
  | variable (name : String)
  | operation (operator : Operator) (left right : String)
  | rounding (mode : Rounding) (inner : String)
  | choice (condition ifTrue otherwise : String)

/-- Everything about the root of a statement. -/
structure Description (f : Format) where
  summary : Summary
  arity : Nat
  isCompound : Bool
  /-- For numeric statements, whether the root is a sum or a difference. -/
  isAdditive : Option Bool
  operands : List String
  detail : Detail f

/-- What the root of a condition holds besides its operands. -/
def conditionDetail (f : Format) : Condition → Detail f
  | .literal value => .truth value
  | .var v => .variable v.name.text
  | .joined _ connective left right =>
    .operation connective.operator (String.ofList left.text) (String.ofList right.text)
  | .ternary _ condition ifTrue otherwise =>
    .choice (String.ofList condition.text) (String.ofList ifTrue.text)
      (String.ofList otherwise.text)

/-- What the root of a numeric statement holds besides its operands. -/
def quantityDetail {f : Format} : Quantity f → Detail f
  | .literal value => .number value
  | .var v => .variable v.name.text
  | .additive _ sign left right =>
    .operation sign.operator (String.ofList left.text) (String.ofList right.text)
  | .scaled _ scaling left right =>
    .operation scaling.operator (String.ofList left.text) (String.ofList right.text)
  | .round _ mode operand => .rounding mode (String.ofList operand.text)
  | .ternary _ condition ifTrue otherwise =>
    .choice (String.ofList condition.text) (String.ofList ifTrue.text)
      (String.ofList otherwise.text)

/-- The description of a statement. -/
def Description.of {f : Format} (formula : Formula f) : Description f where
  summary := .of formula
  arity := formula.arity
  isCompound :=
    match formula with
    | .numeric s => s.isCompound
    | .boolean s => s.isCompound
  isAdditive :=
    match formula with
    | .numeric s => some s.isAdditive
    | .boolean _ => none
  operands := formula.operands.map formulaText
  detail :=
    match formula with
    | .numeric s => quantityDetail s
    | .boolean s => conditionDetail f s

/-- Which way a normalization went, as far as it is reported. -/
inductive Outcome where
  /-- Whether anything was changed. -/
  | wasNormalized (changed : Bool)
  /-- The continuation that ran, if one did: the one for changed statements or the other one. -/
  | continued (continuation : Option Bool)

/-- What a step answers. -/
inductive Answer (f : Format) where
  | summary (summary : Summary)
  | explicit (text : String)
  | outline (outline : Outline)
  | description (description : Description f)
  | identity (id : Option Id)
  | found (summary : Option Summary)
  | values (values : List (Reader.Value (Number f)))
  | traces (traces : List (Traced String (Reader.Value (Number f))))
  | reread (text : String) (result : Except Reader.ReadFault (Reader.Value (Number .double)))
  | normalized (summary : Summary) (outcome : Outcome)

end PriorityFormula.Script
