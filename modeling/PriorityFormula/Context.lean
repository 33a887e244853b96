import PriorityFormula.Reader.Evaluate
import PriorityFormula.Statement.Build

/-!
# Contexts

A priority is calculated from an urgency and an impact, and perhaps from whether the person asking
is very important or the matter is related to the business. The four fixed contexts hold these
fields in the combinations that calculators use; an open context holds any entries instead.

The accessors of variables are named here. Built-in ones read a fixed field; an entry is read by
its name, and a fixed accessor always gives the same value.
-/

namespace PriorityFormula

/-- Where a number comes from when a variable is read. -/
inductive NumberSource (f : Format) where
  | urgency
  | impact
  | entry (name : String)
  | fixed (value : Number f)
  deriving DecidableEq

/-- Where a truth value comes from when a variable is read. -/
inductive FlagSource where
  | vip
  | businessRelated
  | entry (name : String)
  | fixed (value : Bool)
  deriving DecidableEq

/-- A numeric statement of a calculator. -/
abbrev Quantity (f : Format) := Numeric (NumberSource f) FlagSource f

/-- A condition of a calculator. -/
abbrev Condition := Boolean FlagSource

/-- A statement of a calculator. -/
abbrev Formula (f : Format) := Node (NumberSource f) FlagSource f

/-- Whether an accessor of numbers reads a fixed field. -/
def NumberSource.isBuiltIn {f : Format} : NumberSource f → Bool
  | urgency | impact => true
  | entry _ | fixed _ => false

/-- Whether an accessor of truth values reads a fixed field. -/
def FlagSource.isBuiltIn : FlagSource → Bool
  | vip | businessRelated => true
  | entry _ | fixed _ => false

/-! ### Built-in variables -/

/-- The urgency of the context. -/
def Quantity.urgency (f : Format) : Quantity f :=
  .var ⟨⟨"urgency", by decide⟩, .urgency⟩

/-- The impact of the context. -/
def Quantity.impact (f : Format) : Quantity f :=
  .var ⟨⟨"impact", by decide⟩, .impact⟩

/-- Whether the context's person is very important. -/
def Condition.vip : Condition :=
  .var ⟨⟨"vip", by decide⟩, .vip⟩

/-- Whether the context's matter is related to the business. -/
def Condition.businessRelated : Condition :=
  .var ⟨⟨"businessRelated", by decide⟩, .businessRelated⟩

/-- What formulas are evaluated in. -/
inductive Context where
  | base (urgency impact : UInt8)
  | vip (urgency impact : UInt8) (vip : Bool)
  | business (urgency impact : UInt8) (businessRelated : Bool)
  | full (urgency impact : UInt8) (vip businessRelated : Bool)
  | entries (numbers : List (String × Number .double)) (flags : List (String × Bool))

namespace Context

/-- The urgency and the impact, where the context has them as fields. -/
def grades? : Context → Option (UInt8 × UInt8)
  | base urgency impact | vip urgency impact _ | business urgency impact _
  | full urgency impact _ _ => some (urgency, impact)
  | entries _ _ => none

/-- What an accessor of numbers gives; an entry that is missing is undefined. -/
def number (context : Context) (f : Format) : NumberSource f → Number f
  | .urgency => (context.grades?.map fun grades => Number.ofNat f grades.1.toNat).getD .undefined
  | .impact => (context.grades?.map fun grades => Number.ofNat f grades.2.toNat).getD .undefined
  | .entry name =>
    match context with
    | entries numbers _ => ((numbers.lookup name).map (Number.convert f)).getD .undefined
    | _ => .undefined
  | .fixed value => value

/-- What an accessor of truth values gives; an entry or field that is missing is false. -/
def flag (context : Context) : FlagSource → Bool
  | .vip =>
    match context with
    | vip _ _ value | full _ _ value _ => value
    | _ => false
  | .businessRelated =>
    match context with
    | business _ _ value | full _ _ _ value => value
    | _ => false
  | .entry name =>
    match context with
    | entries _ flags => (flags.lookup name).getD false
    | _ => false
  | .fixed value => value

/-- The meaning of formulas in a context. -/
def interpretation (context : Context) (f : Format) :
    Interpretation (NumberSource f) FlagSource f (Number f) where
  arithmetic := Number.arithmetic f
  literal := .finite
  number := context.number f
  flag := context.flag

/-- The fixed fields of a context with their names. -/
def fields (context : Context) : List (String × Reader.Value (Number .double)) :=
  let grade (value : UInt8) := Reader.Value.number (Number.ofNat .double value.toNat)
  match context with
  | base u i => [("urgency", grade u), ("impact", grade i)]
  | vip u i v => [("urgency", grade u), ("impact", grade i), ("vip", .truth v)]
  | business u i b => [("urgency", grade u), ("impact", grade i), ("businessRelated", .truth b)]
  | full u i v b =>
    [("urgency", grade u), ("impact", grade i), ("vip", .truth v), ("businessRelated", .truth b)]
  | entries _ _ => []

/-- The values of a context by name, as the text of a formula refers to them. -/
def lookup (context : Context) (name : String) : Option (Reader.Value (Number .double)) :=
  match context with
  | entries numbers flags =>
    match numbers.lookup name with
    | some value => some (.number value)
    | none => (flags.lookup name).map .truth
  | fixed => fixed.fields.lookup name

end Context

end PriorityFormula
