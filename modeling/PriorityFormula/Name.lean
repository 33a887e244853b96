import PriorityFormula.Fault

/-!
# Names of variables

A name starts with an ASCII letter or an underscore and goes on with ASCII letters, digits and
underscores.
-/

namespace PriorityFormula

/-- Whether a character can start a name. -/
def isNameStart (c : Char) : Bool :=
  c.isAlpha || c == '_'

/-- Whether a character can stand inside a name. -/
def isNameChar (c : Char) : Bool :=
  c.isAlphanum || c == '_'

/-- Whether a text can name a variable. -/
def isName : List Char → Bool
  | [] => false
  | c :: rest => isNameStart c && rest.all isNameChar

/-- The name of a variable. -/
structure Name where
  text : String
  isName_text : isName text.toList = true
  deriving DecidableEq

namespace Name

/-- The name with a given spelling. -/
def ofText (text : String) : Except Fault Name :=
  if h : isName text.toList = true then .ok ⟨text, h⟩ else .error (.invalidName text)

end Name

end PriorityFormula
