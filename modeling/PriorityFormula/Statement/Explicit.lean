import PriorityFormula.Statement.Lookup

/-!
# Statements with all their parts

The explicit text of a statement names every node with its identity and its operands, where the
formula of `Statement.Text` hides the grouping.
-/

namespace PriorityFormula

/-- Named parts between braces, behind the name of what they make up. -/
def explicitParts (name : String) (parts : List (String × String)) : String :=
  name ++ " \x7b " ++ String.intercalate ", " (parts.map fun part => part.1 ++ ": " ++ part.2) ++
    " \x7d"

/-- A name with its only part in parentheses. -/
def explicitPart (name part : String) : String :=
  name ++ "(" ++ part ++ ")"

/-- The explicit text of an identity. -/
def Id.explicit (id : Id) : String :=
  explicitPart "StatementId" (toString id.index)

/-- The explicit text of a literal value. -/
def FiniteNumber.explicitLiteral {f : Format} (value : FiniteNumber f) : String :=
  explicitParts Kind.numericalLiteral.name [("value", String.ofList value.explicit)]

/-- The explicit text of a variable of a kind. -/
def Name.explicitVariable (kind : Kind) (name : Name) : String :=
  explicitPart kind.name (Text.quoted name.text)

/-- A compound statement under the name of its shape and of its kind. -/
def explicitCompound (shape : String) (kind : Kind) (id : Id) (parts : List (String × String)) :
    String :=
  explicitPart shape (explicitParts kind.name (("id", id.explicit) :: parts))

/-- The explicit text of a condition. -/
def Boolean.explicit {B : Type} : Boolean B → String
  | literal value =>
    explicitPart "Literal" (explicitParts Kind.booleanLiteral.name [("value", toString value)])
  | var v => explicitPart "Variable" (v.name.explicitVariable .booleanVariable)
  | joined id .and left right =>
    explicitCompound "And" .and id [("l_operand", left.explicit), ("r_operand", right.explicit)]
  | joined id .or left right =>
    explicitCompound "Or" .or id [("l_operand", left.explicit), ("r_operand", right.explicit)]
  | ternary id condition ifTrue otherwise =>
    explicitCompound "Ternary" .booleanTernary id
      [("conditional", condition.explicit), ("if_true", ifTrue.explicit),
        ("otherwise", otherwise.explicit)]

/-- The explicit text of a numeric statement. -/
def Numeric.explicit {A B : Type} {f : Format} : Numeric A B f → String
  | literal value => explicitPart "Literal" value.explicitLiteral
  | var v => explicitPart "Variable" (v.name.explicitVariable .numericalVariable)
  | additive id sign left right =>
    let kind := (additive id sign left right).kind
    explicitCompound kind.name kind id
      [("l_operand", left.explicit), ("r_operand", right.explicit)]
  | scaled id scaling left right =>
    let kind := (scaled id scaling left right).kind
    explicitCompound kind.name kind id
      [("l_operand", left.explicit), ("r_operand", right.explicit)]
  | round id mode operand =>
    explicitCompound "Round" .round id [("rounding", mode.name), ("operand", operand.explicit)]
  | ternary id condition ifTrue otherwise =>
    explicitCompound "Ternary" .numericalTernary id
      [("conditional", condition.explicit), ("if_true", ifTrue.explicit),
        ("otherwise", otherwise.explicit)]

/-- The explicit text of a statement of either value type. -/
def Node.explicit {A B : Type} {f : Format} : Node A B f → String
  | numeric s => s.explicit
  | boolean s => s.explicit

end PriorityFormula
