import PriorityFormula.Statement.Basic

/-!
# Formulas as text

A statement is written in infix form. Parentheses stand only where the tree needs them, with one
exception: operands of the same scaling or of the same connective as their parent are never wrapped,
so a quotient on the right of a quotient loses its grouping.

Chains of additions and subtractions are written flat. A term of a chain stands behind its sign; a
nested chain passes its sign on to its own terms, and a literal below zero is written as its
opposite behind the other sign.
-/

namespace PriorityFormula

/-- A text in parentheses if `wrap` holds. -/
def wrapIf (wrap : Bool) (text : List Char) : List Char :=
  if wrap then '(' :: text ++ [')'] else text

/-- An operator with a space on either side. -/
def Operator.spaced (operator : Operator) : List Char :=
  ' ' :: operator.symbol ++ [' ']

/-- The sign of a term that stands behind `inner` in a chain that stands behind `outer`. -/
def Sign.behind (outer inner : Sign) : Sign :=
  match inner with
  | plus => outer
  | minus => outer.flipped

namespace Boolean

variable {B : Type}

/-- The text of a truth value. -/
def truthText : Bool → List Char
  | true => ['t', 'r', 'u', 'e']
  | false => ['f', 'a', 'l', 's', 'e']

/-- The formula of a statement. -/
def text : Boolean B → List Char
  | literal value => truthText value
  | var v => v.name.text.toList
  | joined _ connective left right =>
    wrapIf (left.arity > 1 && !left.joinedBy connective) left.text ++ connective.operator.spaced ++
      wrapIf (right.arity > 1 && !right.joinedBy connective) right.text
  | ternary _ condition ifTrue otherwise =>
    wrapIf condition.isCompound condition.text ++ [' ', '?', ' '] ++
      wrapIf ifTrue.isCompound ifTrue.text ++ [' ', ':', ' '] ++ otherwise.text

end Boolean

namespace Numeric

variable {A B : Type} {f : Format}

/-- Puts a text where it belongs: by itself, or behind a sign and in parentheses if `wrap` holds. -/
def place (wrap : Bool) (text : List Char) : Option Sign → List Char
  | none => text
  | some sign => sign.operator.spaced ++ wrapIf wrap text

/-- The text of a statement by itself, or as a term behind a sign. -/
def write : Option Sign → Numeric A B f → List Char
  | none, literal value => value.plain
  | some sign, literal value =>
    if value.isNegative then sign.flipped.operator.spaced ++ value.negated.plain
    else sign.operator.spaced ++ value.plain
  | behind, var v => place false v.name.text.toList behind
  | none, additive _ sign left right =>
    wrapIf left.isTernary (write none left) ++ write (some sign) right
  | some outer, additive _ sign left right =>
    write (some outer) left ++ write (some (outer.behind sign)) right
  | behind, scaled _ scaling left right =>
    place true
      (wrapIf (left.arity > 1 && !left.scaledBy scaling) (write none left) ++
        scaling.operator.spaced ++
        wrapIf (right.arity > 1 && !right.scaledBy scaling) (write none right))
      behind
  | behind, round _ mode operand =>
    place false (mode.function ++ '(' :: write none operand ++ [')']) behind
  | behind, ternary _ condition ifTrue otherwise =>
    place true
      (wrapIf condition.isCompound condition.text ++ [' ', '?', ' '] ++
        wrapIf ifTrue.isCompound (write none ifTrue) ++ [' ', ':', ' '] ++ write none otherwise)
      behind

/-- The formula of a statement. -/
def text (s : Numeric A B f) : List Char :=
  write none s

/-- The text that a statement adds to a chain as a term behind a sign. -/
def termText (sign : Sign) (s : Numeric A B f) : List Char :=
  write (some sign) s

end Numeric

/-- The formula of a statement of either value type. -/
def Node.text {A B : Type} {f : Format} : Node A B f → List Char
  | numeric s => s.text
  | boolean s => s.text

end PriorityFormula
