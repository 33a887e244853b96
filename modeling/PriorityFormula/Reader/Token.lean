import PriorityFormula.Name
import PriorityFormula.Operator
import PriorityFormula.Tag
import PriorityFormula.Number.Decimal
import PriorityFormula.Statement.Text

/-!
# Tokens of a formula

The text of a formula is a sequence of tokens with any number of spaces before, between and after
them. No space may stand inside a token. Whether a minus belongs to a numeral depends on the
place: where an operand is due it does, and behind an operand it is an operator. The token before
settles which of the two places it is, so tokens are cut off from left to right.

The words of the grammar are written with `/` for an ordered choice, of which the first alternative
that matches is taken, and with braces for as many repetitions as there are.

    function = "Math.ceil" / "Math.floor" / "Math.round"
    truth    = ( "true" / "false" ) not before a name character
    numeral  = [ "-" ] digit { digit } [ "." digit { digit } ]
    name     = ( letter / "_" ) { name character }

Where an operand is due, the order is `function / truth / numeral / name / "("`. Each of these rules
has its place below.

* The grammar lets spaces stand before and after a formula and wherever two symbols of its rules for
  expressions meet, but not inside a word. These are the places before each token and behind the
  last one, where `tokens` drops them.
* `cutOperand` commits to a function as soon as its name is there, even if no parenthesis follows.
  The only other alternative is the name `Math`, and no formula goes on with a point behind a name.
* `cutWord` takes the longest run of name characters at once, for truth values and for names. The
  run is a truth value exactly if the spelling of one stands there with no name character behind it,
  and in that case the choice stops at the truth value.
* A numeral begins with a digit or a minus and a group with a parenthesis. No other alternative
  does, so for them the order does not matter.
* `fractionDigits` and `dropFraction` take a point only together with a digit. A point without one
  is left over, as it is when the optional part of a numeral fails.
* Behind an operand the next two characters tell all tokens apart.
-/

namespace PriorityFormula.Reader

/-- A token. -/
inductive Token where
  /-- A numeral: an optional minus, the digits before the point, and those after it, if any. -/
  | numeral (negative : Bool) (whole fraction : List Char)
  | truth (value : Bool)
  | name (text : List Char)
  | function (mode : Rounding)
  | operator (op : Operator)
  | opening
  | closing
  | question
  | colon
  deriving DecidableEq, Repr

namespace Token

/-- The spelling of a token. -/
def text : Token → List Char
  | numeral negative whole fraction =>
    (if negative then ['-'] else []) ++ whole ++
      (if fraction.isEmpty then [] else '.' :: fraction)
  | truth value => Boolean.truthText value
  | name text => text
  | function mode => mode.function
  | operator op => op.symbol
  | opening => ['(']
  | closing => [')']
  | question => ['?']
  | colon => [':']

/-- Whether an operand is due behind a token. -/
def awaitsOperand : Token → Bool
  | numeral .. | truth _ | name _ | closing => false
  | function _ | operator _ | opening | question | colon => true

end Token

/-- A piece cut off the front of a list, which makes the list shorter. -/
structure Cut (α : Type) {β : Type} (s : List β) where
  piece : α
  rest : List β
  shorter : rest.length < s.length

/-- What is left of a text behind its leading spaces. -/
def dropSpaces (s : List Char) : List Char :=
  s.dropWhile (· == ' ')

/-! ### Cutting off a token

Each function below looks at a text without leading spaces. -/

/-- The digits behind a point at the front of a text; none if there is no point. -/
def fractionDigits : List Char → List Char
  | '.' :: r => r.takeWhile Char.isDigit
  | _ => []

/-- What is left behind a point with digits; a point without digits stays. -/
def dropFraction : List Char → List Char
  | '.' :: r => if (r.takeWhile Char.isDigit).isEmpty then '.' :: r else r.dropWhile Char.isDigit
  | s => s

theorem length_dropFraction_le (s : List Char) : (dropFraction s).length ≤ s.length := by
  unfold dropFraction
  split
  · split
    · exact Nat.le_refl _
    · exact Nat.le_succ_of_le (List.dropWhile_sublist _).length_le
  · exact Nat.le_refl _

/-- Cuts off a numeral without its sign. -/
def cutNumeral (negative : Bool) : (s : List Char) → Option (Cut Token s)
  | [] => none
  | c :: s =>
    if c.isDigit then
      let behind := s.dropWhile Char.isDigit
      some ⟨.numeral negative (c :: s.takeWhile Char.isDigit) (fractionDigits behind),
        dropFraction behind,
        Nat.lt_succ_of_le
          (Nat.le_trans (length_dropFraction_le _) (List.dropWhile_sublist _).length_le)⟩
    else none

/-- Cuts off a truth value or a name: both end where no further name character follows. -/
def cutWord : (s : List Char) → Option (Cut Token s)
  | [] => none
  | c :: s =>
    if isNameStart c then
      let word := c :: s.takeWhile isNameChar
      let token : Token :=
        if word = Boolean.truthText true then .truth true
        else if word = Boolean.truthText false then .truth false
        else .name word
      some ⟨token, s.dropWhile isNameChar,
        Nat.lt_succ_of_le (List.dropWhile_sublist _).length_le⟩
    else none

/-- Cuts off the name of a rounding function. -/
def cutFunction (s : List Char) : Option (Cut Token s) :=
  match Rounding.all.find? fun mode => mode.function.isPrefixOf s with
  | some mode =>
    let rest := s.drop mode.function.length
    if h : rest.length < s.length then some ⟨.function mode, rest, h⟩ else none
  | none => none

/-- Cuts off a token where an operand is due. -/
def cutOperand (s : List Char) : Option (Cut Token s) :=
  match s with
  | '(' :: r => some ⟨.opening, r, Nat.lt_succ_self _⟩
  | '-' :: r =>
    (cutNumeral true r).map fun cut => ⟨cut.piece, cut.rest, Nat.lt_succ_of_lt cut.shorter⟩
  | s => ((cutFunction s).or (cutNumeral false s)).or (cutWord s)

/-- Cuts off a token behind an operand. -/
def cutOperator : (s : List Char) → Option (Cut Token s)
  | '+' :: r => some ⟨.operator .add, r, Nat.lt_succ_self _⟩
  | '-' :: r => some ⟨.operator .subtract, r, Nat.lt_succ_self _⟩
  | '*' :: r => some ⟨.operator .multiply, r, Nat.lt_succ_self _⟩
  | '/' :: r => some ⟨.operator .divide, r, Nat.lt_succ_self _⟩
  | '&' :: '&' :: r => some ⟨.operator .and, r, Nat.lt_succ_of_lt (Nat.lt_succ_self _)⟩
  | '|' :: '|' :: r => some ⟨.operator .or, r, Nat.lt_succ_of_lt (Nat.lt_succ_self _)⟩
  | '?' :: r => some ⟨.question, r, Nat.lt_succ_self _⟩
  | ':' :: r => some ⟨.colon, r, Nat.lt_succ_self _⟩
  | ')' :: r => some ⟨.closing, r, Nat.lt_succ_self _⟩
  | _ => none

/-- Cuts off a token. -/
def cutToken (operandDue : Bool) (s : List Char) : Option (Cut Token s) :=
  if operandDue then cutOperand s else cutOperator s

/-- The tokens of a text, if it can be cut up without remainder. -/
def tokens (operandDue : Bool) (s : List Char) : Option (List Token) :=
  if (dropSpaces s).isEmpty then some []
  else
    match cutToken operandDue (dropSpaces s) with
    | none => none
    | some cut =>
      have : cut.rest.length < s.length :=
        Nat.lt_of_lt_of_le cut.shorter (List.dropWhile_sublist _).length_le
      (tokens cut.piece.awaitsOperand cut.rest).map (cut.piece :: ·)
termination_by s.length

end PriorityFormula.Reader
