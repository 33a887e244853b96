import PriorityFormula.Reader.Token

/-!
# Expressions

An expression is read as the grammar groups it, which is not yet how it is evaluated: operands and
binary operators form one flat chain, whatever the operators are, and a choice has a chain as its
condition and expressions as its branches.

    expression = chain [ "?" expression ":" expression ]
    chain      = term { operator term }
    term       = function "(" expression ")" / truth value / numeral / name
               / "(" expression ")"

As for the words that make up the tokens, the alternatives of an operand are ordered, a repetition
takes as many links as there are, and an optional part is taken if it matches. Where a part fails,
such a grammar goes back to what stood before it. The functions below do not: each one decides on
the next token and fails as a whole if what it has begun does not go on. Nothing is lost by that,
since after a step back the text would have to go on with a token that cannot stand there.

* The first token tells the alternatives of an operand apart.
* `links` needs an operand behind each operator. Without this link the chain would end before an
  operator, and behind a chain there is only a question mark, a colon, a closing parenthesis or the
  end.
* `expression` needs both branches behind a question mark. Without them it would end before a
  question mark, and behind an expression there is none.
* `enclosed` needs the closing parenthesis, since an opening one begins no other alternative.

Conversely, wherever these decisions lead to an expression the ordered grammar takes them as well:
no alternative that comes earlier matches, and the links are all there are. So it accepts what is
read here, and it accepts nothing that cannot be derived without an order. That the reader accepts
everything that can be derived without an order, and nothing else, is proved of `read`.
-/

namespace PriorityFormula.Reader

mutual

/-- An operand of a chain. -/
inductive Term where
  | number (negative : Bool) (magnitude : Decimal)
  | truth (value : Bool)
  | name (text : List Char)
  | rounded (mode : Rounding) (inner : Expression)
  | grouped (inner : Expression)

/-- What follows the first operand of a chain. -/
inductive Links where
  | done
  | link (op : Operator) (term : Term) (rest : Links)

/-- An expression. -/
inductive Expression where
  | chain (head : Term) (links : Links)
  | choice (head : Term) (links : Links) (ifTrue otherwise : Expression)

end

/-- Links together with the tokens behind them, which may be all. -/
structure Linked (ts : List Token) where
  links : Links
  rest : List Token
  notLonger : rest.length ≤ ts.length

/-- Drops a token from the front of a list that has to begin with it. -/
def dropToken (token : Token) : (ts : List Token) → Option (Cut Unit ts)
  | [] => none
  | t :: ts => if t = token then some ⟨(), ts, Nat.lt_succ_self _⟩ else none

mutual

/-- Reads an expression off the front of a list of tokens. -/
def expression (ts : List Token) : Option (Cut Expression ts) :=
  match term ts with
  | none => none
  | some head =>
    have := head.shorter
    match links head.rest with
    | none => none
    | some linked =>
      have shorter : linked.rest.length < ts.length :=
        Nat.lt_of_le_of_lt linked.notLonger head.shorter
      match dropToken .question linked.rest with
      | none => some ⟨.chain head.piece linked.links, linked.rest, shorter⟩
      | some question =>
        have shorter := Nat.lt_trans question.shorter shorter
        match expression question.rest with
        | none => none
        | some ifTrue =>
          have shorter := Nat.lt_trans ifTrue.shorter shorter
          match dropToken .colon ifTrue.rest with
          | none => none
          | some colon =>
            have shorter := Nat.lt_trans colon.shorter shorter
            match expression colon.rest with
            | none => none
            | some otherwise =>
              some ⟨.choice head.piece linked.links ifTrue.piece otherwise.piece, otherwise.rest,
                Nat.lt_trans otherwise.shorter shorter⟩
termination_by (ts.length, 2)

/-- Reads an expression and the closing parenthesis behind it. -/
def enclosed (ts : List Token) : Option (Cut Expression ts) :=
  match expression ts with
  | none => none
  | some inner =>
    match dropToken .closing inner.rest with
    | none => none
    | some closing =>
      some ⟨inner.piece, closing.rest, Nat.lt_trans closing.shorter inner.shorter⟩
termination_by (ts.length, 3)

/-- Reads an operand off the front of a list of tokens. -/
def term (ts : List Token) : Option (Cut Term ts) :=
  match ts with
  | .numeral negative whole fraction :: r =>
    some ⟨.number negative (.ofNumeral whole fraction), r, Nat.lt_succ_self _⟩
  | .truth value :: r => some ⟨.truth value, r, Nat.lt_succ_self _⟩
  | .name text :: r => some ⟨.name text, r, Nat.lt_succ_self _⟩
  | .function mode :: .opening :: r =>
    match enclosed r with
    | none => none
    | some inner =>
      some ⟨.rounded mode inner.piece, inner.rest,
        Nat.lt_succ_of_lt (Nat.lt_succ_of_lt inner.shorter)⟩
  | .opening :: r =>
    match enclosed r with
    | none => none
    | some inner => some ⟨.grouped inner.piece, inner.rest, Nat.lt_succ_of_lt inner.shorter⟩
  | _ => none
termination_by (ts.length, 1)

/-- Reads as many operators, each with its operand, as follow. -/
def links (ts : List Token) : Option (Linked ts) :=
  match ts with
  | .operator op :: r =>
    match term r with
    | none => none
    | some operand =>
      have := operand.shorter
      match links operand.rest with
      | none => none
      | some linked =>
        some ⟨.link op operand.piece linked.links, linked.rest,
          Nat.le_succ_of_le (Nat.le_trans linked.notLonger (Nat.le_of_lt operand.shorter))⟩
  | ts => some ⟨.done, ts, Nat.le_refl _⟩
termination_by (ts.length, 0)

end

/-- The expression that a text is, if it is one from its beginning to its end. -/
def read (text : List Char) : Option Expression :=
  match tokens true text with
  | none => none
  | some ts =>
    match expression ts with
    | none => none
    | some cut => if cut.rest.isEmpty then some cut.piece else none

end PriorityFormula.Reader
