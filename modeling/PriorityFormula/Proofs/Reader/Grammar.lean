import Mathlib.Tactic.Lemma
import PriorityFormula.Reader.Token

/-!
# The grammar of formulas

What a formula is, is said here without saying how one is read. `Derives` is an ordinary
context-free grammar over tokens: no alternative goes before another one, and a repetition may stop
anywhere.

    expression = chain | chain "?" expression ":" expression
    chain      = term links
    links      = | operator term links
    term       = numeral | truth value | name
               | function "(" expression ")" | "(" expression ")"

`Spelled` relates tokens to a text that spells them with any number of spaces before, between and
after them. The same text may spell different tokens: `true` is a truth value and has the form of a
name, and the minus of `1-2` may belong to a numeral. A text is a formula if it spells some tokens
that the grammar derives.

In a derived list of tokens operands and what joins them alternate. So wherever a token stands, the
tokens before it settle whether an operand is due there.
-/

namespace PriorityFormula.Reader

/-! ### Derivations -/

/-- A rule of the grammar. -/
inductive Rule where
  | expression
  | chain
  | links
  | term

/-- Whether a token is a word: a numeral, a truth value or a name. -/
def Token.isWord : Token → Bool
  | .numeral .. | .truth _ | .name _ => true
  | _ => false

/-- A rule derives a list of tokens. -/
inductive Derives : Rule → List Token → Prop
  | chainOnly {ts : List Token} (chain : Derives .chain ts) : Derives .expression ts
  | choice {ts us vs : List Token} (condition : Derives .chain ts)
      (ifTrue : Derives .expression us) (otherwise : Derives .expression vs) :
      Derives .expression (ts ++ .question :: (us ++ .colon :: vs))
  | chain {ts us : List Token} (head : Derives .term ts) (links : Derives .links us) :
      Derives .chain (ts ++ us)
  | noLinks : Derives .links []
  | link (op : Operator) {ts us : List Token} (term : Derives .term ts)
      (rest : Derives .links us) : Derives .links (.operator op :: ts ++ us)
  | word {t : Token} (isWord : t.isWord = true) : Derives .term [t]
  | rounded (mode : Rounding) {ts : List Token} (inner : Derives .expression ts) :
      Derives .term (.function mode :: .opening :: ts ++ [.closing])
  | grouped {ts : List Token} (inner : Derives .expression ts) :
      Derives .term (.opening :: ts ++ [.closing])

/-! ### Texts that spell tokens -/

/-- Whether a token is one that a text can spell: a numeral has digits, and a name has the form of
a name. -/
def Token.WellFormed : Token → Prop
  | .numeral _ whole fraction =>
    whole ≠ [] ∧ (∀ c ∈ whole, c.isDigit = true) ∧ ∀ c ∈ fraction, c.isDigit = true
  | .name text => isName text = true
  | _ => True

/-- A text spells tokens, with any number of spaces in front of each token and behind the last one.
A word ends only where no further character of a name follows. -/
inductive Spelled : List Token → List Char → Prop
  | nil (spaces : Nat) : Spelled [] (List.replicate spaces ' ')
  | cons (spaces : Nat) {t : Token} {ts : List Token} {rest : List Char} (wellFormed : t.WellFormed)
      (ends : t.isWord = true → ∀ c ∈ rest.head?, isNameChar c = false)
      (tail : Spelled ts rest) :
      Spelled (t :: ts) (List.replicate spaces ' ' ++ (t.text ++ rest))

/-- Whether a text is a formula. -/
def IsFormula (text : List Char) : Prop :=
  ∃ ts, Spelled ts text ∧ Derives .expression ts

/-! ### Where an operand is due -/

/-- Whether a token stands where an operand is due. -/
def Token.beginsOperand : Token → Bool
  | .numeral .. | .truth _ | .name _ | .function _ | .opening => true
  | .operator _ | .closing | .question | .colon => false

/-- Tokens that stand in their places one after the other. An operand is due in front of them if
`due` holds, and behind them if `due'` does. -/
def Alternates : (due : Bool) → List Token → (due' : Bool) → Prop
  | due, [], due' => due = due'
  | due, t :: ts, due' => t.beginsOperand = due ∧ Alternates t.awaitsOperand ts due'

/-- Tokens stand in their places if both parts do. -/
lemma Alternates.append {due due' due'' : Bool} {ts us : List Token} (hts : Alternates due ts due')
    (hus : Alternates due' us due'') : Alternates due (ts ++ us) due'' := by
  induction ts generalizing due with
  | nil =>
    cases hts
    exact hus
  | cons t ts ih => exact ⟨hts.1, ih hts.2⟩

/-- An operand is due in front of everything that a rule derives, links excepted. -/
def Rule.due : Rule → Bool
  | .links => false
  | .expression | .chain | .term => true

/-- The tokens that a rule derives stand in their places and end behind an operand. -/
lemma Derives.alternates {rule : Rule} {ts : List Token} (h : Derives rule ts) :
    Alternates rule.due ts false := by
  induction h with
  | chainOnly _ ih => exact ih
  | choice _ _ _ ihCondition ihIfTrue ihOtherwise =>
    exact ihCondition.append ⟨rfl, ihIfTrue.append ⟨rfl, ihOtherwise⟩⟩
  | chain _ _ ihHead ihLinks => exact ihHead.append ihLinks
  | noLinks => rfl
  | link op _ _ ihTerm ihRest => exact ⟨rfl, ihTerm.append ihRest⟩
  | @word t hword =>
    cases t with
    | numeral _ _ _ | truth _ | name _ => exact ⟨rfl, rfl⟩
    | function _ | operator _ | opening | closing | question | colon => cases hword
  | rounded mode _ ih => exact ⟨rfl, rfl, ih.append ⟨rfl, rfl⟩⟩
  | grouped _ ih => exact ⟨rfl, ih.append ⟨rfl, rfl⟩⟩

/-- A rule does not look at what a word is. -/
lemma Derives.map {f : Token → Token} (hword : ∀ t, t.isWord = true → (f t).isWord = true)
    (hother : ∀ t, t.isWord = false → f t = t) {rule : Rule} {ts : List Token}
    (h : Derives rule ts) : Derives rule (ts.map f) := by
  induction h with
  | chainOnly _ ih => exact .chainOnly ih
  | choice _ _ _ ihCondition ihIfTrue ihOtherwise =>
    have hchoice := Derives.choice ihCondition ihIfTrue ihOtherwise
    simpa [hother .question rfl, hother .colon rfl] using hchoice
  | chain _ _ ihHead ihLinks =>
    rw [List.map_append]
    exact .chain ihHead ihLinks
  | noLinks => exact .noLinks
  | link op _ _ ihTerm ihRest =>
    have hlink := Derives.link op ihTerm ihRest
    simpa [hother (.operator op) rfl] using hlink
  | word h => exact .word (hword _ h)
  | rounded mode _ ih =>
    have hrounded := Derives.rounded mode ih
    simpa [hother (.function mode) rfl, hother .opening rfl, hother .closing rfl] using hrounded
  | grouped _ ih =>
    have hgrouped := Derives.grouped ih
    simpa [hother .opening rfl, hother .closing rfl] using hgrouped

end PriorityFormula.Reader
