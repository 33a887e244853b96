import PriorityFormula.Proofs.Number.Numeral
import PriorityFormula.Statement.Evaluate
import PriorityFormula.Statement.Text

/-!
# Regrouped statements

The text of a formula does not show how sums and differences, products, quotients and connectives of
one kind were nested to the right. The regrouped statement is the one that the text does show: each
block of sums and differences leans to the left, and so does each block of products, of quotients,
of conjunctions and of disjunctions. The operands keep their order. A sum or difference that moves
out from behind a minus flips its sign, and a literal below zero that is not the first operand of
its block becomes its opposite with the other sign.

Regrouping is built up from appending one statement to another that already leans to the left.
Appending a block appends its operands one after the other, so it does not matter how the appended
block was nested.
-/

namespace PriorityFormula

namespace Boolean

variable {B : Type}

/-- A condition joined to a chain; the parts of a condition joined by the same connective are joined
to the chain one after the other. -/
def appendParts (connective : Connective) : Boolean B → Id → Boolean B → Boolean B
  | chain, id, joined id' own left right =>
    if own = connective then
      appendParts connective (appendParts connective chain id left) id' right
    else joined id connective chain (joined id' own left right)
  | chain, id, literal value => joined id connective chain (literal value)
  | chain, id, var v => joined id connective chain (var v)
  | chain, id, ternary id' condition ifTrue otherwise =>
    joined id connective chain (ternary id' condition ifTrue otherwise)

/-- The condition whose blocks of one connective lean to the left. -/
def regrouped : Boolean B → Boolean B
  | literal value => literal value
  | var v => var v
  | joined id connective left right => appendParts connective left.regrouped id right.regrouped
  | ternary id condition ifTrue otherwise =>
    ternary id condition.regrouped ifTrue.regrouped otherwise.regrouped

/-- The variables of a condition from left to right, whether they are read or not. -/
def allVariables : Boolean B → List (Variable B)
  | literal _ => []
  | var v => [v]
  | joined _ _ left right => left.allVariables ++ right.allVariables
  | ternary _ condition ifTrue otherwise =>
    condition.allVariables ++ ifTrue.allVariables ++ otherwise.allVariables

end Boolean

namespace Numeric

variable {A B : Type} {f : Format}

/-- A term put behind a chain with a sign; the terms of a sum or difference are put behind it one
after the other. -/
def appendTerms : Numeric A B f → Id → Sign → Numeric A B f → Numeric A B f
  | chain, id, sign, additive id' inner left right =>
    appendTerms (appendTerms chain id sign left) id' (sign.behind inner) right
  | chain, id, sign, literal value =>
    if value.isNegative then additive id sign.flipped chain (literal value.negated)
    else additive id sign chain (literal value)
  | chain, id, sign, var v => additive id sign chain (var v)
  | chain, id, sign, scaled id' scaling left right =>
    additive id sign chain (scaled id' scaling left right)
  | chain, id, sign, round id' mode operand => additive id sign chain (round id' mode operand)
  | chain, id, sign, ternary id' condition ifTrue otherwise =>
    additive id sign chain (ternary id' condition ifTrue otherwise)

/-- A factor put behind a chain; the factors of a statement scaled in the same way are put behind it
one after the other. -/
def appendFactors (scaling : Scaling) : Numeric A B f → Id → Numeric A B f → Numeric A B f
  | chain, id, scaled id' own left right =>
    if own = scaling then
      appendFactors scaling (appendFactors scaling chain id left) id' right
    else scaled id scaling chain (scaled id' own left right)
  | chain, id, literal value => scaled id scaling chain (literal value)
  | chain, id, var v => scaled id scaling chain (var v)
  | chain, id, additive id' sign left right =>
    scaled id scaling chain (additive id' sign left right)
  | chain, id, round id' mode operand => scaled id scaling chain (round id' mode operand)
  | chain, id, ternary id' condition ifTrue otherwise =>
    scaled id scaling chain (ternary id' condition ifTrue otherwise)

/-- The statement whose blocks of sums and differences, of products and of quotients lean to the
left, and so do the blocks of its conditions. -/
def regrouped : Numeric A B f → Numeric A B f
  | literal value => literal value
  | var v => var v
  | additive id sign left right => appendTerms left.regrouped id sign right.regrouped
  | scaled id scaling left right => appendFactors scaling left.regrouped id right.regrouped
  | round id mode operand => round id mode operand.regrouped
  | ternary id condition ifTrue otherwise =>
    ternary id condition.regrouped ifTrue.regrouped otherwise.regrouped

/-- The statement with all literal zeros unsigned. -/
def unsignedZeros : Numeric A B f → Numeric A B f
  | literal value => literal value.unsignedZero
  | var v => var v
  | additive id sign left right => additive id sign left.unsignedZeros right.unsignedZeros
  | scaled id scaling left right => scaled id scaling left.unsignedZeros right.unsignedZeros
  | round id mode operand => round id mode operand.unsignedZeros
  | ternary id condition ifTrue otherwise =>
    ternary id condition ifTrue.unsignedZeros otherwise.unsignedZeros

/-- The variables of a statement from left to right, whether they are read or not. -/
def allVariables : Numeric A B f → List (Access A B)
  | literal _ => []
  | var v => [.number v]
  | additive _ _ left right | scaled _ _ left right => left.allVariables ++ right.allVariables
  | round _ _ operand => operand.allVariables
  | ternary _ condition ifTrue otherwise =>
    condition.allVariables.map .flag ++ ifTrue.allVariables ++ otherwise.allVariables

end Numeric

/-! ### Appending blocks -/

namespace Sign

/-- Signs add up along nested chains. -/
lemma behind_behind (outer middle inner : Sign) :
    (outer.behind middle).behind inner = outer.behind (middle.behind inner) := by
  cases outer <;> cases middle <;> cases inner <;> rfl

/-- Flipping an inner sign flips the sign that it gets from outside. -/
lemma behind_flipped (outer inner : Sign) :
    outer.behind inner.flipped = (outer.behind inner).flipped := by
  cases outer <;> cases inner <;> rfl

end Sign

namespace Boolean

variable {B : Type}

/-- A condition that is not joined by the connective is appended as it is. -/
lemma appendParts_of_joinedBy_eq_false {connective : Connective} {s : Boolean B}
    (h : s.joinedBy connective = false) (chain : Boolean B) (id : Id) :
    appendParts connective chain id s = joined id connective chain s := by
  cases s with
  | literal value => rfl
  | var v => rfl
  | joined id' own left right =>
    have hne : own ≠ connective := by simpa [joinedBy] using h
    rw [appendParts, if_neg hne]
  | ternary id' condition ifTrue otherwise => rfl

/-- Appending to a chain gives a condition joined by the connective. -/
lemma joinedBy_appendParts (connective own : Connective) (chain : Boolean B) (id : Id)
    (s : Boolean B) : (appendParts own chain id s).joinedBy connective = (own == connective) := by
  induction s generalizing chain id with
  | literal value => rfl
  | var v => rfl
  | joined id' inner left right _ ihr =>
    rw [appendParts]
    split
    · exact ihr _ _
    · rfl
  | ternary id' condition ifTrue otherwise => rfl

/-- A regrouped condition is joined by the same connective as before. -/
lemma joinedBy_regrouped (connective : Connective) (s : Boolean B) :
    s.regrouped.joinedBy connective = s.joinedBy connective := by
  cases s with
  | literal value => rfl
  | var v => rfl
  | joined id own left right => exact joinedBy_appendParts connective own _ _ _
  | ternary id condition ifTrue otherwise => rfl

/-- A chain is appended part by part. -/
lemma appendParts_appendParts (connective : Connective) (chain left : Boolean B) (id id' : Id)
    (right : Boolean B) :
    appendParts connective chain id (appendParts connective left id' right) =
      appendParts connective (appendParts connective chain id left) id' right := by
  induction right generalizing left id' with
  | literal value => simp only [appendParts, if_true]
  | var v => simp only [appendParts, if_true]
  | joined id'' own l r ihl ihr =>
    by_cases hown : own = connective
    · simp only [appendParts, if_pos hown]
      rw [ihr, ihl]
    · simp only [appendParts, if_neg hown, if_true]
  | ternary id'' condition ifTrue otherwise => simp only [appendParts, if_true]

/-- Appending puts the variables of the appended condition last. -/
lemma allVariables_appendParts (connective : Connective) (chain : Boolean B) (id : Id)
    (s : Boolean B) :
    (appendParts connective chain id s).allVariables = chain.allVariables ++ s.allVariables := by
  induction s generalizing chain id with
  | literal value => rfl
  | var v => rfl
  | joined id' own left right ihl ihr =>
    rw [appendParts]
    split
    · rw [ihr, ihl, allVariables, List.append_assoc]
    · rfl
  | ternary id' condition ifTrue otherwise => rfl

/-- Regrouping keeps the variables in order. -/
@[simp] lemma allVariables_regrouped (s : Boolean B) :
    s.regrouped.allVariables = s.allVariables := by
  induction s with
  | literal value => rfl
  | var v => rfl
  | joined id connective left right ihl ihr =>
    rw [regrouped, allVariables_appendParts, ihl, ihr, allVariables]
  | ternary id condition ifTrue otherwise ihc iht iho =>
    rw [regrouped, allVariables, ihc, iht, iho, allVariables]

end Boolean

namespace Numeric

variable {A B : Type} {f : Format}

/-- A statement that is neither a sum, nor a difference, nor a literal below zero is put behind a
chain as it is. -/
lemma appendTerms_eq_additive {s : Numeric A B f} (hadditive : s.isAdditive = false)
    (hnegative : s.isNegativeLiteral = false) (chain : Numeric A B f) (id : Id) (sign : Sign) :
    appendTerms chain id sign s = additive id sign chain s := by
  cases s with
  | literal value =>
    have hvalue : ¬ value.isNegative = true := by simpa [isNegativeLiteral] using hnegative
    rw [appendTerms, if_neg hvalue]
  | var v => rfl
  | additive id' inner left right => cases hadditive
  | scaled id' scaling left right => rfl
  | round id' mode operand => rfl
  | ternary id' condition ifTrue otherwise => rfl

/-- A statement that is not scaled in the same way is put behind a chain as it is. -/
lemma appendFactors_of_scaledBy_eq_false {scaling : Scaling} {s : Numeric A B f}
    (h : s.scaledBy scaling = false) (chain : Numeric A B f) (id : Id) :
    appendFactors scaling chain id s = scaled id scaling chain s := by
  cases s with
  | literal value => rfl
  | var v => rfl
  | additive id' sign left right => rfl
  | scaled id' own left right =>
    have hne : own ≠ scaling := by simpa [scaledBy] using h
    rw [appendFactors, if_neg hne]
  | round id' mode operand => rfl
  | ternary id' condition ifTrue otherwise => rfl

/-- Putting terms behind a chain gives a sum or a difference. -/
lemma exists_appendTerms_eq_additive (chain : Numeric A B f) (id : Id) (sign : Sign)
    (s : Numeric A B f) :
    ∃ id' sign' left right, appendTerms chain id sign s = additive id' sign' left right := by
  induction s generalizing chain id sign with
  | literal value =>
    rw [appendTerms]
    split
    · exact ⟨_, _, _, _, rfl⟩
    · exact ⟨_, _, _, _, rfl⟩
  | var v => exact ⟨_, _, _, _, rfl⟩
  | additive id' inner left right _ ihr => exact ihr _ _ _
  | scaled id' scaling left right => exact ⟨_, _, _, _, rfl⟩
  | round id' mode operand => exact ⟨_, _, _, _, rfl⟩
  | ternary id' condition ifTrue otherwise => exact ⟨_, _, _, _, rfl⟩

/-- Putting factors behind a chain gives a statement scaled in that way. -/
lemma exists_appendFactors_eq_scaled (scaling : Scaling) (chain : Numeric A B f) (id : Id)
    (s : Numeric A B f) :
    ∃ id' left right, appendFactors scaling chain id s = scaled id' scaling left right := by
  induction s generalizing chain id with
  | literal value => exact ⟨_, _, _, rfl⟩
  | var v => exact ⟨_, _, _, rfl⟩
  | additive id' sign left right => exact ⟨_, _, _, rfl⟩
  | scaled id' own left right _ ihr =>
    rw [appendFactors]
    split
    · exact ihr _ _
    · exact ⟨_, _, _, rfl⟩
  | round id' mode operand => exact ⟨_, _, _, rfl⟩
  | ternary id' condition ifTrue otherwise => exact ⟨_, _, _, rfl⟩

/-- Regrouping does not change whether the root is a sum or difference, a literal below zero, or
scaled in some way. -/
lemma regrouped_root (s : Numeric A B f) :
    s.regrouped.isAdditive = s.isAdditive ∧
      s.regrouped.isNegativeLiteral = s.isNegativeLiteral ∧
        ∀ scaling, s.regrouped.scaledBy scaling = s.scaledBy scaling := by
  cases s with
  | literal value => exact ⟨rfl, rfl, fun _ => rfl⟩
  | var v => exact ⟨rfl, rfl, fun _ => rfl⟩
  | additive id sign left right =>
    obtain ⟨_, _, _, _, heq⟩ :=
      exists_appendTerms_eq_additive left.regrouped id sign right.regrouped
    rw [regrouped, heq]
    exact ⟨rfl, rfl, fun _ => rfl⟩
  | scaled id own left right =>
    obtain ⟨_, _, _, heq⟩ := exists_appendFactors_eq_scaled own left.regrouped id right.regrouped
    rw [regrouped, heq]
    exact ⟨rfl, rfl, fun _ => rfl⟩
  | round id mode operand => exact ⟨rfl, rfl, fun _ => rfl⟩
  | ternary id condition ifTrue otherwise => exact ⟨rfl, rfl, fun _ => rfl⟩

/-- A chain is put behind another one term by term. -/
lemma appendTerms_appendTerms (chain left : Numeric A B f) (id id' : Id) (sign inner : Sign)
    (right : Numeric A B f) :
    appendTerms chain id sign (appendTerms left id' inner right) =
      appendTerms (appendTerms chain id sign left) id' (sign.behind inner) right := by
  induction right generalizing left id' inner with
  | literal value =>
    have hnot : value.isNegative = true → ¬ value.negated.isNegative = true := fun h => by
      rw [FiniteNumber.isNegative_negated_of_isNegative h]
      exact Bool.false_ne_true
    rw [appendTerms, appendTerms]
    split
    · next h => simp only [appendTerms, if_neg (hnot h), Sign.behind_flipped]
    · next h => simp only [appendTerms, if_neg h]
  | var v => simp only [appendTerms]
  | additive id'' sign' l r ihl ihr =>
    simp only [appendTerms]
    rw [ihr, ihl, Sign.behind_behind]
  | scaled id'' scaling l r => simp only [appendTerms]
  | round id'' mode operand => simp only [appendTerms]
  | ternary id'' condition ifTrue otherwise => simp only [appendTerms]

/-- A chain of one scaling is put behind another one factor by factor. -/
lemma appendFactors_appendFactors (scaling : Scaling) (chain left : Numeric A B f) (id id' : Id)
    (right : Numeric A B f) :
    appendFactors scaling chain id (appendFactors scaling left id' right) =
      appendFactors scaling (appendFactors scaling chain id left) id' right := by
  induction right generalizing left id' with
  | literal value => simp only [appendFactors, if_true]
  | var v => simp only [appendFactors, if_true]
  | additive id'' sign l r => simp only [appendFactors, if_true]
  | scaled id'' own l r ihl ihr =>
    by_cases hown : own = scaling
    · simp only [appendFactors, if_pos hown]
      rw [ihr, ihl]
    · simp only [appendFactors, if_neg hown, if_true]
  | round id'' mode operand => simp only [appendFactors, if_true]
  | ternary id'' condition ifTrue otherwise => simp only [appendFactors, if_true]

/-- Putting terms behind a chain puts their variables last. -/
lemma allVariables_appendTerms (chain : Numeric A B f) (id : Id) (sign : Sign) (s : Numeric A B f) :
    (appendTerms chain id sign s).allVariables = chain.allVariables ++ s.allVariables := by
  induction s generalizing chain id sign with
  | literal value =>
    rw [appendTerms]
    split <;> rfl
  | var v => rfl
  | additive id' inner left right ihl ihr =>
    rw [appendTerms, ihr, ihl, allVariables, List.append_assoc]
  | scaled id' scaling left right => rfl
  | round id' mode operand => rfl
  | ternary id' condition ifTrue otherwise => rfl

/-- Putting factors behind a chain puts their variables last. -/
lemma allVariables_appendFactors (scaling : Scaling) (chain : Numeric A B f) (id : Id)
    (s : Numeric A B f) :
    (appendFactors scaling chain id s).allVariables = chain.allVariables ++ s.allVariables := by
  induction s generalizing chain id with
  | literal value => rfl
  | var v => rfl
  | additive id' sign left right => rfl
  | scaled id' own left right ihl ihr =>
    rw [appendFactors]
    split
    · rw [ihr, ihl, allVariables, List.append_assoc]
    · rfl
  | round id' mode operand => rfl
  | ternary id' condition ifTrue otherwise => rfl

/-- Regrouping keeps the variables in order. -/
@[simp] lemma allVariables_regrouped (s : Numeric A B f) :
    s.regrouped.allVariables = s.allVariables := by
  induction s with
  | literal value => rfl
  | var v => rfl
  | additive id sign left right ihl ihr =>
    rw [regrouped, allVariables_appendTerms, ihl, ihr, allVariables]
  | scaled id scaling left right ihl ihr =>
    rw [regrouped, allVariables_appendFactors, ihl, ihr, allVariables]
  | round id mode operand ih => rw [regrouped, allVariables, ih, allVariables]
  | ternary id condition ifTrue otherwise iht iho =>
    rw [regrouped, allVariables, Boolean.allVariables_regrouped, iht, iho, allVariables]

end Numeric

end PriorityFormula
