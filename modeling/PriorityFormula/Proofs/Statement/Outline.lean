import PriorityFormula.Context
import PriorityFormula.Proofs.Statement.LeansLeft
import PriorityFormula.Proofs.Statement.Printed

/-!
# The text identifies the formula

Two statements that are written alike are regrouped into statements with the same outline: they have
the same operations, names and numbers in the same places. What the text cannot show is the identity
of a statement, the accessor behind a name, and the sign of a zero.

The text is read in one way only, so both statements have one tree. The tree tells all constructors
of a statement apart and keeps everything but what an outline leaves out. Statements that lean to the
left are regrouped already, so among these the text alone tells the outline.
-/

namespace PriorityFormula

/-! ### Outlines -/

/-- The outline of a condition, without identities and accessors. -/
def Boolean.outline {B : Type} : Boolean B → Boolean Unit
  | literal value => literal value
  | var v => var ⟨v.name, ()⟩
  | joined _ connective left right => joined ⟨0⟩ connective left.outline right.outline
  | ternary _ condition ifTrue otherwise =>
    ternary ⟨0⟩ condition.outline ifTrue.outline otherwise.outline

/-- The outline of a numeric statement, without identities, accessors and signs of zeros. -/
def Numeric.outline {A B : Type} {f : Format} : Numeric A B f → Numeric Unit Unit f
  | literal value => literal value.unsignedZero
  | var v => var ⟨v.name, ()⟩
  | additive _ sign left right => additive ⟨0⟩ sign left.outline right.outline
  | scaled _ scaling left right => scaled ⟨0⟩ scaling left.outline right.outline
  | round _ mode operand => round ⟨0⟩ mode operand.outline
  | ternary _ condition ifTrue otherwise =>
    ternary ⟨0⟩ condition.outline ifTrue.outline otherwise.outline

/-! ### The tree has one outline -/

/-- Signs have different operators. -/
lemma Sign.operator_injective : Function.Injective Sign.operator
  | .plus, .plus, _ => rfl
  | .minus, .minus, _ => rfl

/-- Scalings have different operators. -/
lemma Scaling.operator_injective : Function.Injective Scaling.operator
  | .multiply, .multiply, _ => rfl
  | .divide, .divide, _ => rfl

/-- Connectives have different operators. -/
lemma Connective.operator_injective : Function.Injective Connective.operator
  | .and, .and, _ => rfl
  | .or, .or, _ => rfl

/-- No operator is both that of a sign and that of a scaling. -/
lemma Sign.operator_ne_scaling (sign : Sign) (scaling : Scaling) :
    sign.operator ≠ scaling.operator := by
  cases sign <;> cases scaling <;> decide

/-- A numeral belongs to one number only, except for the sign of a zero. -/
lemma FiniteNumber.unsignedZero_eq_of_numeral_eq {f : Format} {x y : FiniteNumber f}
    (hsign : x.isNegative = y.isNegative) (hnumeral : x.numeral = y.numeral) :
    x.unsignedZero = y.unsignedZero := by
  have hread := x.ofDecimal_numeral
  rw [hsign, hnumeral, y.ofDecimal_numeral] at hread
  injection hread with heq
  exact heq.symm

/-- A name is known from its characters. -/
lemma Name.eq_of_toList_eq {name name' : Name} (h : name.text.toList = name'.text.toList) :
    name = name' := by
  obtain ⟨text, hname⟩ := name
  obtain ⟨text', hname'⟩ := name'
  have htext : text = text' := String.toList_inj.mp h
  subst htext
  rfl

/-- Conditions with the same tree have the same outline. -/
lemma Boolean.outline_eq_of_tree_eq {B B' : Type} {s : Boolean B} {t : Boolean B'}
    (h : s.tree = t.tree) : s.outline = t.outline := by
  induction s generalizing t with
  | literal value =>
    cases t with
    | literal value' =>
      injection h with hvalue
      rw [outline, outline, hvalue]
    | _ => cases h
  | var v =>
    cases t with
    | var v' =>
      injection h with htext
      rw [outline, outline, Name.eq_of_toList_eq htext]
    | _ => cases h
  | joined id connective left right ihl ihr =>
    cases t with
    | joined id' connective' left' right' =>
      injection h with hoperator hleft hright
      rw [outline, outline, Connective.operator_injective hoperator, ihl hleft, ihr hright]
    | _ => cases h
  | ternary id condition ifTrue otherwise ihc iht iho =>
    cases t with
    | ternary id' condition' ifTrue' otherwise' =>
      injection h with hcondition hifTrue hotherwise
      rw [outline, outline, ihc hcondition, iht hifTrue, iho hotherwise]
    | _ => cases h

/-- Numeric statements with the same tree have the same outline. -/
lemma Numeric.outline_eq_of_tree_eq {A A' B B' : Type} {f : Format} {s : Numeric A B f}
    {t : Numeric A' B' f} (h : s.tree = t.tree) : s.outline = t.outline := by
  induction s generalizing t with
  | literal value =>
    cases t with
    | literal value' =>
      injection h with hsign hnumeral
      rw [outline, outline, FiniteNumber.unsignedZero_eq_of_numeral_eq hsign hnumeral]
    | _ => cases h
  | var v =>
    cases t with
    | var v' =>
      injection h with htext
      rw [outline, outline, Name.eq_of_toList_eq htext]
    | _ => cases h
  | additive id sign left right ihl ihr =>
    cases t with
    | additive id' sign' left' right' =>
      injection h with hoperator hleft hright
      rw [outline, outline, Sign.operator_injective hoperator, ihl hleft, ihr hright]
    | scaled id' scaling left' right' =>
      injection h with hoperator
      exact absurd hoperator (sign.operator_ne_scaling scaling)
    | _ => cases h
  | scaled id scaling left right ihl ihr =>
    cases t with
    | additive id' sign left' right' =>
      injection h with hoperator
      exact absurd hoperator.symm (sign.operator_ne_scaling scaling)
    | scaled id' scaling' left' right' =>
      injection h with hoperator hleft hright
      rw [outline, outline, Scaling.operator_injective hoperator, ihl hleft, ihr hright]
    | _ => cases h
  | round id mode operand ih =>
    cases t with
    | round id' mode' operand' =>
      injection h with hmode hoperand
      rw [outline, outline, hmode, ih hoperand]
    | _ => cases h
  | ternary id condition ifTrue otherwise iht iho =>
    cases t with
    | ternary id' condition' ifTrue' otherwise' =>
      injection h with hcondition hifTrue hotherwise
      rw [outline, outline, Boolean.outline_eq_of_tree_eq hcondition, iht hifTrue, iho hotherwise]
    | _ => cases h

/-! ### What the text tells -/

/-- Texts that spell two trees and are the same spell the same tree. -/
lemma Reader.Spells.tree_eq {text text' : List Char} {tree tree' : Reader.Tree}
    (h : Reader.Spells text tree) (h' : Reader.Spells text' tree') (htext : text = text') :
    tree = tree' := by
  obtain ⟨e, hread, htree⟩ := h.exists_read_eq
  obtain ⟨e', hread', htree'⟩ := h'.exists_read_eq
  rw [htext, hread'] at hread
  injection hread with heq
  rw [← htree, ← heq, htree']

/-- Conditions with the same text are regrouped into conditions with the same outline. -/
lemma Boolean.outline_regrouped_eq {B B' : Type} {s : Boolean B} {t : Boolean B'}
    (hs : ∀ v ∈ s.allVariables, v.name.IsNoTruthValue)
    (ht : ∀ v ∈ t.allVariables, v.name.IsNoTruthValue) (htext : s.text = t.text) :
    s.regrouped.outline = t.regrouped.outline := by
  have htree := (s.printed hs).spells.tree_eq (t.printed ht).spells htext
  exact outline_eq_of_tree_eq htree

/-- Numeric statements with the same text are regrouped into statements with the same outline. -/
lemma Numeric.outline_regrouped_eq {A A' B B' : Type} {f : Format} {s : Numeric A B f}
    {t : Numeric A' B' f} (hs : ∀ v ∈ s.allVariables, v.name.IsNoTruthValue)
    (ht : ∀ v ∈ t.allVariables, v.name.IsNoTruthValue) (htext : s.text = t.text) :
    s.regrouped.outline = t.regrouped.outline := by
  have htree := (s.printed hs).spells.tree_eq (t.printed ht).spells htext
  exact outline_eq_of_tree_eq htree

/-- Conditions that lean to the left have the same outline already if they have the same text. -/
theorem Boolean.LeansLeft.outline_eq {B B' : Type} {s : Boolean B} {t : Boolean B'}
    (hleft : s.LeansLeft) (hleft' : t.LeansLeft)
    (hs : ∀ v ∈ s.allVariables, v.name.IsNoTruthValue)
    (ht : ∀ v ∈ t.allVariables, v.name.IsNoTruthValue) (htext : s.text = t.text) :
    s.outline = t.outline := by
  have houtline := outline_regrouped_eq hs ht htext
  rwa [hleft.regrouped_eq, hleft'.regrouped_eq] at houtline

/-- Numeric statements that lean to the left have the same outline already if they have the same
text. -/
theorem Numeric.LeansLeft.outline_eq {A A' B B' : Type} {f : Format} {s : Numeric A B f}
    {t : Numeric A' B' f} (hleft : s.LeansLeft) (hleft' : t.LeansLeft)
    (hs : ∀ v ∈ s.allVariables, v.name.IsNoTruthValue)
    (ht : ∀ v ∈ t.allVariables, v.name.IsNoTruthValue) (htext : s.text = t.text) :
    s.outline = t.outline := by
  have houtline := outline_regrouped_eq hs ht htext
  rwa [hleft.regrouped_eq, hleft'.regrouped_eq] at houtline

/-- Two numeric statements with the same text are regrouped into statements with the same outline,
and so are two conditions. Only variables that are named like truth values are left out. -/
theorem outline_regrouped_eq_of_text_eq (A A' B B' : Type) (f : Format) :
    (∀ (s : Numeric A B f) (t : Numeric A' B' f), (∀ v ∈ s.allVariables, v.name.IsNoTruthValue) →
      (∀ v ∈ t.allVariables, v.name.IsNoTruthValue) → s.text = t.text →
        s.regrouped.outline = t.regrouped.outline) ∧
    ∀ (s : Boolean B) (t : Boolean B'), (∀ v ∈ s.allVariables, v.name.IsNoTruthValue) →
      (∀ v ∈ t.allVariables, v.name.IsNoTruthValue) → s.text = t.text →
        s.regrouped.outline = t.regrouped.outline := by
  constructor
  · intro s t hs ht htext
    exact Numeric.outline_regrouped_eq hs ht htext
  · intro s t hs ht htext
    exact Boolean.outline_regrouped_eq hs ht htext

/-- A difference that is subtracted and a quotient that is divided by are written like the flat
formula, in which the zero carries no sign and `impact` is read from elsewhere. So are a conjunction
nested to the right and one nested to the left. The flat formula and the conjunction nested to the
left are what the regrouped statements look like. -/
theorem outline_regrouped_eq_of_flat_text :
    let two : FiniteNumber .double := ⟨false, 0x4000000000000000, by decide⟩
    let zero (negative : Bool) : Quantity .double := .literal ⟨negative, 0, by decide⟩
    let urgency := Quantity.urgency .double
    let impact := Quantity.impact .double
    let other : Quantity .double := .var ⟨⟨"impact", by decide⟩, .entry "severity"⟩
    let s : Quantity .double := .additive ⟨3⟩ .minus impact (.additive ⟨2⟩ .minus (zero true)
      (.scaled ⟨1⟩ .divide urgency (.scaled ⟨0⟩ .divide impact (.literal two))))
    let t : Quantity .double := .additive ⟨7⟩ .plus (.additive ⟨6⟩ .minus other (zero false))
      (.scaled ⟨5⟩ .divide (.scaled ⟨4⟩ .divide urgency other) (.literal two))
    let a : Condition := .joined ⟨1⟩ .and Condition.vip
      (.joined ⟨0⟩ .and Condition.businessRelated Condition.vip)
    let b : Condition := .joined ⟨0⟩ .and
      (.joined ⟨1⟩ .and Condition.vip Condition.businessRelated) Condition.vip
    s.text = "impact - 0 + (urgency / impact / 2)".toList ∧ s.outline ≠ t.outline ∧
      s.regrouped.outline = t.regrouped.outline ∧ a.outline ≠ b.outline ∧
        a.regrouped.outline = b.regrouped.outline ∧ s.regrouped.outline = t.outline ∧
          a.regrouped.outline = b.outline := by
  intro two zero urgency impact other s t a b
  obtain ⟨hnumeric, hboolean⟩ := outline_regrouped_eq_of_text_eq (NumberSource .double)
    (NumberSource .double) FlagSource FlagSource .double
  have ht : t.LeansLeft := by decide
  have hb : b.LeansLeft := by decide
  refine ⟨by decide +kernel, by decide +kernel, ?_, by decide +kernel, ?_, ?_, ?_⟩
  · exact hnumeric s t (by decide +kernel) (by decide +kernel) (by decide +kernel)
  · exact hboolean a b (by decide +kernel) (by decide +kernel) (by decide +kernel)
  · exact s.leansLeft_regrouped.outline_eq ht (by decide +kernel) (by decide +kernel)
      (by decide +kernel)
  · exact a.leansLeft_regrouped.outline_eq hb (by decide +kernel) (by decide +kernel)
      (by decide +kernel)

end PriorityFormula
