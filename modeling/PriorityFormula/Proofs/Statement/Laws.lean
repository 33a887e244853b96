import PriorityFormula.Proofs.Preliminaries
import PriorityFormula.Proofs.Statement.Identity

/-!
# Laws of regrouping

Two conditions are rearranged into each other by the associativity of the connectives, and two
numeric statements by the laws of sums and differences: a nested sum or difference gives up its
grouping, with its sign flipped behind a minus, and adding a literal below zero is subtracting its
opposite. The laws may be applied at any place, in either direction and any number of times, and
identities do not count.

Every law is invisible in the regrouped statement. The other way round, appending a statement to a
chain term by term takes nothing but laws.
-/

namespace PriorityFormula

/-! ### Conditions -/

namespace Boolean

variable {B : Type}

/-- The law that both connectives are associative. -/
inductive Law : Boolean B → Boolean B → Prop
  /-- `a ∘ (b ∘ c) = (a ∘ b) ∘ c` -/
  | nested (id id' jd jd' : Id) (connective : Connective) (a b c : Boolean B) :
    Law (joined id connective a (joined id' connective b c))
      (joined jd connective (joined jd' connective a b) c)

/-- One condition is the other with the law applied at one place. -/
inductive LawInside : Boolean B → Boolean B → Prop
  | here {s t : Boolean B} : Law s t → LawInside s t
  | joinedLeft {left left' : Boolean B} (id : Id) (connective : Connective) (right : Boolean B) :
    LawInside left left' →
      LawInside (joined id connective left right) (joined id connective left' right)
  | joinedRight {right right' : Boolean B} (id : Id) (connective : Connective)
    (left : Boolean B) : LawInside right right' →
      LawInside (joined id connective left right) (joined id connective left right')
  | condition {condition condition' : Boolean B} (id : Id) (ifTrue otherwise : Boolean B) :
    LawInside condition condition' →
      LawInside (ternary id condition ifTrue otherwise) (ternary id condition' ifTrue otherwise)
  | ifTrue {ifTrue ifTrue' : Boolean B} (id : Id) (condition otherwise : Boolean B) :
    LawInside ifTrue ifTrue' →
      LawInside (ternary id condition ifTrue otherwise) (ternary id condition ifTrue' otherwise)
  | otherwise {otherwise otherwise' : Boolean B} (id : Id) (condition ifTrue : Boolean B) :
    LawInside otherwise otherwise' →
      LawInside (ternary id condition ifTrue otherwise) (ternary id condition ifTrue otherwise')

/-- One condition can be turned into the other by the law, identities aside. -/
def Rearranged (s t : Boolean B) : Prop :=
  Relation.EqvGen LawInside s.withoutIds t.withoutIds

/-- The law is invisible in the regrouped condition. -/
lemma LawInside.withoutIds_regrouped_eq {s t : Boolean B} (h : LawInside s t) :
    s.regrouped.withoutIds = t.regrouped.withoutIds := by
  induction h with
  | here hlaw =>
    cases hlaw with
    | nested id id' jd jd' connective a b c =>
      simp only [regrouped, appendParts_appendParts, withoutIds_appendParts]
  | joinedLeft id connective right _ ih => simp only [regrouped, withoutIds_appendParts, ih]
  | joinedRight id connective left _ ih => simp only [regrouped, withoutIds_appendParts, ih]
  | condition id ifTrue otherwise _ ih => simp only [regrouped, withoutIds, ih]
  | ifTrue id condition otherwise _ ih => simp only [regrouped, withoutIds, ih]
  | otherwise id condition ifTrue _ ih => simp only [regrouped, withoutIds, ih]

/-- Conditions that can be rearranged into each other are regrouped into the same condition. -/
lemma Rearranged.withoutIds_regrouped_eq {s t : Boolean B} (h : s.Rearranged t) :
    s.regrouped.withoutIds = t.regrouped.withoutIds := by
  have heq := eq_of_eqvGen (g := fun s : Boolean B => s.regrouped.withoutIds)
    (fun _ _ hlaw => hlaw.withoutIds_regrouped_eq) h
  simpa only [regrouped_withoutIds, withoutIds_withoutIds] using heq

/-- Conditions that are the same up to identities are rearranged by no law at all. -/
lemma Rearranged.of_withoutIds_eq {s t : Boolean B} (h : s.withoutIds = t.withoutIds) :
    s.Rearranged t := by
  rw [Rearranged, h]
  exact Relation.EqvGen.refl _

lemma Rearranged.symm {s t : Boolean B} (h : s.Rearranged t) : t.Rearranged s :=
  Relation.EqvGen.symm _ _ h

lemma Rearranged.trans {s t u : Boolean B} (hst : s.Rearranged t) (htu : t.Rearranged u) :
    s.Rearranged u :=
  Relation.EqvGen.trans _ _ _ hst htu

/-- Joined conditions can be rearranged into each other if their operands can. -/
lemma Rearranged.joined {left left' right right' : Boolean B} (hleft : left.Rearranged left')
    (hright : right.Rearranged right') (id id' : Id) (connective : Connective) :
    (joined id connective left right).Rearranged (joined id' connective left' right') := by
  have hl := eqvGen_map (p := LawInside) (g := fun s => .joined ⟨0⟩ connective s right.withoutIds)
    (fun _ _ => .joinedLeft ⟨0⟩ connective right.withoutIds) hleft
  have hr := eqvGen_map (p := LawInside) (g := fun s => .joined ⟨0⟩ connective left'.withoutIds s)
    (fun _ _ => .joinedRight ⟨0⟩ connective left'.withoutIds) hright
  exact Relation.EqvGen.trans _ _ _ hl hr

/-- Ternaries can be rearranged into each other if their operands can. -/
lemma Rearranged.ternary {condition condition' ifTrue ifTrue' otherwise otherwise' : Boolean B}
    (hcondition : condition.Rearranged condition') (hifTrue : ifTrue.Rearranged ifTrue')
    (hotherwise : otherwise.Rearranged otherwise') (id id' : Id) :
    (ternary id condition ifTrue otherwise).Rearranged
      (ternary id' condition' ifTrue' otherwise') := by
  have hc := eqvGen_map (p := LawInside)
    (g := fun s => .ternary ⟨0⟩ s ifTrue.withoutIds otherwise.withoutIds)
    (fun _ _ => .condition ⟨0⟩ ifTrue.withoutIds otherwise.withoutIds) hcondition
  have ht := eqvGen_map (p := LawInside)
    (g := fun s => .ternary ⟨0⟩ condition'.withoutIds s otherwise.withoutIds)
    (fun _ _ => .ifTrue ⟨0⟩ condition'.withoutIds otherwise.withoutIds) hifTrue
  have ho := eqvGen_map (p := LawInside)
    (g := fun s => .ternary ⟨0⟩ condition'.withoutIds ifTrue'.withoutIds s)
    (fun _ _ => .otherwise ⟨0⟩ condition'.withoutIds ifTrue'.withoutIds) hotherwise
  exact Relation.EqvGen.trans _ _ _ hc (Relation.EqvGen.trans _ _ _ ht ho)

/-- Appending a condition to a chain part by part takes nothing but the law. -/
lemma rearranged_appendParts (connective : Connective) (chain : Boolean B) (id : Id)
    (s : Boolean B) :
    (joined id connective chain s).Rearranged (appendParts connective chain id s) := by
  induction s generalizing chain id with
  | literal value => exact .of_withoutIds_eq rfl
  | var v => exact .of_withoutIds_eq rfl
  | joined id' own left right ihl ihr =>
    by_cases hown : own = connective
    · subst hown
      have hnested : (joined id own chain (joined id' own left right)).Rearranged
          (joined id' own (joined id own chain left) right) :=
        Relation.EqvGen.rel _ _ (.here (.nested ..))
      have hleft : (joined id' own (joined id own chain left) right).Rearranged
          (joined id' own (appendParts own chain id left) right) :=
        (ihl chain id).joined (.of_withoutIds_eq rfl) id' id' own
      rw [appendParts, if_pos rfl]
      exact hnested.trans (hleft.trans (ihr _ id'))
    · rw [appendParts, if_neg hown]
      exact .of_withoutIds_eq rfl
  | ternary id' condition ifTrue otherwise => exact .of_withoutIds_eq rfl

/-- A condition can be rearranged into the regrouped one. -/
lemma rearranged_regrouped (s : Boolean B) : s.Rearranged s.regrouped := by
  induction s with
  | literal value => exact .of_withoutIds_eq rfl
  | var v => exact .of_withoutIds_eq rfl
  | joined id connective left right ihl ihr =>
    have happend := rearranged_appendParts connective left.regrouped id right.regrouped
    exact (ihl.joined ihr id id connective).trans happend
  | ternary id condition ifTrue otherwise ihc iht iho => exact ihc.ternary iht iho id id

/-- Conditions that can be rearranged into each other are evaluated in the same way. -/
lemma Rearranged.trace_eq {s t : Boolean B} (h : s.Rearranged t) (flag : B → Bool) :
    s.trace flag = t.trace flag := by
  have hregrouped := trace_eq_of_withoutIds_eq h.withoutIds_regrouped_eq flag
  rwa [trace_regrouped, trace_regrouped] at hregrouped

/-- Two conditions can be rearranged into each other exactly if they are regrouped into the same
condition, identities aside. -/
theorem rearranged_iff {s t : Boolean B} :
    s.Rearranged t ↔ s.regrouped.withoutIds = t.regrouped.withoutIds := by
  refine ⟨Rearranged.withoutIds_regrouped_eq, ?_⟩
  intro heq
  have hregrouped : s.regrouped.Rearranged t.regrouped := .of_withoutIds_eq heq
  exact s.rearranged_regrouped.trans (hregrouped.trans t.rearranged_regrouped.symm)

end Boolean

/-! ### Numeric statements -/

namespace Numeric

variable {A B : Type} {f : Format}

/-- The laws of sums and differences. -/
inductive Law : Numeric A B f → Numeric A B f → Prop
  /-- `a + (b + c) = (a + b) + c`, `a + (b - c) = (a + b) - c`, `a - (b + c) = (a - b) - c` and
  `a - (b - c) = (a - b) + c` -/
  | nested (id id' jd jd' : Id) (outer inner : Sign) (a b c : Numeric A B f) :
    Law (additive id outer a (additive id' inner b c))
      (additive jd (outer.behind inner) (additive jd' outer a b) c)
  /-- `a + -v = a - v` and `a - -v = a + v` for a literal `-v` below zero -/
  | opposite (id jd : Id) (sign : Sign) (a : Numeric A B f) {value : FiniteNumber f}
    (hvalue : value.isNegative = true) :
    Law (additive id sign a (literal value)) (additive jd sign.flipped a (literal value.negated))

/-- One statement is the other with a law applied at one place. -/
inductive LawInside : Numeric A B f → Numeric A B f → Prop
  | here {s t : Numeric A B f} : Law s t → LawInside s t
  | additiveLeft {left left' : Numeric A B f} (id : Id) (sign : Sign) (right : Numeric A B f) :
    LawInside left left' →
      LawInside (additive id sign left right) (additive id sign left' right)
  | additiveRight {right right' : Numeric A B f} (id : Id) (sign : Sign) (left : Numeric A B f) :
    LawInside right right' →
      LawInside (additive id sign left right) (additive id sign left right')
  | scaledLeft {left left' : Numeric A B f} (id : Id) (scaling : Scaling)
    (right : Numeric A B f) : LawInside left left' →
      LawInside (scaled id scaling left right) (scaled id scaling left' right)
  | scaledRight {right right' : Numeric A B f} (id : Id) (scaling : Scaling)
    (left : Numeric A B f) : LawInside right right' →
      LawInside (scaled id scaling left right) (scaled id scaling left right')
  | round {operand operand' : Numeric A B f} (id : Id) (mode : Rounding) :
    LawInside operand operand' → LawInside (round id mode operand) (round id mode operand')
  | ifTrue {ifTrue ifTrue' : Numeric A B f} (id : Id) (condition : Boolean B)
    (otherwise : Numeric A B f) : LawInside ifTrue ifTrue' →
      LawInside (ternary id condition ifTrue otherwise) (ternary id condition ifTrue' otherwise)
  | otherwise {otherwise otherwise' : Numeric A B f} (id : Id) (condition : Boolean B)
    (ifTrue : Numeric A B f) : LawInside otherwise otherwise' →
      LawInside (ternary id condition ifTrue otherwise) (ternary id condition ifTrue otherwise')

/-- One statement can be turned into the other by the laws, identities aside. -/
def Rearranged (s t : Numeric A B f) : Prop :=
  Relation.EqvGen LawInside s.withoutIds t.withoutIds

/-- The laws are invisible at the root of the regrouped statement. -/
lemma Law.withoutIds_regrouped_eq {s t : Numeric A B f} (h : Law s t) :
    s.regrouped.withoutIds = t.regrouped.withoutIds := by
  cases h with
  | nested id id' jd jd' outer inner a b c =>
    simp only [regrouped, appendTerms_appendTerms, withoutIds_appendTerms]
  | opposite id jd sign a hvalue =>
    have hnot := ne_true_of_eq_false (FiniteNumber.isNegative_negated_of_isNegative hvalue)
    simp only [regrouped, appendTerms, if_pos hvalue, if_neg hnot, withoutIds]

/-- The laws are invisible in the regrouped statement. -/
lemma LawInside.withoutIds_regrouped_eq {s t : Numeric A B f} (h : LawInside s t) :
    s.regrouped.withoutIds = t.regrouped.withoutIds := by
  induction h with
  | here hlaw => exact hlaw.withoutIds_regrouped_eq
  | additiveLeft id sign right _ ih => simp only [regrouped, withoutIds_appendTerms, ih]
  | additiveRight id sign left _ ih => simp only [regrouped, withoutIds_appendTerms, ih]
  | scaledLeft id scaling right _ ih => simp only [regrouped, withoutIds_appendFactors, ih]
  | scaledRight id scaling left _ ih => simp only [regrouped, withoutIds_appendFactors, ih]
  | round id mode _ ih => simp only [regrouped, withoutIds, ih]
  | ifTrue id condition otherwise _ ih => simp only [regrouped, withoutIds, ih]
  | otherwise id condition ifTrue _ ih => simp only [regrouped, withoutIds, ih]

/-- Statements that can be rearranged into each other are regrouped into the same statement. -/
lemma Rearranged.withoutIds_regrouped_eq {s t : Numeric A B f} (h : s.Rearranged t) :
    s.regrouped.withoutIds = t.regrouped.withoutIds := by
  have heq := eq_of_eqvGen (g := fun s : Numeric A B f => s.regrouped.withoutIds)
    (fun _ _ hlaw => hlaw.withoutIds_regrouped_eq) h
  simpa only [regrouped_withoutIds, withoutIds_withoutIds] using heq

/-- Statements that are the same up to identities are rearranged by no law at all. -/
lemma Rearranged.of_withoutIds_eq {s t : Numeric A B f} (h : s.withoutIds = t.withoutIds) :
    s.Rearranged t := by
  rw [Rearranged, h]
  exact Relation.EqvGen.refl _

lemma Rearranged.symm {s t : Numeric A B f} (h : s.Rearranged t) : t.Rearranged s :=
  Relation.EqvGen.symm _ _ h

lemma Rearranged.trans {s t u : Numeric A B f} (hst : s.Rearranged t) (htu : t.Rearranged u) :
    s.Rearranged u :=
  Relation.EqvGen.trans _ _ _ hst htu

/-- Sums and differences can be rearranged into each other if their operands can. -/
lemma Rearranged.additive {left left' right right' : Numeric A B f}
    (hleft : left.Rearranged left') (hright : right.Rearranged right') (id id' : Id)
    (sign : Sign) : (additive id sign left right).Rearranged (additive id' sign left' right') := by
  have hl := eqvGen_map (p := LawInside) (g := fun s => .additive ⟨0⟩ sign s right.withoutIds)
    (fun _ _ => .additiveLeft ⟨0⟩ sign right.withoutIds) hleft
  have hr := eqvGen_map (p := LawInside) (g := fun s => .additive ⟨0⟩ sign left'.withoutIds s)
    (fun _ _ => .additiveRight ⟨0⟩ sign left'.withoutIds) hright
  exact Relation.EqvGen.trans _ _ _ hl hr

/-- The laws hold wherever sums are exact. -/
lemma LawInside.evaluate_eq {K : Type} [AddCommGroup K] {I : Interpretation A B f K}
    (hI : I.ExactSums) {s t : Numeric A B f} (h : LawInside s t) :
    s.evaluate I = t.evaluate I := by
  induction h with
  | here hlaw =>
    cases hlaw with
    | nested id id' jd jd' outer inner a b c =>
      simp only [evaluate_additive, hI.attach_attach]
    | opposite id jd sign a hvalue =>
      simp only [evaluate_additive, evaluate_literal, hI.attach_flipped_negated]
  | additiveLeft id sign right _ ih => simp only [evaluate_additive, ih]
  | additiveRight id sign left _ ih => simp only [evaluate_additive, ih]
  | scaledLeft id scaling right _ ih => simp only [evaluate_scaled, ih]
  | scaledRight id scaling left _ ih => simp only [evaluate_scaled, ih]
  | round id mode _ ih => simp only [evaluate_round, ih]
  | ifTrue id condition otherwise _ ih => simp only [evaluate_ternary, ih]
  | otherwise id condition ifTrue _ ih => simp only [evaluate_ternary, ih]

/-- Statements that can be rearranged into each other have the same value wherever sums are
exact. -/
lemma Rearranged.evaluate_eq {K : Type} [AddCommGroup K] {I : Interpretation A B f K}
    (hI : I.ExactSums) {s t : Numeric A B f} (h : s.Rearranged t) :
    s.evaluate I = t.evaluate I := by
  have hvalue := eq_of_eqvGen (fun _ _ hlaw => LawInside.evaluate_eq hI hlaw) h
  rwa [evaluate, evaluate, trace_withoutIds, trace_withoutIds] at hvalue

/-- Putting a statement behind a chain term by term takes nothing but laws. -/
lemma rearranged_appendTerms (chain : Numeric A B f) (id : Id) (sign : Sign) (s : Numeric A B f) :
    (additive id sign chain s).Rearranged (appendTerms chain id sign s) := by
  induction s generalizing chain id sign with
  | literal value =>
    rw [appendTerms]
    split
    · next hvalue => exact Relation.EqvGen.rel _ _ (.here (.opposite _ _ sign _ hvalue))
    · exact .of_withoutIds_eq rfl
  | var v => exact .of_withoutIds_eq rfl
  | additive id' inner left right ihl ihr =>
    have hnested : (additive id sign chain (additive id' inner left right)).Rearranged
        (additive id' (sign.behind inner) (additive id sign chain left) right) :=
      Relation.EqvGen.rel _ _ (.here (.nested ..))
    have hleft : (additive id' (sign.behind inner) (additive id sign chain left) right).Rearranged
        (additive id' (sign.behind inner) (appendTerms chain id sign left) right) :=
      (ihl chain id sign).additive (.of_withoutIds_eq rfl) id' id' (sign.behind inner)
    exact hnested.trans (hleft.trans (ihr _ id' (sign.behind inner)))
  | scaled id' scaling left right => exact .of_withoutIds_eq rfl
  | round id' mode operand => exact .of_withoutIds_eq rfl
  | ternary id' condition ifTrue otherwise => exact .of_withoutIds_eq rfl

end Numeric

end PriorityFormula
