import PriorityFormula.Proofs.Statement.Laws

/-!
# Statements that are written alike

The text of a statement depends on more than the texts of its operands, since it also depends on
what an operand is whether it stands in parentheses, and a term of a chain is not written as it is
by itself. Two statements are written alike if they agree in all of this, so that one may take the
place of the other anywhere.

The laws of regrouping relate statements that are written alike. Hence they do not show in the text.
-/

namespace PriorityFormula

/-! ### Conditions -/

namespace Boolean

variable {B : Type}

/-- Two conditions that give the same text wherever they stand. -/
structure Alike (s t : Boolean B) : Prop where
  text_eq : s.text = t.text
  arity_eq : s.arity = t.arity
  joinedBy_eq : ∀ connective, s.joinedBy connective = t.joinedBy connective

lemma Alike.refl (s : Boolean B) : s.Alike s :=
  ⟨rfl, rfl, fun _ => rfl⟩

lemma Alike.isCompound_eq {s t : Boolean B} (h : s.Alike t) : s.isCompound = t.isCompound := by
  rw [isCompound, isCompound, h.arity_eq]

lemma Alike.joined {left left' right right' : Boolean B} (hleft : left.Alike left')
    (hright : right.Alike right') (id id' : Id) (connective : Connective) :
    (joined id connective left right).Alike (joined id' connective left' right') := by
  refine ⟨?_, rfl, fun _ => rfl⟩
  rw [text, text, hleft.text_eq, hleft.arity_eq, hleft.joinedBy_eq, hright.text_eq,
    hright.arity_eq, hright.joinedBy_eq]

lemma Alike.ternary {condition condition' ifTrue ifTrue' otherwise otherwise' : Boolean B}
    (hcondition : condition.Alike condition') (hifTrue : ifTrue.Alike ifTrue')
    (hotherwise : otherwise.Alike otherwise') (id id' : Id) :
    (ternary id condition ifTrue otherwise).Alike
      (ternary id' condition' ifTrue' otherwise') := by
  refine ⟨?_, rfl, fun _ => rfl⟩
  rw [text, text, hcondition.text_eq, hcondition.isCompound_eq, hifTrue.text_eq,
    hifTrue.isCompound_eq, hotherwise.text_eq]

/-- Identities are not written. -/
lemma alike_withoutIds (s : Boolean B) : s.withoutIds.Alike s := by
  induction s with
  | literal value => exact .refl _
  | var v => exact .refl _
  | joined id connective left right ihl ihr => exact ihl.joined ihr ⟨0⟩ id connective
  | ternary id condition ifTrue otherwise ihc iht iho => exact ihc.ternary iht iho ⟨0⟩ id

/-- The law does not show, since operands joined by the connective of their parent are never put in
parentheses. -/
lemma Law.alike {s t : Boolean B} (h : Law s t) : s.Alike t := by
  cases h with
  | nested id id' jd jd' connective a b c =>
    refine ⟨?_, rfl, fun _ => rfl⟩
    simp only [text, joinedBy, beq_self_eq_true, Bool.not_true, Bool.and_false, wrapIf,
      Bool.false_eq_true, if_false, List.append_assoc]

lemma LawInside.alike {s t : Boolean B} (h : LawInside s t) : s.Alike t := by
  induction h with
  | here hlaw => exact hlaw.alike
  | joinedLeft id connective right _ ih => exact ih.joined (.refl right) id id connective
  | joinedRight id connective left _ ih => exact (Alike.refl left).joined ih id id connective
  | condition id ifTrue otherwise _ ih => exact ih.ternary (.refl ifTrue) (.refl otherwise) id id
  | ifTrue id condition otherwise _ ih =>
    exact (Alike.refl condition).ternary ih (.refl otherwise) id id
  | otherwise id condition ifTrue _ ih =>
    exact (Alike.refl condition).ternary (.refl ifTrue) ih id id

/-- Conditions that can be rearranged into each other have the same text. -/
theorem Rearranged.text_eq {s t : Boolean B} (h : s.Rearranged t) : s.text = t.text := by
  have heq := eq_of_eqvGen (g := text) (fun _ _ hlaw => hlaw.alike.text_eq) h
  rwa [s.alike_withoutIds.text_eq, t.alike_withoutIds.text_eq] at heq

end Boolean

/-! ### Numeric statements -/

namespace Numeric

variable {A B : Type} {f : Format}

/-- Two numeric statements that give the same text wherever they stand, by themselves or as a
term. -/
structure Alike (s t : Numeric A B f) : Prop where
  write_eq : ∀ behind, s.write behind = t.write behind
  arity_eq : s.arity = t.arity
  isTernary_eq : s.isTernary = t.isTernary
  scaledBy_eq : ∀ scaling, s.scaledBy scaling = t.scaledBy scaling

lemma Alike.refl (s : Numeric A B f) : s.Alike s :=
  ⟨fun _ => rfl, rfl, rfl, fun _ => rfl⟩

lemma Alike.isCompound_eq {s t : Numeric A B f} (h : s.Alike t) :
    s.isCompound = t.isCompound := by
  rw [isCompound, isCompound, h.arity_eq]

lemma Alike.additive {left left' right right' : Numeric A B f} (hleft : left.Alike left')
    (hright : right.Alike right') (id id' : Id) (sign : Sign) :
    (additive id sign left right).Alike (additive id' sign left' right') := by
  refine ⟨?_, rfl, rfl, fun _ => rfl⟩
  intro behind
  cases behind with
  | none => rw [write, write, hleft.write_eq, hleft.isTernary_eq, hright.write_eq]
  | some outer => rw [write, write, hleft.write_eq, hright.write_eq]

lemma Alike.scaled {left left' right right' : Numeric A B f} (hleft : left.Alike left')
    (hright : right.Alike right') (id id' : Id) (scaling : Scaling) :
    (scaled id scaling left right).Alike (scaled id' scaling left' right') := by
  refine ⟨?_, rfl, rfl, fun _ => rfl⟩
  intro behind
  rw [write, write, hleft.write_eq, hleft.arity_eq, hleft.scaledBy_eq, hright.write_eq,
    hright.arity_eq, hright.scaledBy_eq]

lemma Alike.round {operand operand' : Numeric A B f} (h : operand.Alike operand') (id id' : Id)
    (mode : Rounding) : (round id mode operand).Alike (round id' mode operand') := by
  refine ⟨?_, rfl, rfl, fun _ => rfl⟩
  intro behind
  rw [write, write, h.write_eq]

lemma Alike.ternary {condition condition' : Boolean B}
    {ifTrue ifTrue' otherwise otherwise' : Numeric A B f}
    (hcondition : condition.Alike condition') (hifTrue : ifTrue.Alike ifTrue')
    (hotherwise : otherwise.Alike otherwise') (id id' : Id) :
    (ternary id condition ifTrue otherwise).Alike
      (ternary id' condition' ifTrue' otherwise') := by
  refine ⟨?_, rfl, rfl, fun _ => rfl⟩
  intro behind
  rw [write, write, hcondition.text_eq, hcondition.isCompound_eq, hifTrue.write_eq,
    hifTrue.isCompound_eq, hotherwise.write_eq]

/-- Identities are not written. -/
lemma alike_withoutIds (s : Numeric A B f) : s.withoutIds.Alike s := by
  induction s with
  | literal value => exact .refl _
  | var v => exact .refl _
  | additive id sign left right ihl ihr => exact ihl.additive ihr ⟨0⟩ id sign
  | scaled id scaling left right ihl ihr => exact ihl.scaled ihr ⟨0⟩ id scaling
  | round id mode operand ih => exact ih.round ⟨0⟩ id mode
  | ternary id condition ifTrue otherwise iht iho =>
    exact Alike.ternary condition.alike_withoutIds iht iho ⟨0⟩ id

/-- The laws do not show, since chains are written flat and a literal below zero is written as its
opposite where it is a term. -/
lemma Law.alike {s t : Numeric A B f} (h : Law s t) : s.Alike t := by
  cases h with
  | nested id id' jd jd' outer inner a b c =>
    refine ⟨?_, rfl, rfl, fun _ => rfl⟩
    intro behind
    cases behind with
    | none =>
      simp only [write, isTernary, wrapIf, Bool.false_eq_true, if_false, List.append_assoc]
    | some sign => simp only [write, Sign.behind_behind, List.append_assoc]
  | opposite id jd sign a hvalue =>
    have hnot := ne_true_of_eq_false (FiniteNumber.isNegative_negated_of_isNegative hvalue)
    refine ⟨?_, rfl, rfl, fun _ => rfl⟩
    intro behind
    cases behind with
    | none => simp only [write, if_pos hvalue, if_neg hnot]
    | some outer => simp only [write, if_pos hvalue, if_neg hnot, Sign.behind_flipped]

lemma LawInside.alike {s t : Numeric A B f} (h : LawInside s t) : s.Alike t := by
  induction h with
  | here hlaw => exact hlaw.alike
  | additiveLeft id sign right _ ih => exact ih.additive (.refl right) id id sign
  | additiveRight id sign left _ ih => exact (Alike.refl left).additive ih id id sign
  | scaledLeft id scaling right _ ih => exact ih.scaled (.refl right) id id scaling
  | scaledRight id scaling left _ ih => exact (Alike.refl left).scaled ih id id scaling
  | round id mode _ ih => exact ih.round id id mode
  | ifTrue id condition otherwise _ ih =>
    exact Alike.ternary (.refl condition) ih (.refl otherwise) id id
  | otherwise id condition ifTrue _ ih =>
    exact Alike.ternary (.refl condition) (.refl ifTrue) ih id id

/-- Statements that can be rearranged into each other have the same text. -/
theorem Rearranged.text_eq {s t : Numeric A B f} (h : s.Rearranged t) : s.text = t.text := by
  have heq := eq_of_eqvGen (g := text) (fun _ _ hlaw => hlaw.alike.write_eq none) h
  have hs := s.alike_withoutIds.write_eq none
  have ht := t.alike_withoutIds.write_eq none
  exact hs.symm.trans (heq.trans ht)

end Numeric

end PriorityFormula
