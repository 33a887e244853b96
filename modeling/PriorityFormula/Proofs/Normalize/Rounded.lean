import Mathlib.Data.List.Forall2
import PriorityFormula.Context
import PriorityFormula.Proofs.Chain.Spine
import PriorityFormula.Proofs.Normalize.Derivation
import PriorityFormula.Proofs.Statement.Reread

/-!
# Normalizing where sums are rounded

Rounded sums depend on their grouping, so in general normalizing changes them. It regroups only what
is nested to the right, however. If no sum or difference has another one on its right, then
normalizing leaves each operation at its place on the left spine. All it does is to move the minus
signs of literals below zero to the operators in front of them, and this is exact in every
arithmetic in which adding an opposite is subtracting and subtracting an opposite is adding. Neither
associativity nor commutativity is needed.

Minus signs are only taken from literals below zero. The leftmost operand has no operator in front
of it and stays as it is, and a zero stays as it is even if it carries a sign.
-/

namespace PriorityFormula

/-- A number below zero is not zero. -/
lemma FiniteNumber.isZero_of_isNegative {f : Format} {x : FiniteNumber f}
    (h : x.isNegative = true) : x.isZero = false := by
  rw [isNegative, Bool.and_eq_true, bne_iff_ne] at h
  exact beq_eq_false_iff_ne.mpr h.2

/-- Adding an opposite is subtracting, subtracting an opposite is adding, and opposite literals
stand for opposite elements. -/
structure Interpretation.SubtractsOpposites {A B K : Type} {f : Format} (neg : K → K)
    (I : Interpretation A B f K) : Prop where
  add_neg : ∀ x y, I.arithmetic.add x (neg y) = I.arithmetic.subtract x y
  subtract_neg : ∀ x y, I.arithmetic.subtract x (neg y) = I.arithmetic.add x y
  literal_negated : ∀ value, I.literal value.negated = neg (I.literal value)

/-- The arithmetic of a format subtracts opposites, although it rounds. -/
lemma Interpretation.subtractsOpposites_ofFormat {A B : Type} {f : Format} (number : A → Number f)
    (flag : B → Bool) :
    (Interpretation.ofFormat number flag).SubtractsOpposites Number.negated where
  add_neg := Number.add_negated
  subtract_neg := Number.subtract_negated
  literal_negated _ := rfl

/-- Where opposites are subtracted, a minus sign may be moved from a literal to the operator. -/
lemma Interpretation.SubtractsOpposites.attach_flipped_negated {A B K : Type} {f : Format}
    {neg : K → K} {I : Interpretation A B f K} (hI : I.SubtractsOpposites neg) (sign : Sign) (x : K)
    (value : FiniteNumber f) :
    I.arithmetic.attach sign.flipped x (I.literal value.negated) =
      I.arithmetic.attach sign x (I.literal value) := by
  rw [hI.literal_negated]
  cases sign with
  | plus => exact hI.subtract_neg x _
  | minus => exact hI.add_neg x _

namespace Numeric

variable {A B K : Type} {f : Format}

/-- No sum or difference in the statement has a sum or a difference on its right. -/
def SumsLeanLeft : Numeric A B f → Prop
  | literal _ | var _ => True
  | additive _ _ left right =>
    left.SumsLeanLeft ∧ right.SumsLeanLeft ∧ right.isAdditive = false
  | scaled _ _ left right => left.SumsLeanLeft ∧ right.SumsLeanLeft
  | round _ _ operand => operand.SumsLeanLeft
  | ternary _ _ ifTrue otherwise => ifTrue.SumsLeanLeft ∧ otherwise.SumsLeanLeft

/-! ### Links before and after -/

/-- What normalizing makes of a link whose right operand is neither a sum nor a difference. -/
inductive Hoists : Link Sign (Numeric A B f) → Link Sign (Numeric A B f) → Prop
  /-- Nothing is done if the right operand need not be merged. -/
  | kept (link : Link Sign (Numeric A B f)) : Hoists link link
  /-- The minus sign of a literal below zero is moved to the operator. -/
  | hoisted (id id' : Id) (sign : Sign) {value : FiniteNumber f}
    (hvalue : value.isNegative = true) :
    Hoists ⟨id, sign, literal value⟩ ⟨id', sign.flipped, literal value.negated⟩

/-- A link to a literal zero is the same before and after. -/
lemma Hoists.eq_zero_iff {link link' : Link Sign (Numeric A B f)} (h : Hoists link link')
    {value : FiniteNumber f} (hzero : value.isZero = true) (id : Id) (sign : Sign) :
    link' = ⟨id, sign, literal value⟩ ↔ link = ⟨id, sign, literal value⟩ := by
  cases h with
  | kept => exact Iff.rfl
  | hoisted jd jd' own hvalue =>
    have hnonzero := FiniteNumber.isZero_of_isNegative hvalue
    constructor
    · rintro ⟨⟩
      rw [FiniteNumber.isZero_negated, hnonzero] at hzero
      cases hzero
    · rintro ⟨⟩
      rw [hnonzero] at hzero
      cases hzero

/-- Links to literal zeros are at the same places before and after. -/
lemma getElem?_eq_zero_iff {links links' : List (Link Sign (Numeric A B f))}
    (h : List.Forall₂ Hoists links links') {value : FiniteNumber f}
    (hzero : value.isZero = true) (id : Id) (sign : Sign) (i : Nat) :
    links'[i]? = some ⟨id, sign, literal value⟩ ↔ links[i]? = some ⟨id, sign, literal value⟩ := by
  induction h generalizing i with
  | nil => exact Iff.rfl
  | cons hlink _ ih =>
    cases i with
    | zero =>
      rw [List.getElem?_cons_zero, List.getElem?_cons_zero, Option.some_inj, Option.some_inj]
      exact hlink.eq_zero_iff hzero id sign
    | succ i =>
      rw [List.getElem?_cons_succ, List.getElem?_cons_succ]
      exact ih i

/-! ### Values along the spine -/

/-- The value of a statement comes from attaching the right operands of its links to the leftmost
operand, whatever the arithmetic is. -/
lemma evaluate_eq_foldl_spine (s : Numeric A B f) (I : Interpretation A B f K) :
    s.evaluate I = s.spine.foldl
      (fun x link => I.arithmetic.attach link.operator x (link.right.evaluate I))
      (s.leftmost.evaluate I) := by
  induction s with
  | literal value => rfl
  | var v => rfl
  | additive id sign left right ihl ihr =>
    rw [evaluate_additive, ihl, spine, List.foldl_append, leftmost]
    rfl
  | scaled id scaling left right => rfl
  | round id mode operand => rfl
  | ternary id condition ifTrue otherwise => rfl

/-- Where opposites are subtracted, links attach the same values before and after. -/
lemma foldl_attach_eq {neg : K → K} {I : Interpretation A B f K} (hI : I.SubtractsOpposites neg)
    {links links' : List (Link Sign (Numeric A B f))} (h : List.Forall₂ Hoists links links')
    (x : K) :
    links'.foldl (fun x link => I.arithmetic.attach link.operator x (link.right.evaluate I)) x =
      links.foldl (fun x link => I.arithmetic.attach link.operator x (link.right.evaluate I)) x := by
  induction h generalizing x with
  | nil => rfl
  | cons hlink _ ih =>
    rw [List.foldl_cons, List.foldl_cons, ih]
    cases hlink with
    | kept => rfl
    | hoisted id id' sign hvalue =>
      rw [evaluate_literal, evaluate_literal, hI.attach_flipped_negated]

/-! ### Normalizing statements whose sums lean left -/

/-- An operand that is neither a sum nor a difference is its own normal form, if it has one. -/
lemma Normalizes.statement_eq_of_not_isAdditive {s : Numeric A B f}
    {n : Normalized (Numeric A B f)} {index last : Nat} (h : Normalizes index s n last)
    (hadditive : s.isAdditive = false) : n.statement = s := by
  cases h with
  | literal index value => rfl
  | var index v => rfl
  | kept => cases hadditive
  | merged => cases hadditive

/-- If nothing is nested to the right, then normalizing keeps the leftmost operand and treats each
link on its own. -/
lemma Normalizes.hoists_spine {s : Numeric A B f} {n : Normalized (Numeric A B f)}
    {index last : Nat} (h : Normalizes index s n last) (hs : s.SumsLeanLeft) :
    n.statement.leftmost = s.leftmost ∧ List.Forall₂ Hoists s.spine n.statement.spine := by
  induction h with
  | literal index value => exact ⟨rfl, .nil⟩
  | var index v => exact ⟨rfl, .nil⟩
  | kept id sign hleft hright hmergeable ihl ihr =>
    obtain ⟨hsLeft, -, hadditive⟩ := hs
    obtain ⟨hleftmost, hspine⟩ := ihl hsLeft
    refine ⟨hleftmost, ?_⟩
    rw [hright.statement_eq_of_not_isAdditive hadditive]
    exact List.rel_append hspine (.cons (.kept _) .nil)
  | @merged _ _ last id sign left right first second hleft hright hmergeable ihl ihr =>
    obtain ⟨hsLeft, -, hadditive⟩ := hs
    obtain ⟨hleftmost, hspine⟩ := ihl hsLeft
    have hsecond := hright.statement_eq_of_not_isAdditive hadditive
    rw [hsecond] at hmergeable
    -- What has to be merged although it is no sum or difference is a literal below zero.
    have hnegative : right.isNegativeLiteral = true := by
      rwa [isMergeable, hadditive, Bool.false_or] at hmergeable
    cases right with
    | literal value =>
      have hvalue : value.isNegative = true := hnegative
      rw [hsecond, terms, if_pos hvalue]
      exact ⟨hleftmost, List.rel_append hspine (.cons (.hoisted _ _ sign hvalue) .nil)⟩
    | _ => cases hnegative

/-- If no sum or difference has another one on its right, then a normalized statement has exactly
the value of the original one in every arithmetic in which opposites are subtracted, however the
arithmetic rounds. The leftmost operand is kept, and so is each operation with a literal zero on its
right, whatever sign the zero carries. -/
theorem rounded_of_tryNormalize_eq_ok {s : Numeric A B f} {n : Normalized (Numeric A B f)}
    {σ σ' : Session} (h : s.tryNormalize.run.run σ = (.ok n, σ')) (hs : s.SumsLeanLeft) :
    (∀ (K : Type) (neg : K → K) (I : Interpretation A B f K), I.SubtractsOpposites neg →
      n.statement.evaluate I = s.evaluate I) ∧
      n.statement.leftmost = s.leftmost ∧
        ∀ value : FiniteNumber f, value.isZero = true → ∀ (id : Id) (sign : Sign) (i : Nat),
          n.statement.spine[i]? = some ⟨id, sign, literal value⟩ ↔
            s.spine[i]? = some ⟨id, sign, literal value⟩ := by
  obtain ⟨hleftmost, hspine⟩ := (normalizes_of_tryNormalize_eq_ok h).hoists_spine hs
  refine ⟨?_, hleftmost, ?_⟩
  · intro K neg I hI
    rw [n.statement.evaluate_eq_foldl_spine, hleftmost, foldl_attach_eq hI hspine,
      ← evaluate_eq_foldl_spine]
  · intro value hzero
    exact getElem?_eq_zero_iff hspine hzero

end Numeric

/-- A literal below zero that is added at the end of a chain loses its minus sign; the one in front
and a negative zero in between keep theirs. The rounded value is the same in every context. -/
theorem Quantity.rounded_of_tryNormalize_zeros :
    let two : FiniteNumber .double := ⟨false, 0x4000000000000000, by decide⟩
    let zero : FiniteNumber .double := ⟨true, 0, by decide⟩
    let s : Quantity .double := .additive ⟨2⟩ .plus
      (.additive ⟨1⟩ .minus
        (.additive ⟨0⟩ .plus (.literal two.negated) (Quantity.urgency .double))
        (.literal zero))
      (.literal two.negated)
    ∃ n σ', s.tryNormalize.run.run ⟨3, []⟩ = (.ok n, σ') ∧ n.wasNormalized = true ∧
      n.statement.text = "-2 + urgency - 0 - 2".toList ∧
      n.statement.leftmost = .literal two.negated ∧
      n.statement.spine[1]? = some ⟨⟨1⟩, .minus, .literal zero⟩ ∧
        ∀ context : Context, n.statement.evaluate (context.interpretation .double) =
          s.evaluate (context.interpretation .double) := by
  intro two zero s
  have hs : s.SumsLeanLeft := ⟨⟨⟨trivial, trivial, rfl⟩, trivial, rfl⟩, trivial, rfl⟩
  obtain ⟨hvalue, hleftmost, hzeros⟩ :=
    Numeric.rounded_of_tryNormalize_eq_ok (s := s) (σ := ⟨3, []⟩) rfl hs
  refine ⟨_, _, rfl, rfl, by decide +kernel, hleftmost, ?_, ?_⟩
  · exact (hzeros zero (by decide) ⟨1⟩ .minus 1).mpr rfl
  · intro context
    exact hvalue _ _ _ (Interpretation.subtractsOpposites_ofFormat (context.number .double)
      context.flag)

end PriorityFormula
