import PriorityFormula.Proofs.Normalize.Numeric
import PriorityFormula.Proofs.Statement.Reread

/-!
# Reading a formula back evaluates its normal form

Rounded sums depend on how they are grouped. The text of a statement shows the grouping of the
regrouped statement, and that is the grouping of the normal form. So what is computed from the text,
rounding after each operation, is what the normal form gives, also where the statement itself gives
another number. The only thing that the text loses is the sign of a literal zero, and normalizing
brings no such sign into a statement.
-/

namespace PriorityFormula

open Reader (Value evaluateText)

namespace Numeric

variable {A B : Type} {f : Format}

/-- No literal in the statement is a zero with a minus sign. -/
def ZerosUnsigned : Numeric A B f → Prop
  | literal value => value.isZero = true → value.negative = false
  | var _ => True
  | additive _ _ left right | scaled _ _ left right => left.ZerosUnsigned ∧ right.ZerosUnsigned
  | round _ _ operand => operand.ZerosUnsigned
  | ternary _ _ ifTrue otherwise => ifTrue.ZerosUnsigned ∧ otherwise.ZerosUnsigned

/-- There is nothing to unsign in a statement without signed zeros. -/
lemma ZerosUnsigned.unsignedZeros_eq {s : Numeric A B f} (h : s.ZerosUnsigned) :
    s.unsignedZeros = s := by
  induction s with
  | literal value =>
    cases hzero : value.isZero with
    | false => rw [unsignedZeros, FiniteNumber.unsignedZero_eq_self hzero]
    | true =>
      have hsign : value.isNegative = value.negative := by
        rw [FiniteNumber.isNegative, h hzero, Bool.false_and]
      rw [unsignedZeros, FiniteNumber.unsignedZero, hsign]
  | var v => rfl
  | additive id sign left right ihl ihr => rw [unsignedZeros, ihl h.1, ihr h.2]
  | scaled id scaling left right ihl ihr => rw [unsignedZeros, ihl h.1, ihr h.2]
  | round id mode operand ih => rw [unsignedZeros, ih h]
  | ternary id condition ifTrue otherwise iht iho => rw [unsignedZeros, iht h.1, iho h.2]

/-- Only literals other than zero are turned into their opposites, so normalizing signs no zero. -/
lemma Normalizes.zerosUnsigned {s : Numeric A B f} {n : Normalized (Numeric A B f)}
    {index last : Nat} (h : Normalizes index s n last) (hs : s.ZerosUnsigned) :
    n.statement.ZerosUnsigned := by
  induction h with
  | literal index value => exact hs
  | var index v => exact hs
  | kept id sign hleft hright _ ihl ihr => exact ⟨ihl hs.1, ihr hs.2⟩
  | @merged _ _ last id sign _ _ first second hleft hright _ ihl ihr =>
    have hterms : ∀ t ∈ second.statement.terms sign, t.2.ZerosUnsigned := by
      refine forall_terms (fun _ _ _ _ hboth => hboth) ?_ (ihr hs.2) sign
      intro value hnegative _ hzero
      -- A literal below zero is no zero, and neither is its opposite.
      rw [FiniteNumber.isNegative, Bool.and_eq_true, bne_iff_ne] at hnegative
      rw [FiniteNumber.isZero_negated, FiniteNumber.isZero, beq_iff_eq] at hzero
      exact absurd hzero hnegative.2
    exact chainFrom_induction (Q := ZerosUnsigned) (fun _ _ _ _ hchain hterm => ⟨hchain, hterm⟩)
      (ihl hs.1) hterms last

end Numeric

/-- In the arithmetic of a format the text of a statement has exactly the value of the statement's
normal form, if no literal zero carries a sign and no variable is named like a truth value. -/
theorem Numeric.evaluateText_text_of_tryNormalize_eq_ok {A B : Type} {f : Format}
    {s : Numeric A B f} {n : Normalized (Numeric A B f)} {σ σ' : Session}
    (h : s.tryNormalize.run.run σ = (.ok n, σ')) (hzeros : s.ZerosUnsigned)
    (hnames : ∀ v ∈ s.allVariables, v.name.IsNoTruthValue)
    (number : A → Number f) (flag : B → Bool) (lookup : String → Option (Value (Number f)))
    (hvariables : ∀ v ∈ s.allVariables,
      lookup v.name.text = some (v.value (.ofFormat number flag))) :
    evaluateText (.ofFormat f lookup) s.text =
      .ok (.number (n.statement.evaluate (.ofFormat number flag))) := by
  -- Read back, a literal stands for itself without the sign of a zero.
  let I : Interpretation A B f (Number f) :=
    { Interpretation.ofFormat number flag with literal := fun value => .finite value.unsignedZero }
  have hlookup : ∀ v ∈ s.allVariables, lookup v.name.text = some (v.value I) := by
    intro v hv
    rw [hvariables v hv]
    cases v <;> rfl
  have hread : evaluateText (.ofFormat f lookup) s.text =
      .ok (.number (s.regrouped.evaluate I)) :=
    (Node.numeric s).evaluateText_text_regrouped (I := I) rfl
      (FiniteNumber.evaluateText_plain_ofFormat lookup) hnames hlookup
  have hnormal : s.regrouped.evaluate I = n.statement.evaluate I := by
    have hids := (withoutIds_of_tryNormalize_eq_ok h).2
    rw [evaluate, ← trace_eq_of_withoutIds_eq hids, evaluate]
  have hunsigned : n.statement.evaluate I = n.statement.evaluate (.ofFormat number flag) := by
    have hn := (normalizes_of_tryNormalize_eq_ok h).zerosUnsigned hzeros
    calc n.statement.evaluate I
        = n.statement.unsignedZeros.evaluate (.ofFormat number flag) :=
          (n.statement.evaluate_unsignedZeros (.ofFormat number flag)).symm
      _ = n.statement.evaluate (.ofFormat number flag) := by rw [hn.unsignedZeros_eq]
  rw [hread, hnormal, hunsigned]

/-- Next to a large number, two ones are lost if they are added one after the other, as the text
says, but not if they are added up before, as the statement says. -/
theorem Quantity.evaluateText_text_of_tryNormalize_rounded :
    let large : Quantity .double := .literal ⟨false, 0x4340000000000000, by decide⟩
    let one : FiniteNumber .double := ⟨false, 0x3FF0000000000000, by decide⟩
    let s : Quantity .double := .additive ⟨1⟩ .minus large
      (.additive ⟨0⟩ .minus (.literal one.negated) (Quantity.urgency .double))
    let context : Context := .base 1 1
    s.text = "9007199254740992 + 1 + urgency".toList ∧
      ∃ n σ', s.tryNormalize.run.run ⟨2, []⟩ = (.ok n, σ') ∧
        evaluateText (.ofFormat .double context.lookup) s.text =
          .ok (.number (n.statement.evaluate (context.interpretation .double))) ∧
        n.statement.evaluate (context.interpretation .double) ≠
          s.evaluate (context.interpretation .double) := by
  intro large one s context
  have hlarge : large.ZerosUnsigned := fun hzero => absurd hzero (by decide +kernel)
  have hone : one.negated.isZero ≠ true := by decide +kernel
  have hzeros : s.ZerosUnsigned := ⟨hlarge, fun hzero => absurd hzero hone, trivial⟩
  have hread := Numeric.evaluateText_text_of_tryNormalize_eq_ok (s := s) (σ := ⟨2, []⟩) rfl hzeros
    (by decide +kernel) (context.number .double) context.flag context.lookup (by decide +kernel)
  exact ⟨by decide +kernel, _, _, rfl, hread, by decide +kernel⟩

end PriorityFormula
