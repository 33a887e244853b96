import PriorityFormula.Context
import PriorityFormula.Proofs.Number.Exact
import PriorityFormula.Proofs.Statement.Printed

/-!
# Reading a printed statement back

The text of a statement is an expression, and it has the value of the regrouped statement: to the
last bit in the arithmetic of a format, where only the sign of a literal zero is lost. In exact
arithmetic regrouping does not change the value, unless a quotient stands on the right of a
quotient.
-/

namespace PriorityFormula

open Reader (Scope Value evaluateText read)

/-! ### The value of a printed statement -/

section Evaluate

variable {A B K : Type} {f : Format}

/-- The text of a literal has the value of its numeral. -/
lemma FiniteNumber.evaluateText_plain (scope : Scope K) (value : FiniteNumber f) :
    evaluateText scope value.plain =
      .ok (.number (scope.numeral value.isNegative value.numeral)) := by
  rw [Reader.evaluateText_eq scope value.spellsTerm_plain.spells.exists_read_eq]
  rfl

/-- The text of a statement has the value of the regrouped statement. -/
lemma Node.evaluateText_text_regrouped {scope : Scope K} {I : Interpretation A B f K}
    (harithmetic : scope.arithmetic = I.arithmetic)
    (hliterals : ∀ value : FiniteNumber f,
      evaluateText scope value.plain = .ok (.number (I.literal value)))
    (s : Node A B f) (hnames : ∀ v ∈ s.allVariables, v.name.IsNoTruthValue)
    (hvariables : ∀ v ∈ s.allVariables, scope.lookup v.name.text = some (v.value I)) :
    evaluateText scope s.text = .ok (s.regrouped.evaluate I) := by
  have hnumerals : ∀ value : FiniteNumber f,
      scope.numeral value.isNegative value.numeral = I.literal value := by
    intro value
    have hvalue := value.evaluateText_plain scope
    rw [hliterals value] at hvalue
    injection hvalue with hnumber
    injection hnumber with heq
    exact heq.symm
  rw [Reader.evaluateText_eq scope (s.exists_read_text_eq hnames)]
  apply Node.evaluate_tree harithmetic hnumerals
  rw [Node.allVariables_regrouped]
  exact hvariables

end Evaluate

/-! ### In the arithmetic of a format -/

section Format

variable {A B K : Type} {f : Format}

/-- The meaning of statements in the arithmetic of a format, with what the accessors give. -/
def Interpretation.ofFormat (number : A → Number f) (flag : B → Bool) :
    Interpretation A B f (Number f) where
  arithmetic := Number.arithmetic f
  literal := .finite
  number := number
  flag := flag

/-- Unsigning the zeros of a statement is as good as unsigning them when they are evaluated. -/
lemma Numeric.evaluate_unsignedZeros (I : Interpretation A B f K) (s : Numeric A B f) :
    s.unsignedZeros.evaluate I =
      s.evaluate { I with literal := fun value => I.literal value.unsignedZero } := by
  induction s with
  | literal value => rfl
  | var v => rfl
  | additive id sign left right ihl ihr =>
    rw [unsignedZeros, evaluate_additive, evaluate_additive, ihl, ihr]
  | scaled id scaling left right ihl ihr =>
    rw [unsignedZeros, evaluate_scaled, evaluate_scaled, ihl, ihr]
  | round id mode operand ih => rw [unsignedZeros, evaluate_round, evaluate_round, ih]
  | ternary id condition ifTrue otherwise iht iho =>
    rw [unsignedZeros, evaluate_ternary, evaluate_ternary, iht, iho]

/-- In the arithmetic of a format the text of a literal has its value, except for the sign of a
zero. -/
lemma FiniteNumber.evaluateText_plain_ofFormat
    (lookup : String → Option (Value (Number f))) (value : FiniteNumber f) :
    evaluateText (.ofFormat f lookup) value.plain =
      .ok (.number (.finite value.unsignedZero)) := by
  rw [value.evaluateText_plain]
  exact congrArg (fun x => Except.ok (Value.number x)) value.ofDecimal_numeral

/-- The text of a statement is an expression. In the arithmetic of a format it has exactly the value
of the regrouped statement with its literal zeros unsigned. -/
theorem Node.evaluateText_text_ofFormat (number : A → Number f) (flag : B → Bool)
    (lookup : String → Option (Value (Number f))) (s : Node A B f)
    (hnames : ∀ v ∈ s.allVariables, v.name.IsNoTruthValue)
    (hvariables : ∀ v ∈ s.allVariables,
      lookup v.name.text = some (v.value (.ofFormat number flag))) :
    (∃ e, read s.text = some e) ∧
      evaluateText (.ofFormat f lookup) s.text =
        .ok (s.regrouped.unsignedZeros.evaluate (.ofFormat number flag)) := by
  obtain ⟨e, hread, _⟩ := s.exists_read_text_eq hnames
  refine ⟨⟨e, hread⟩, ?_⟩
  -- Read back, a literal stands for itself without the sign of a zero.
  let I : Interpretation A B f (Number f) :=
    { Interpretation.ofFormat number flag with literal := fun value => .finite value.unsignedZero }
  have hliterals : ∀ value : FiniteNumber f,
      evaluateText (.ofFormat f lookup) value.plain = .ok (.number (I.literal value)) := by
    intro value
    rw [value.evaluateText_plain]
    exact congrArg (fun x => Except.ok (Value.number x)) value.ofDecimal_numeral
  have hlookup : ∀ v ∈ s.allVariables, lookup v.name.text = some (v.value I) := by
    intro v hv
    rw [hvariables v hv]
    cases v <;> rfl
  rw [s.evaluateText_text_regrouped (I := I) rfl hliterals hnames hlookup]
  cases s with
  | numeric s =>
    exact congrArg (fun x => Except.ok (Value.number x))
      (s.regrouped.evaluate_unsignedZeros (.ofFormat number flag)).symm
  | boolean s => rfl

/-- A negative zero loses its sign, the signs of a difference that is subtracted flip, and a
quotient on the right of a quotient is divided by last. -/
theorem Formula.evaluateText_text_base :
    let two : FiniteNumber .double := ⟨false, 0x4000000000000000, by decide⟩
    let s : Formula .double := .numeric (.additive ⟨4⟩ .minus
      (.additive ⟨1⟩ .minus (.literal ⟨true, 0, by decide⟩)
        (.additive ⟨0⟩ .minus (Quantity.urgency .double) (.literal two.negated)))
      (.scaled ⟨3⟩ .divide (Quantity.impact .double)
        (.scaled ⟨2⟩ .divide (Quantity.urgency .double) (.literal two))))
    s.text = "0 - urgency - 2 - (impact / urgency / 2)".toList ∧
      evaluateText (.ofFormat .double (Context.base 2 12).lookup) s.text =
        .ok (.number ((Number.ofNat .double 7).negated)) := by
  intro two s
  have hnames : ∀ v ∈ s.allVariables, v.name.IsNoTruthValue := by decide +kernel
  have hvariables : ∀ v ∈ s.allVariables, (Context.base 2 12).lookup v.name.text =
      some (v.value ((Context.base 2 12).interpretation .double)) := by decide +kernel
  have hread := s.evaluateText_text_ofFormat _ _ _ hnames hvariables
  have hvalue : s.regrouped.unsignedZeros.evaluate ((Context.base 2 12).interpretation .double) =
      .number ((Number.ofNat .double 7).negated) := by decide +kernel
  exact ⟨by decide +kernel, hread.2.trans (congrArg Except.ok hvalue)⟩

end Format

/-! ### In the arithmetic of a ring -/

section Ring

variable {A B K : Type} {f : Format} [Ring K]

/-- In a ring the text of a statement has the value of the statement, unless a quotient stands on
the right of a quotient somewhere in it. Division and rounding may be any functions. -/
theorem Node.evaluateText_text_ofRing (divide : K → K → K) (round : Rounding → K → K)
    (numeral : Bool → Decimal → K) (literal : FiniteNumber f → K) (number : A → K) (flag : B → Bool)
    (lookup : String → Option (Value K)) (s : Node A B f)
    (hliterals : ∀ value : FiniteNumber f,
      evaluateText ⟨.ofRing divide round, numeral, lookup⟩ value.plain =
        .ok (.number (literal value)))
    (hnegated : ∀ value : FiniteNumber f, literal value.negated = -literal value)
    (hquotients : s.nestsOnRight .divide = false)
    (hnames : ∀ v ∈ s.allVariables, v.name.IsNoTruthValue)
    (hvariables : ∀ v ∈ s.allVariables, lookup v.name.text =
      some (v.value (⟨.ofRing divide round, literal, number, flag⟩ : Interpretation A B f K))) :
    evaluateText ⟨.ofRing divide round, numeral, lookup⟩ s.text =
      .ok (s.evaluate ⟨.ofRing divide round, literal, number, flag⟩) := by
  rw [s.evaluateText_text_regrouped rfl hliterals hnames hvariables]
  cases s with
  | boolean s =>
    exact congrArg (fun value => Except.ok (Value.truth value)) (s.evaluate_regrouped flag)
  | numeric s =>
    have hsums := Interpretation.exactSums_ofRing divide round number flag hnegated
    have hnested : s.nestsOnRight .divide = false := hquotients
    have hvalue := s.evaluate_regrouped hsums fun scaling hscaling x y z => by
      cases scaling with
      | multiply => exact (mul_assoc x y z).symm
      | divide =>
        rw [hnested] at hscaling
        cases hscaling
    exact congrArg (fun value => Except.ok (Value.number value)) hvalue

end Ring

/-- In rational numbers a difference that is subtracted and a product on the right of a product have
their value, and rounding has it too. -/
theorem Formula.evaluateText_text_rat :
    let two : FiniteNumber .double := ⟨false, 0x4000000000000000, by decide⟩
    let s : Formula .double := .numeric (.additive ⟨4⟩ .minus (.literal two)
      (.additive ⟨3⟩ .minus
        (.scaled ⟨2⟩ .multiply (Quantity.urgency .double)
          (.scaled ⟨1⟩ .multiply (Quantity.urgency .double)
            (.round ⟨0⟩ .floor (Quantity.urgency .double))))
        (.literal two.negated)))
    let arithmetic : Arithmetic ℚ := .ofRing (fun x y => x / y) fun _ x => x.floor
    s.text = "2 - (urgency * urgency * Math.floor(urgency)) - 2".toList ∧
      evaluateText ⟨arithmetic, fun negative d => (Number.ofDecimal .double negative d).exact,
        fun _ => some (.number (7 / 3))⟩ s.text = .ok (.number (-(98 / 9))) := by
  intro two s arithmetic
  have hliterals : ∀ value : FiniteNumber .double,
      evaluateText ⟨arithmetic, fun negative d => (Number.ofDecimal .double negative d).exact,
        fun _ => some (.number (7 / 3))⟩ value.plain = .ok (.number value.exact) := by
    intro value
    rw [value.evaluateText_plain]
    show Except.ok (Value.number (Number.ofDecimal _ _ _).exact) = _
    rw [value.ofDecimal_numeral, Number.exact, value.exact_unsignedZero]
  have hread := s.evaluateText_text_ofRing _ _ _ FiniteNumber.exact (fun _ => 7 / 3)
    (fun _ => false) (fun _ => some (.number (7 / 3))) hliterals FiniteNumber.exact_negated
    (by decide +kernel) (by decide +kernel) (by decide +kernel)
  have hvalue : s.evaluate ⟨arithmetic, FiniteNumber.exact, fun _ => 7 / 3, fun _ => false⟩ =
      .number (-(98 / 9)) := by decide +kernel
  exact ⟨by decide +kernel, hread.trans (congrArg Except.ok hvalue)⟩

end PriorityFormula
