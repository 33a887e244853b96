import PriorityFormula.Context
import PriorityFormula.Proofs.Statement.Tree

/-!
# What evaluation depends on

Two runs of one evaluation with different accessors go the same way as long as the accessors that
are called give the same, so the values of all others do not matter: neither those in a branch that
is not selected nor those behind a condition that settles a connective.
-/

namespace PriorityFormula

/-! ### Traces that agree -/

namespace Traced

variable {E E' α β : Type} {keeps : E → Prop}

/-- The second trace is the first one, provided that all reads of the first one keep what they
give. -/
def SameWhere (keeps : E → Prop) (x y : Traced E α) : Prop :=
  (∀ e ∈ x.reads, keeps e) → y = x

lemma SameWhere.pure (value : α) :
    SameWhere keeps (pure value : Traced E α) (Pure.pure value) := by
  intro _
  rfl

/-- If the first parts agree and the second ones agree on every value, then so do the wholes. -/
lemma SameWhere.bind {x y : Traced E α} {next next' : α → Traced E β} (h : SameWhere keeps x y)
    (hnext : ∀ value, SameWhere keeps (next value) (next' value)) :
    SameWhere keeps (x >>= next) (y >>= next') := by
  intro hreads
  rw [reads_bind] at hreads
  obtain ⟨hfirst, hrest⟩ := List.forall_mem_append.mp hreads
  have hxy : y = x := h hfirst
  -- What the second part of the first run reads is known only at the value of the first part.
  have hsecond : next' x.value = next x.value := hnext x.value hrest
  rw [hxy]
  ext1
  · rw [value_bind, value_bind, hsecond]
  · rw [reads_bind, reads_bind, hsecond]

/-- A choice agrees with one that is made in the same way between branches that agree. -/
lemma SameWhere.ite {c : Prop} [Decidable c] {x x' y y' : Traced E α} (hx : SameWhere keeps x x')
    (hy : SameWhere keeps y y') : SameWhere keeps (if c then x else y) (if c then x' else y') := by
  by_cases hc : c
  · simpa only [if_pos hc] using hx
  · simpa only [if_neg hc] using hy

/-- Traces that agree still do so when their reads are seen as others. -/
lemma SameWhere.mapReads {see : E' → E} {keeps' : E' → Prop} {x y : Traced E' α}
    (h : SameWhere keeps' x y) (hsee : ∀ e, keeps (see e) → keeps' e) :
    SameWhere keeps (x.mapReads see) (y.mapReads see) := by
  intro hreads
  have hkeeps : ∀ e ∈ x.reads, keeps' e := fun e he =>
    hsee e (hreads (see e) (List.mem_map_of_mem he))
  rw [h hkeeps]

end Traced

/-! ### Other accessors -/

/-- The same operations and literals with other accessors. -/
def Interpretation.withAccessors {A B K : Type} {f : Format} (I : Interpretation A B f K)
    (number : A → K) (flag : B → Bool) : Interpretation A B f K :=
  { I with number, flag }

/-- Two runs of a condition's evaluation agree where the accessors that are called do. -/
lemma Boolean.sameWhere_trace {B : Type} (flag flag' : B → Bool) (s : Boolean B) :
    Traced.SameWhere (fun v => flag' v.accessor = flag v.accessor) (s.trace flag)
      (s.trace flag') := by
  induction s with
  | literal value => exact .pure value
  | var v =>
    intro hreads
    have hv : flag' v.accessor = flag v.accessor := hreads v (List.mem_singleton_self v)
    rw [trace, trace, hv]
  | joined id connective left right ihl ihr =>
    rw [trace, trace]
    exact ihl.bind fun first => .ite (.pure first) ihr
  | ternary id condition ifTrue otherwise ihc iht iho =>
    rw [trace, trace]
    exact ihc.bind fun _ => .ite iht iho

/-- Two runs of a statement's evaluation agree where the accessors that are called do. -/
lemma Numeric.sameWhere_trace {A B K : Type} {f : Format} (I : Interpretation A B f K)
    (number : A → K) (flag : B → Bool) (s : Numeric A B f) :
    Traced.SameWhere (fun v => v.value (I.withAccessors number flag) = v.value I) (s.trace I)
      (s.trace (I.withAccessors number flag)) := by
  induction s with
  | literal value => exact .pure (I.literal value)
  | var v =>
    intro hreads
    have hv := hreads (.number v) (List.mem_singleton_self _)
    have hnumber : number v.accessor = I.number v.accessor := Reader.Value.number.inj hv
    rw [trace, trace, ← hnumber]
    rfl
  | additive id sign left right ihl ihr =>
    rw [trace, trace]
    exact ihl.bind fun x => ihr.bind fun y => .pure (I.arithmetic.attach sign x y)
  | scaled id scaling left right ihl ihr =>
    rw [trace, trace]
    exact ihl.bind fun x => ihr.bind fun y => .pure (I.arithmetic.scale scaling x y)
  | round id mode operand ih =>
    rw [trace, trace]
    exact ih.bind fun x => .pure (I.arithmetic.round mode x)
  | ternary id condition ifTrue otherwise iht iho =>
    have hcondition : Traced.SameWhere
        (fun v : Access A B => v.value (I.withAccessors number flag) = v.value I)
        ((condition.trace I.flag).mapReads .flag) ((condition.trace flag).mapReads .flag) :=
      (condition.sameWhere_trace I.flag flag).mapReads fun _ => Reader.Value.truth.inj
    rw [trace, trace]
    exact hcondition.bind fun _ => .ite iht iho

/-- If every accessor that is called while a statement is evaluated gives the same in another
context, then evaluating the statement there calls the same accessors in the same order and gives
the same value, whatever the other accessors give. -/
theorem trace_eq_of_reads_unchanged (A B K : Type) (f : Format) :
    (∀ (I : Interpretation A B f K) (number : A → K) (flag : B → Bool) (s : Numeric A B f),
      (∀ v ∈ (s.trace I).reads, v.value (I.withAccessors number flag) = v.value I) →
        s.trace (I.withAccessors number flag) = s.trace I) ∧
    ∀ (flag flag' : B → Bool) (s : Boolean B),
      (∀ v ∈ (s.trace flag).reads, flag' v.accessor = flag v.accessor) →
        s.trace flag' = s.trace flag :=
  ⟨fun I number flag s => s.sameWhere_trace I number flag,
    fun flag flag' s => s.sameWhere_trace flag flag'⟩

/-- The choice by whether the person is very important or the matter is related to the business
gives the urgency of an important person and looks at nothing else: of the connective only the left
condition is read, and of the branches only the selected one. -/
theorem trace_eq_of_reads_unchanged_settled :
    let vip : Variable FlagSource := ⟨⟨"vip", by decide⟩, .vip⟩
    let urgency : Variable (NumberSource .double) := ⟨⟨"urgency", by decide⟩, .urgency⟩
    let either : Condition := .joined ⟨0⟩ .or Condition.vip Condition.businessRelated
    let choice : Quantity .double :=
      .ternary ⟨1⟩ either (Quantity.urgency .double) (Quantity.impact .double)
    let context := Context.full 3 4 true false
    let other := Context.full 3 9 true true
    either.trace other.flag = either.trace context.flag ∧
      choice.trace (other.interpretation .double) =
        choice.trace (context.interpretation .double) ∧
      (either.trace context.flag).reads = [vip] ∧
      (choice.trace (context.interpretation .double)).reads = [.flag vip, .number urgency] := by
  intro vip urgency either choice context other
  obtain ⟨hnumeric, hboolean⟩ :=
    trace_eq_of_reads_unchanged (NumberSource .double) FlagSource (Number .double) .double
  have heither : (either.trace context.flag).reads = [vip] := by
    simp [either, Condition.vip, vip, context, Context.flag, Connective.settles]
  have hchoice : (choice.trace (context.interpretation .double)).reads =
      [.flag vip, .number urgency] := by
    have hselected : either.evaluate context.flag = true := by decide
    simp [choice, Context.interpretation, heither, hselected, Quantity.urgency, urgency]
  refine ⟨?_, ?_, heither, hchoice⟩
  · refine hboolean context.flag other.flag either ?_
    intro v hv
    rw [heither, List.mem_singleton] at hv
    rw [hv]
    rfl
  · refine hnumeric (context.interpretation .double) (other.number .double) other.flag choice ?_
    intro v hv
    rw [hchoice, List.mem_cons, List.mem_singleton] at hv
    rcases hv with rfl | rfl
    · simp [Access.value, Interpretation.withAccessors, Context.interpretation, Context.flag, vip,
        other, context]
    · simp [Access.value, Interpretation.withAccessors, Context.interpretation, Context.number,
        Context.grades?, urgency, other, context]

end PriorityFormula
