import PriorityFormula.Proofs.Chain.Flat
import PriorityFormula.Proofs.Normalize.Equality
import PriorityFormula.Proofs.Normalize.Failure

/-!
# Normalizing created chains

A created chain and the operations built one after the other can be rearranged into each other. The
laws of regrouping keep the order of all operands, so the leftmost one that has no normal form stays
the leftmost one: normalizing fails for both statements alike, and if it does not fail, then both
have the same normal form.

Behind its leftmost operand a created chain of sums and differences has no sums, differences or
literals below zero, and if normalizing does not fail, its operands are leaves. It is canonical then
and its own normal form. This is different for connectives, because conditions joined by the other
connective may be operands of the chain.
-/

namespace PriorityFormula

variable {α β : Type}

/-! ### Work that ends alike -/

/-- Two results are the same fault, or they are values that are related. -/
inductive SameResult (r : α → β → Prop) : Except Fault α → Except Fault β → Prop
  | ok {a : α} {b : β} : r a b → SameResult r (.ok a) (.ok b)
  | error (fault : Fault) : SameResult r (.error fault) (.error fault)

namespace Attempt

/-- From any two sessions, `x` and `y` fail with the same fault or succeed with related values. -/
def EndsLike (r : α → β → Prop) (x : Attempt α) (y : Attempt β) : Prop :=
  ∀ σ τ, SameResult r (x.run.run σ).1 (y.run.run τ).1

/-- Work that fails with the same fault ends alike if it succeeds with related values. -/
lemma FailsWith.endsLike {r : α → β → Prop} {x : Attempt α} {y : Attempt β}
    {fault : Option Fault} (hx : x.FailsWith fault) (hy : y.FailsWith fault)
    (hvalues : ∀ a b σ σ' τ τ', x.run.run σ = (.ok a, σ') → y.run.run τ = (.ok b, τ') → r a b) :
    x.EndsLike r y := by
  intro σ τ
  have hfirst := hx σ
  have hsecond := hy τ
  obtain ⟨result, σ', hrun⟩ : ∃ result σ', x.run.run σ = (result, σ') := ⟨_, _, rfl⟩
  obtain ⟨result', τ', hrun'⟩ : ∃ result τ', y.run.run τ = (result, τ') := ⟨_, _, rfl⟩
  rw [fault?, hrun] at hfirst
  rw [fault?, hrun'] at hsecond
  rw [hrun, hrun']
  subst hfirst
  -- Since both fail with the same fault, one of them cannot fail where the other one succeeds.
  cases result with
  | ok a =>
    cases result' with
    | ok b => exact .ok (hvalues a b σ σ' τ τ' hrun hrun')
    | error fault => cases hsecond
  | error fault =>
    cases result' with
    | ok b => cases hsecond
    | error fault' =>
      cases hsecond
      exact .error fault

/-- What holds of all values that the first piece of work gives can be added to the relation. -/
lemma EndsLike.and_left {r : α → β → Prop} {p : α → Prop} {x : Attempt α} {y : Attempt β}
    (h : x.EndsLike r y) (hp : ∀ a σ σ', x.run.run σ = (.ok a, σ') → p a) :
    x.EndsLike (fun a b => p a ∧ r a b) y := by
  intro σ τ
  have hresults := h σ τ
  obtain ⟨result, σ', hrun⟩ : ∃ result σ', x.run.run σ = (result, σ') := ⟨_, _, rfl⟩
  obtain ⟨result', hrun'⟩ : ∃ result', (y.run.run τ).1 = result' := ⟨_, rfl⟩
  rw [hrun, hrun'] at hresults
  rw [hrun, hrun']
  cases hresults with
  | ok hvalues => exact .ok ⟨hp _ σ σ' hrun, hvalues⟩
  | error fault => exact .error fault

end Attempt

/-! ### Conditions -/

namespace Boolean

variable {B : Type}

/-- Identities are no obstacle to normalizing. -/
lemma obstacle_withoutIds (s : Boolean B) : s.withoutIds.obstacle = s.obstacle := by
  induction s with
  | literal value => rfl
  | var v => rfl
  | joined id connective left right ihl ihr => rw [withoutIds, obstacle, ihl, ihr, obstacle]
  | ternary id condition ifTrue otherwise => rfl

/-- The law leaves the leftmost obstacle in front of all others. -/
lemma LawInside.obstacle_eq {s t : Boolean B} (h : LawInside s t) : s.obstacle = t.obstacle := by
  induction h with
  | here hlaw =>
    cases hlaw with
    | nested id id' jd jd' connective a b c => exact Option.or_assoc.symm
  | joinedLeft id connective right _ ih => rw [obstacle, obstacle, ih]
  | joinedRight id connective left _ ih => rw [obstacle, obstacle, ih]
  | condition id ifTrue otherwise _ => rfl
  | ifTrue id condition otherwise _ => rfl
  | otherwise id condition ifTrue _ => rfl

/-- Conditions that can be rearranged into each other have the same obstacle. -/
lemma Rearranged.obstacle_eq {s t : Boolean B} (h : s.Rearranged t) : s.obstacle = t.obstacle := by
  have heq := eq_of_eqvGen (fun _ _ hlaw => LawInside.obstacle_eq hlaw) h
  rwa [obstacle_withoutIds, obstacle_withoutIds] at heq

/-- Normalizing fails with the same fault for conditions that can be rearranged into each other. -/
lemma Rearranged.failsWith_tryNormalize {s t : Boolean B} (h : s.Rearranged t) :
    s.tryNormalize.FailsWith t.leftmostFault := by
  have hs := Boolean.failsWith_tryNormalize s.failsWith_leftmostFault
  rwa [leftmostFault, ← obstacle_eq_find?, h.obstacle_eq, obstacle_eq_find?] at hs

/-- Normalizing ends alike for conditions that can be rearranged into each other. -/
lemma Rearranged.tryNormalize_endsLike {s t : Boolean B} (h : s.Rearranged t) :
    s.tryNormalize.EndsLike (fun m n => m.statement.withoutIds = n.statement.withoutIds)
      t.tryNormalize := by
  have ht := Boolean.failsWith_tryNormalize t.failsWith_leftmostFault
  refine h.failsWith_tryNormalize.endsLike ht ?_
  intro m n σ σ' τ τ' hrun hrun'
  rw [withoutIds_of_tryNormalize_eq_ok hrun, withoutIds_of_tryNormalize_eq_ok hrun',
    h.withoutIds_regrouped_eq]

end Boolean

/-! ### Numeric statements -/

namespace Numeric

variable {A B : Type} {f : Format}

/-- Identities are no obstacle to normalizing. -/
lemma obstacle_withoutIds (s : Numeric A B f) : s.withoutIds.obstacle = s.obstacle := by
  induction s with
  | literal value => rfl
  | var v => rfl
  | additive id sign left right ihl ihr => rw [withoutIds, obstacle, ihl, ihr, obstacle]
  | scaled id scaling left right => cases scaling <;> rfl
  | round id mode operand => rfl
  | ternary id condition ifTrue otherwise => rfl

/-- The laws leave the leftmost obstacle in front of all others. -/
lemma LawInside.obstacle_eq {s t : Numeric A B f} (h : LawInside s t) :
    s.obstacle = t.obstacle := by
  induction h with
  | here hlaw =>
    cases hlaw with
    | nested id id' jd jd' outer inner a b c => exact Option.or_assoc.symm
    | opposite id jd sign a hvalue => rfl
  | additiveLeft id sign right _ ih => rw [obstacle, obstacle, ih]
  | additiveRight id sign left _ ih => rw [obstacle, obstacle, ih]
  | scaledLeft id scaling right _ => cases scaling <;> rfl
  | scaledRight id scaling left _ => cases scaling <;> rfl
  | round id mode _ => rfl
  | ifTrue id condition otherwise _ => rfl
  | otherwise id condition ifTrue _ => rfl

/-- Statements that can be rearranged into each other have the same obstacle. -/
lemma Rearranged.obstacle_eq {s t : Numeric A B f} (h : s.Rearranged t) :
    s.obstacle = t.obstacle := by
  have heq := eq_of_eqvGen (fun _ _ hlaw => LawInside.obstacle_eq hlaw) h
  rwa [obstacle_withoutIds, obstacle_withoutIds] at heq

/-- Normalizing fails with the same fault for statements that can be rearranged into each other. -/
lemma Rearranged.failsWith_tryNormalize {s t : Numeric A B f} (h : s.Rearranged t) :
    s.tryNormalize.FailsWith t.leftmostFault := by
  have hs := Numeric.failsWith_tryNormalize s.failsWith_leftmostFault
  rwa [leftmostFault, ← obstacle_eq_find?, h.obstacle_eq, obstacle_eq_find?] at hs

/-- Normalizing ends alike for statements that can be rearranged into each other. -/
lemma Rearranged.tryNormalize_endsLike {s t : Numeric A B f} (h : s.Rearranged t) :
    s.tryNormalize.EndsLike (fun m n => m.statement.withoutIds = n.statement.withoutIds)
      t.tryNormalize := by
  have ht := Numeric.failsWith_tryNormalize t.failsWith_leftmostFault
  refine h.failsWith_tryNormalize.endsLike ht ?_
  intro m n σ σ' τ τ' hrun hrun'
  rw [(withoutIds_of_tryNormalize_eq_ok hrun).2, (withoutIds_of_tryNormalize_eq_ok hrun').2,
    h.withoutIds_regrouped_eq]

/-- A flat chain without obstacles is canonical, because all its operands are leaves. -/
lemma canonical_of_flatSpine {s : Numeric A B f} (hobstacle : s.obstacle = none)
    (hflat : s.FlatSpine) : s.Canonical := by
  induction s with
  | literal value => trivial
  | var v => trivial
  | additive id sign left right ihl ihr =>
    obtain ⟨hleft, hright⟩ := obstacle_additive_eq_none_iff.mp hobstacle
    obtain ⟨hflatLeft, hadditive, hnegative⟩ := flatSpine_additive_iff.mp hflat
    -- The right operand has no links of its own, so its spine is flat for want of any.
    have hoperand := ihr hright (flatSpine_of_not_isAdditive hadditive)
    exact ⟨ihl hleft hflatLeft, hoperand, hadditive, hnegative⟩
  | scaled id scaling left right => cases scaling <;> cases hobstacle
  | round id mode operand => cases hobstacle
  | ternary id condition ifTrue otherwise => cases hobstacle

/-- Where normalizing a flat chain succeeds, nothing is changed. -/
lemma eq_of_tryNormalize_flatSpine {s : Numeric A B f} {n : Normalized (Numeric A B f)}
    {σ σ' : Session} (h : s.tryNormalize.run.run σ = (.ok n, σ')) (hflat : s.FlatSpine) :
    n = ⟨s, false⟩ := by
  have hderived := normalizes_of_tryNormalize_eq_ok h
  have hcanonical := canonical_of_flatSpine hderived.withoutIds_eq.1 hflat
  have hflag := hderived.wasNormalized_eq_false hcanonical
  have hstatement := (hderived.eq_of_wasNormalized_eq_false hflag).1
  rw [← hstatement, ← hflag]

end Numeric

/-! ### Created chains -/

/-- Normalizing a created chain fails with the fault of the leftmost statement without a normal form
that is reached from the operations built one after the other, and if there is none, then it does
not fail. Normalizing either of the two ends alike, with the same fault or with the same normal form
up to identities. A created chain of sums and differences is reported as unchanged unless
normalizing it fails. -/
theorem tryNormalize_created_endsLike (A B : Type) (f : Format) :
    (∀ (sign : Sign) (first : Numeric A B f) (rest : List (Numeric A B f)) (σ τ : Session),
      let created := ((Numeric.createAdditive sign first rest).run σ).1
      let nested := ((rest.foldlM (Numeric.newAdditive sign) first).run τ).1
      created.tryNormalize.FailsWith nested.leftmostFault ∧
        created.tryNormalize.EndsLike
          (fun m n => m = ⟨created, false⟩ ∧ m.statement.withoutIds = n.statement.withoutIds)
          nested.tryNormalize) ∧
    ∀ (connective : Connective) (first : Boolean B) (rest : List (Boolean B)) (σ τ : Session),
      let created := ((Boolean.createLogical connective first rest).run σ).1
      let nested := ((rest.foldlM (Boolean.newJoined connective) first).run τ).1
      created.tryNormalize.FailsWith nested.leftmostFault ∧
        created.tryNormalize.EndsLike
          (fun m n => m.statement.withoutIds = n.statement.withoutIds) nested.tryNormalize := by
  constructor
  · intro sign first rest σ τ
    have hrearranged := Numeric.rearranged_createAdditive sign first rest σ τ
    have hflat := (Numeric.isChainOf_createAdditive sign first rest σ).flatSpine
    refine ⟨hrearranged.failsWith_tryNormalize, hrearranged.tryNormalize_endsLike.and_left ?_⟩
    intro m σ₁ σ₂ hrun
    exact Numeric.eq_of_tryNormalize_flatSpine hrun hflat
  · intro connective first rest σ τ
    have hrearranged := Boolean.rearranged_createLogical connective first rest σ τ
    exact ⟨hrearranged.failsWith_tryNormalize, hrearranged.tryNormalize_endsLike⟩

/-- Normalizing still changes a created conjunction if one of its operands is a disjunction that is
nested to the right. -/
example :
    let nested : Condition := .joined ⟨1⟩ .or Condition.vip
      (.joined ⟨0⟩ .or Condition.businessRelated Condition.vip)
    let created := ((Boolean.createLogical .and Condition.vip [nested]).run ⟨2, []⟩).1
    ∃ n σ', created.tryNormalize.run.run ⟨3, []⟩ = (.ok n, σ') ∧ n.wasNormalized = true :=
  ⟨_, _, rfl, rfl⟩

end PriorityFormula
