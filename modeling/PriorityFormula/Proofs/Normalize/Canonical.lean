import PriorityFormula.Proofs.Normalize.Boolean
import PriorityFormula.Proofs.Normalize.Numeric

/-!
# Canonical statements

A numeric statement is canonical if no sum or difference in it has a sum, a difference or a literal
below zero on its right. A condition is canonical if none of the conditions that make up its
outermost conjunctions and disjunctions has a condition joined by its own connective on its right.

Normal forms are canonical. That anything was changed is reported exactly for the statements that
are not canonical already, and a statement that is reported as unchanged is returned with all its
identities. Normalizing a normal form therefore changes nothing.
-/

namespace PriorityFormula

/-! ### Conditions -/

namespace Boolean

variable {B : Type}

/-- No right operand that is reached through joined conditions alone is joined by the connective of
its parent. -/
def Canonical : Boolean B → Prop
  | literal _ | var _ | ternary .. => True
  | joined _ connective left right =>
    left.Canonical ∧ right.Canonical ∧ right.joinedBy connective = false

/-- The kind of the leftmost operation in a tree of joined conditions that has no normal form. -/
def obstacle : Boolean B → Option Kind
  | literal _ | var _ => none
  | joined _ _ left right => left.obstacle.or right.obstacle
  | ternary .. => some .booleanTernary

/-- Joined operands without obstacles make up a condition without one. -/
lemma obstacle_joined_eq_none_iff {id : Id} {connective : Connective} {left right : Boolean B} :
    (joined id connective left right).obstacle = none ↔
      left.obstacle = none ∧ right.obstacle = none :=
  Option.or_eq_none_iff

/-- Attaching the parts of a condition brings no obstacle into a chain. -/
lemma obstacle_chainFrom_parts {connective : Connective} {head s : Boolean B}
    (hhead : head.obstacle = none) (hs : s.obstacle = none) (index : Nat) :
    (chainFrom connective index head (s.parts connective)).obstacle = none := by
  have hparts : ∀ p ∈ s.parts connective, p.obstacle = none :=
    forall_parts (P := fun s => s.obstacle = none)
      (fun _ _ _ => obstacle_joined_eq_none_iff.mp) hs
  refine chainFrom_induction (P := fun s => s.obstacle = none) ?_ hhead hparts index
  intro id chain part hchain hpart
  exact obstacle_joined_eq_none_iff.mpr ⟨hchain, hpart⟩

/-- Attaching the parts of a canonical condition keeps a chain canonical, because a part that is
joined by the connective would have been taken apart. -/
lemma canonical_chainFrom_parts {connective : Connective} {head s : Boolean B}
    (hhead : head.Canonical) (hs : s.Canonical) (index : Nat) :
    (chainFrom connective index head (s.parts connective)).Canonical := by
  have hparts : ∀ p ∈ s.parts connective, p.Canonical :=
    forall_parts (fun _ _ _ hboth => ⟨hboth.1, hboth.2.1⟩) hs
  have hsingle := s.not_joinedBy_of_mem_parts connective
  refine chainFrom_induction (P := Canonical)
    (Q := fun p => p.Canonical ∧ p.joinedBy connective = false) ?_ hhead ?_ index
  · intro id chain part hchain hpart
    exact ⟨hchain, hpart.1, hpart.2⟩
  · intro p hp
    exact ⟨hparts p hp, hsingle p hp⟩

/-- The outcome of normalizing has no obstacle. -/
lemma Normalizes.obstacle_statement_eq_none {s : Boolean B} {n : Normalized (Boolean B)}
    {index last : Nat} (h : Normalizes index s n last) : n.statement.obstacle = none := by
  induction h with
  | literal index value => rfl
  | var index v => rfl
  | kept id connective hleft hright hjoined ihl ihr =>
    exact obstacle_joined_eq_none_iff.mpr ⟨ihl, ihr⟩
  | merged id connective hleft hright hjoined ihl ihr => exact obstacle_chainFrom_parts ihl ihr _

/-- The outcome of normalizing is canonical. -/
lemma Normalizes.canonical {s : Boolean B} {n : Normalized (Boolean B)} {index last : Nat}
    (h : Normalizes index s n last) : n.statement.Canonical := by
  induction h with
  | literal index value => trivial
  | var index v => trivial
  | kept id connective hleft hright hjoined ihl ihr => exact ⟨ihl, ihr, hjoined⟩
  | merged id connective hleft hright hjoined ihl ihr => exact canonical_chainFrom_parts ihl ihr _

/-- A condition that is reported as unchanged is returned as it was, and no identity is taken. -/
lemma Normalizes.eq_of_wasNormalized_eq_false {s : Boolean B} {n : Normalized (Boolean B)}
    {index last : Nat} (h : Normalizes index s n last) (hflag : n.wasNormalized = false) :
    n.statement = s ∧ last = index := by
  induction h with
  | literal index value => exact ⟨rfl, rfl⟩
  | var index v => exact ⟨rfl, rfl⟩
  | kept id connective hleft hright hjoined ihl ihr =>
    obtain ⟨hfirst, hsecond⟩ := Bool.or_eq_false_iff.mp hflag
    obtain ⟨hleftEq, hmiddle⟩ := ihl hfirst
    obtain ⟨hrightEq, hlast⟩ := ihr hsecond
    exact ⟨by rw [hleftEq, hrightEq], hlast.trans hmiddle⟩
  | merged id connective hleft hright hjoined ihl ihr => cases hflag

/-- A canonical condition is reported as unchanged. -/
lemma Normalizes.wasNormalized_eq_false {s : Boolean B} {n : Normalized (Boolean B)}
    {index last : Nat} (h : Normalizes index s n last) (hs : s.Canonical) :
    n.wasNormalized = false := by
  induction h with
  | literal index value => rfl
  | var index v => rfl
  | kept id connective hleft hright hjoined ihl ihr =>
    obtain ⟨hsl, hsr, _⟩ := hs
    exact Bool.or_eq_false_iff.mpr ⟨ihl hsl, ihr hsr⟩
  | merged id connective hleft hright hjoined ihl ihr =>
    -- The right operand came back unchanged, so it could not have been merged.
    obtain ⟨_, hsr, hright'⟩ := hs
    have heq := (hright.eq_of_wasNormalized_eq_false (ihr hsr)).1
    rw [heq, hright'] at hjoined
    cases hjoined

/-- Canonical conditions without obstacles have themselves as outcome. -/
lemma normalizes_of_canonical {s : Boolean B} (hobstacle : s.obstacle = none) (hs : s.Canonical)
    (index : Nat) : Normalizes index s ⟨s, false⟩ index := by
  induction s with
  | literal value => exact .literal index value
  | var v => exact .var index v
  | joined id connective left right ihl ihr =>
    obtain ⟨hol, hor⟩ := obstacle_joined_eq_none_iff.mp hobstacle
    obtain ⟨hsl, hsr, hjoined⟩ := hs
    exact .kept id connective (ihl hol hsl) (ihr hor hsr) hjoined
  | ternary id condition ifTrue otherwise => cases hobstacle

end Boolean

/-! ### Numeric statements -/

namespace Numeric

variable {A B : Type} {f : Format}

/-- No sum or difference in the statement has a sum, a difference or a literal below zero on its
right. -/
def Canonical : Numeric A B f → Prop
  | literal _ | var _ => True
  | additive _ _ left right =>
    left.Canonical ∧ right.Canonical ∧ right.isAdditive = false ∧ right.isNegativeLiteral = false
  | scaled _ _ left right => left.Canonical ∧ right.Canonical
  | round _ _ operand => operand.Canonical
  | ternary _ _ ifTrue otherwise => ifTrue.Canonical ∧ otherwise.Canonical

/-- Operands without obstacles make up a sum or difference without one. -/
lemma obstacle_additive_eq_none_iff {id : Id} {sign : Sign} {left right : Numeric A B f} :
    (additive id sign left right).obstacle = none ↔
      left.obstacle = none ∧ right.obstacle = none :=
  Option.or_eq_none_iff

/-- The terms of a statement without an obstacle have none. -/
lemma obstacle_terms_eq_none {s : Numeric A B f} (hs : s.obstacle = none) (sign : Sign) :
    ∀ t ∈ s.terms sign, t.2.obstacle = none :=
  forall_terms (P := fun s => s.obstacle = none)
    (fun _ _ _ _ => obstacle_additive_eq_none_iff.mp) (fun _ _ _ => rfl) hs sign

/-- Attaching the terms of a statement brings no obstacle into a chain. -/
lemma obstacle_chainFrom_terms {head s : Numeric A B f} (hhead : head.obstacle = none)
    (hs : s.obstacle = none) (sign : Sign) (index : Nat) :
    (chainFrom index head (s.terms sign)).obstacle = none := by
  have hterms := obstacle_terms_eq_none hs sign
  refine chainFrom_induction (P := fun s => s.obstacle = none)
    (Q := fun t => t.obstacle = none) ?_ hhead hterms index
  intro id sign chain term hchain hterm
  exact obstacle_additive_eq_none_iff.mpr ⟨hchain, hterm⟩

/-- Attaching the terms of a canonical statement keeps a chain canonical, because a term that would
have to be merged would have been taken apart or have its sign flipped. -/
lemma canonical_chainFrom_terms {head s : Numeric A B f} (hhead : head.Canonical)
    (hs : s.Canonical) (sign : Sign) (index : Nat) :
    (chainFrom index head (s.terms sign)).Canonical := by
  have hterms : ∀ t ∈ s.terms sign, t.2.Canonical :=
    forall_terms (fun _ _ _ _ hboth => ⟨hboth.1, hboth.2.1⟩) (fun _ _ _ => trivial) hs sign
  have hsingle := s.not_mergeable_of_mem_terms sign
  refine chainFrom_induction (P := Canonical)
    (Q := fun t => t.Canonical ∧ t.isAdditive = false ∧ t.isNegativeLiteral = false) ?_ hhead ?_
    index
  · intro id sign chain term hchain hterm
    exact ⟨hchain, hterm.1, hterm.2⟩
  · intro t ht
    exact ⟨hterms t ht, hsingle t ht⟩

/-- The outcome of normalizing has no obstacle. -/
lemma Normalizes.obstacle_statement_eq_none {s : Numeric A B f} {n : Normalized (Numeric A B f)}
    {index last : Nat} (h : Normalizes index s n last) : n.statement.obstacle = none := by
  induction h with
  | literal index value => rfl
  | var index v => rfl
  | kept id sign hleft hright hmergeable ihl ihr =>
    exact obstacle_additive_eq_none_iff.mpr ⟨ihl, ihr⟩
  | merged id sign hleft hright hmergeable ihl ihr => exact obstacle_chainFrom_terms ihl ihr sign _

/-- The outcome of normalizing is canonical. -/
lemma Normalizes.canonical {s : Numeric A B f} {n : Normalized (Numeric A B f)} {index last : Nat}
    (h : Normalizes index s n last) : n.statement.Canonical := by
  induction h with
  | literal index value => trivial
  | var index v => trivial
  | kept id sign hleft hright hmergeable ihl ihr =>
    exact ⟨ihl, ihr, Bool.or_eq_false_iff.mp hmergeable⟩
  | merged id sign hleft hright hmergeable ihl ihr => exact canonical_chainFrom_terms ihl ihr sign _

/-- A statement that is reported as unchanged is returned as it was, and no identity is taken. -/
lemma Normalizes.eq_of_wasNormalized_eq_false {s : Numeric A B f} {n : Normalized (Numeric A B f)}
    {index last : Nat} (h : Normalizes index s n last) (hflag : n.wasNormalized = false) :
    n.statement = s ∧ last = index := by
  induction h with
  | literal index value => exact ⟨rfl, rfl⟩
  | var index v => exact ⟨rfl, rfl⟩
  | kept id sign hleft hright hmergeable ihl ihr =>
    obtain ⟨hfirst, hsecond⟩ := Bool.or_eq_false_iff.mp hflag
    obtain ⟨hleftEq, hmiddle⟩ := ihl hfirst
    obtain ⟨hrightEq, hlast⟩ := ihr hsecond
    exact ⟨by rw [hleftEq, hrightEq], hlast.trans hmiddle⟩
  | merged id sign hleft hright hmergeable ihl ihr => cases hflag

/-- A canonical statement is reported as unchanged. -/
lemma Normalizes.wasNormalized_eq_false {s : Numeric A B f} {n : Normalized (Numeric A B f)}
    {index last : Nat} (h : Normalizes index s n last) (hs : s.Canonical) :
    n.wasNormalized = false := by
  induction h with
  | literal index value => rfl
  | var index v => rfl
  | kept id sign hleft hright hmergeable ihl ihr =>
    obtain ⟨hsl, hsr, _⟩ := hs
    exact Bool.or_eq_false_iff.mpr ⟨ihl hsl, ihr hsr⟩
  | merged id sign hleft hright hmergeable ihl ihr =>
    -- The right operand came back unchanged, so it could not have been merged.
    obtain ⟨_, hsr, hright'⟩ := hs
    have heq := (hright.eq_of_wasNormalized_eq_false (ihr hsr)).1
    rw [heq, isMergeable, hright'.1, hright'.2] at hmergeable
    cases hmergeable

/-- Canonical statements without obstacles have themselves as outcome. -/
lemma normalizes_of_canonical {s : Numeric A B f} (hobstacle : s.obstacle = none)
    (hs : s.Canonical) (index : Nat) : Normalizes index s ⟨s, false⟩ index := by
  induction s with
  | literal value => exact .literal index value
  | var v => exact .var index v
  | additive id sign left right ihl ihr =>
    obtain ⟨hol, hor⟩ := obstacle_additive_eq_none_iff.mp hobstacle
    obtain ⟨hsl, hsr, hmergeable⟩ := hs
    exact .kept id sign (ihl hol hsl) (ihr hor hsr) (Bool.or_eq_false_iff.mpr hmergeable)
  | scaled id scaling left right => cases scaling <;> cases hobstacle
  | round id mode operand => cases hobstacle
  | ternary id condition ifTrue otherwise => cases hobstacle

end Numeric

/-! ### Normal forms are canonical -/

/-- Where normalizing succeeds, the result is canonical, and it is reported as unchanged exactly if
the statement was canonical before. It is then the statement itself, and no identity was taken. A
result that is normalized again stays as it is. -/
theorem canonical_of_tryNormalize_eq_ok (A B : Type) (f : Format) :
    (∀ (s : Numeric A B f) (n : Normalized (Numeric A B f)) (σ σ' : Session),
      s.tryNormalize.run.run σ = (.ok n, σ') →
        n.statement.Canonical ∧ (n.wasNormalized = false ↔ s.Canonical) ∧
          (n.wasNormalized = false → n.statement = s ∧ σ'.nextIndex = σ.nextIndex) ∧
            ∀ index messages, ∃ messages', n.statement.tryNormalize.run.run ⟨index, messages⟩ =
              (.ok ⟨n.statement, false⟩, ⟨index, messages'⟩)) ∧
    ∀ (s : Boolean B) (n : Normalized (Boolean B)) (σ σ' : Session),
      s.tryNormalize.run.run σ = (.ok n, σ') →
        n.statement.Canonical ∧ (n.wasNormalized = false ↔ s.Canonical) ∧
          (n.wasNormalized = false → n.statement = s ∧ σ'.nextIndex = σ.nextIndex) ∧
            ∀ index messages, ∃ messages', n.statement.tryNormalize.run.run ⟨index, messages⟩ =
              (.ok ⟨n.statement, false⟩, ⟨index, messages'⟩) := by
  constructor
  · intro s n σ σ' hrun
    have h := Numeric.normalizes_of_tryNormalize_eq_ok hrun
    refine ⟨h.canonical, ⟨?_, h.wasNormalized_eq_false⟩, h.eq_of_wasNormalized_eq_false, ?_⟩
    · intro hflag
      rw [← (h.eq_of_wasNormalized_eq_false hflag).1]
      exact h.canonical
    · intro index
      exact (Numeric.normalizes_of_canonical h.obstacle_statement_eq_none h.canonical
        index).exists_run_tryNormalize_eq
  · intro s n σ σ' hrun
    have h := Boolean.normalizes_of_tryNormalize_eq_ok hrun
    refine ⟨h.canonical, ⟨?_, h.wasNormalized_eq_false⟩, h.eq_of_wasNormalized_eq_false, ?_⟩
    · intro hflag
      rw [← (h.eq_of_wasNormalized_eq_false hflag).1]
      exact h.canonical
    · intro index
      exact (Boolean.normalizes_of_canonical h.obstacle_statement_eq_none h.canonical
        index).exists_run_tryNormalize_eq

/-- A sum that is subtracted is merged where it begins with a literal below zero, which makes the
statement canonical; a disjunction on the right of a conjunction is left alone, because that one is
canonical already. -/
theorem canonical_of_tryNormalize_mixed :
    let two : FiniteNumber .double := ⟨false, 0x4000000000000000, by decide⟩
    let s : Quantity .double := .additive ⟨1⟩ .minus (Quantity.urgency .double)
      (.additive ⟨0⟩ .plus (.literal two.negated) (Quantity.impact .double))
    let b : Condition := .joined ⟨3⟩ .and Condition.vip
      (.joined ⟨2⟩ .or Condition.businessRelated Condition.vip)
    (∃ n σ', s.tryNormalize.run.run ⟨4, []⟩ = (.ok n, σ') ∧ n.statement.Canonical ∧
      ¬ s.Canonical ∧ ∃ messages', n.statement.tryNormalize.run.run σ' =
        (.ok ⟨n.statement, false⟩, ⟨σ'.nextIndex, messages'⟩)) ∧
    ∃ n σ', b.tryNormalize.run.run ⟨4, []⟩ = (.ok n, σ') ∧ b.Canonical ∧ n.statement = b ∧
      σ'.nextIndex = 4 := by
  intro two s b
  obtain ⟨hcanonical, hflag, _, hagain⟩ :=
    (canonical_of_tryNormalize_eq_ok (NumberSource .double) FlagSource .double).1 s _ ⟨4, []⟩ _ rfl
  obtain ⟨_, hflag', hkept, _⟩ :=
    (canonical_of_tryNormalize_eq_ok (NumberSource .double) FlagSource .double).2 b _ ⟨4, []⟩ _ rfl
  refine ⟨⟨_, _, rfl, hcanonical, ?_, hagain _ _⟩, ⟨_, _, rfl, hflag'.mp rfl, hkept rfl⟩⟩
  intro hs
  have hunchanged := hflag.mpr hs
  cases hunchanged

end PriorityFormula
