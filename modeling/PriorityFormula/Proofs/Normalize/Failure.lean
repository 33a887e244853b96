import PriorityFormula.Context
import PriorityFormula.Proofs.Normalize.Canonical

/-!
# Where normalizing fails

Normalizing works its way into the operands of sums, differences and connectives. It fails if it
gets to a statement of a kind that has no normal form, and since left operands come first, the fault
names the leftmost such statement. This does not depend on how normalizing was asked for, and
whatever was to be done with the outcome is not done.
-/

namespace PriorityFormula

variable {α β : Type}

/-- Whether statements of a kind have no normal form yet. -/
def Kind.lacksNormalForm : Kind → Bool
  | product | quotient | round | numericalTernary | booleanTernary => true
  | numericalLiteral | booleanLiteral | numericalVariable | booleanVariable | sum | difference
  | and | or => false

/-! ### Faults of work -/

namespace Attempt

/-- The fault with which work fails from a session, if it fails. -/
def fault? (x : Attempt α) (σ : Session) : Option Fault :=
  match (x.run.run σ).1 with
  | .ok _ => none
  | .error fault => some fault

/-- Work fails with `fault` from every session, or from none if there is no fault. -/
def FailsWith (x : Attempt α) (fault : Option Fault) : Prop :=
  ∀ σ, x.fault? σ = fault

/-- Wherever `x` fails, `y` fails with the same fault and leaves the same session. -/
def FailsLike (y : Attempt β) (x : Attempt α) : Prop :=
  ∀ σ fault σ', x.run.run σ = (.error fault, σ') → y.run.run σ = (.error fault, σ')

/-- Work that cannot fail does not. -/
lemma failsWith_lift (work : Work α) : FailsWith (ExceptT.lift work) none :=
  fun _ => rfl

/-- Of two pieces of work one after the other, the first one that fails gives the fault. -/
lemma FailsWith.bind {x : Attempt α} {next : α → Attempt β} {first second : Option Fault}
    (hx : x.FailsWith first) (hnext : ∀ a, (next a).FailsWith second) :
    (x >>= next).FailsWith (first.or second) := by
  intro σ
  have hfirst := hx σ
  obtain ⟨result, σ', hrun⟩ : ∃ result σ', x.run.run σ = (result, σ') := ⟨_, _, rfl⟩
  rw [fault?, hrun] at hfirst
  cases result with
  | ok a =>
    subst hfirst
    rw [fault?, run_bind_of_ok hrun]
    exact hnext a σ'
  | error fault =>
    subst hfirst
    rw [fault?, run_bind_of_error hrun]
    rfl

/-- What follows work is not reached where the work fails. -/
lemma failsLike_bind (x : Attempt α) (next : α → Attempt β) : (x >>= next).FailsLike x :=
  fun _ _ _ hrun => run_bind_of_error hrun

/-- Going on with an outcome adds no fault. -/
lemma FailsWith.proceed {S T : Type} {x : Attempt (Normalized S)} {fault : Option Fault}
    (hx : x.FailsWith fault) (onNormalized onUnchanged : S → Work T) :
    (x >>= fun n => ExceptT.lift (n.proceed onNormalized onUnchanged)).FailsWith fault := by
  have hboth := hx.bind fun n => failsWith_lift (n.proceed onNormalized onUnchanged)
  rwa [Option.or_none] at hboth

end Attempt

/-! ### Conditions -/

namespace Boolean

variable {B : Type}

/-- The conditions reached from the root through joined conditions alone, the root included, in
pre-order. -/
def reached : Boolean B → List (Boolean B)
  | joined id connective left right =>
    joined id connective left right :: (left.reached ++ right.reached)
  | literal value => [literal value]
  | var v => [var v]
  | ternary id condition ifTrue otherwise => [ternary id condition ifTrue otherwise]

/-- The fault of the leftmost reached condition of a kind that has no normal form. -/
def leftmostFault (s : Boolean B) : Option Fault :=
  ((s.reached.map kind).find? Kind.lacksNormalForm).map .notImplemented

/-- The obstacle is the leftmost reached condition of a kind that has no normal form. -/
lemma obstacle_eq_find? (s : Boolean B) :
    s.obstacle = (s.reached.map kind).find? Kind.lacksNormalForm := by
  induction s with
  | literal value => rfl
  | var v => rfl
  | joined id connective left right ihl ihr =>
    have hroot : (joined id connective left right).kind.lacksNormalForm = false := by
      cases connective <;> rfl
    rw [obstacle, reached, List.map_cons, List.find?_cons_of_neg (ne_true_of_eq_false hroot),
      List.map_append, List.find?_append, ihl, ihr]
  | ternary id condition ifTrue otherwise => rfl

/-- Announcing a condition does not fail. -/
lemma failsWith_tryNormalize {s : Boolean B} {fault : Option Fault}
    (h : s.tryNormalizeNode.FailsWith fault) : s.tryNormalize.FailsWith fault := by
  intro σ
  rw [Attempt.fault?, run_tryNormalize]
  exact h { σ with messages := σ.messages ++ [.normalizing s.kind] }

/-- Normalizing a condition fails at its obstacle. -/
lemma failsWith_tryNormalizeNode (s : Boolean B) :
    s.tryNormalizeNode.FailsWith (s.obstacle.map .notImplemented) := by
  induction s with
  | literal value => exact fun _ => rfl
  | var v => exact fun _ => rfl
  | joined id connective left right ihl ihr =>
    have hoperands := (failsWith_tryNormalize ihl).bind fun first =>
      (failsWith_tryNormalize ihr).bind fun second => Attempt.failsWith_lift
        (joinLogical id connective first second Normalized.changed Normalized.unchanged)
    rw [tryNormalizeNode, normalizeNodeWith_joined, obstacle, Option.map_or]
    rwa [Option.or_none] at hoperands
  | ternary id condition ifTrue otherwise => exact fun _ => rfl

/-- Normalizing a condition fails with the fault of the leftmost condition that has no normal
form. -/
lemma failsWith_leftmostFault (s : Boolean B) : s.tryNormalizeNode.FailsWith s.leftmostFault := by
  rw [leftmostFault, ← obstacle_eq_find?]
  exact s.failsWith_tryNormalizeNode

end Boolean

/-! ### Numeric statements -/

namespace Numeric

variable {A B : Type} {f : Format}

/-- The statements reached from the root through sums and differences alone, the root included, in
pre-order. -/
def reached : Numeric A B f → List (Numeric A B f)
  | additive id sign left right =>
    additive id sign left right :: (left.reached ++ right.reached)
  | literal value => [literal value]
  | var v => [var v]
  | scaled id scaling left right => [scaled id scaling left right]
  | round id mode operand => [round id mode operand]
  | ternary id condition ifTrue otherwise => [ternary id condition ifTrue otherwise]

/-- The fault of the leftmost reached statement of a kind that has no normal form. -/
def leftmostFault (s : Numeric A B f) : Option Fault :=
  ((s.reached.map kind).find? Kind.lacksNormalForm).map .notImplemented

/-- The obstacle is the leftmost reached statement of a kind that has no normal form. -/
lemma obstacle_eq_find? (s : Numeric A B f) :
    s.obstacle = (s.reached.map kind).find? Kind.lacksNormalForm := by
  induction s with
  | literal value => rfl
  | var v => rfl
  | additive id sign left right ihl ihr =>
    have hroot : (additive id sign left right).kind.lacksNormalForm = false := by
      cases sign <;> rfl
    rw [obstacle, reached, List.map_cons, List.find?_cons_of_neg (ne_true_of_eq_false hroot),
      List.map_append, List.find?_append, ihl, ihr]
  | scaled id scaling left right => cases scaling <;> rfl
  | round id mode operand => rfl
  | ternary id condition ifTrue otherwise => rfl

/-- Announcing a statement does not fail. -/
lemma failsWith_tryNormalize {s : Numeric A B f} {fault : Option Fault}
    (h : s.tryNormalizeNode.FailsWith fault) : s.tryNormalize.FailsWith fault := by
  intro σ
  rw [Attempt.fault?, run_tryNormalize]
  exact h { σ with messages := σ.messages ++ [.normalizing s.kind] }

/-- Normalizing a statement fails at its obstacle. -/
lemma failsWith_tryNormalizeNode (s : Numeric A B f) :
    s.tryNormalizeNode.FailsWith (s.obstacle.map .notImplemented) := by
  induction s with
  | literal value => exact fun _ => rfl
  | var v => exact fun _ => rfl
  | additive id sign left right ihl ihr =>
    have hoperands := (failsWith_tryNormalize ihl).bind fun first =>
      (failsWith_tryNormalize ihr).bind fun second => Attempt.failsWith_lift
        (joinAdditive id sign first second Normalized.changed Normalized.unchanged)
    rw [tryNormalizeNode, normalizeNodeWith_additive, obstacle, Option.map_or]
    rwa [Option.or_none] at hoperands
  | scaled id scaling left right => cases scaling <;> exact fun _ => rfl
  | round id mode operand => exact fun _ => rfl
  | ternary id condition ifTrue otherwise => exact fun _ => rfl

/-- Normalizing a statement fails with the fault of the leftmost statement that has no normal
form. -/
lemma failsWith_leftmostFault (s : Numeric A B f) :
    s.tryNormalizeNode.FailsWith s.leftmostFault := by
  rw [leftmostFault, ← obstacle_eq_find?]
  exact s.failsWith_tryNormalizeNode

end Numeric

/-! ### All ways to normalize -/

/-- The ways to have a statement normalized. -/
structure Normalizer (S : Type) where
  /-- Reports the outcome. -/
  report : Attempt (Normalized S)
  /-- Runs the continuation that applies to the outcome. -/
  resume : (T : Type) → (onNormalized onUnchanged : S → Work T) → Attempt T
  /-- Runs the continuation that applies to the outcome, if there is one. -/
  resumeOptional : (onNormalized onUnchanged : Option (S → Work S)) → Attempt S

/-- The ways to normalize a condition that announce its root. -/
def Boolean.normalizer {B : Type} (s : Boolean B) : Normalizer (Boolean B) :=
  ⟨s.tryNormalize, fun _ => s.normalizeWith, s.normalize⟩

/-- The ways to normalize a condition that do not announce its root. -/
def Boolean.nodeNormalizer {B : Type} (s : Boolean B) : Normalizer (Boolean B) :=
  ⟨s.tryNormalizeNode, fun _ => s.normalizeNodeWith, s.normalizeNode⟩

/-- The ways to normalize a numeric statement that announce its root. -/
def Numeric.normalizer {A B : Type} {f : Format} (s : Numeric A B f) :
    Normalizer (Numeric A B f) :=
  ⟨s.tryNormalize, fun _ => s.normalizeWith, s.normalize⟩

/-- The ways to normalize a numeric statement that do not announce its root. -/
def Numeric.nodeNormalizer {A B : Type} {f : Format} (s : Numeric A B f) :
    Normalizer (Numeric A B f) :=
  ⟨s.tryNormalizeNode, fun _ => s.normalizeNodeWith, s.normalizeNode⟩

namespace Normalizer

variable {S : Type}

/-- In every way, normalizing fails with `fault`, or never if there is no fault. If it fails, then
the session is left as if there were no continuations, so that neither of them has been run. -/
structure FailsWith (normalizer : Normalizer S) (fault : Option Fault) : Prop where
  report : normalizer.report.FailsWith fault
  resume (T : Type) (onNormalized onUnchanged : S → Work T) :
    (normalizer.resume T onNormalized onUnchanged).FailsWith fault ∧
      (normalizer.resume T onNormalized onUnchanged).FailsLike normalizer.report
  resumeOptional (onNormalized onUnchanged : Option (S → Work S)) :
    (normalizer.resumeOptional onNormalized onUnchanged).FailsWith fault ∧
      (normalizer.resumeOptional onNormalized onUnchanged).FailsLike normalizer.report

/-- If continuations are run on the reported outcome, then they play no part where the report
fails. -/
lemma FailsWith.of_report {normalizer : Normalizer S} {fault : Option Fault}
    (hreport : normalizer.report.FailsWith fault)
    (hresume : ∀ T onNormalized onUnchanged, normalizer.resume T onNormalized onUnchanged =
      normalizer.report >>= fun n => ExceptT.lift (n.proceed onNormalized onUnchanged))
    (hoptional : ∀ onNormalized onUnchanged, normalizer.resumeOptional onNormalized onUnchanged =
      normalizer.resume S (continueWith onNormalized) (continueWith onUnchanged)) :
    normalizer.FailsWith fault := by
  have hboth : ∀ (T : Type) (onNormalized onUnchanged : S → Work T),
      (normalizer.resume T onNormalized onUnchanged).FailsWith fault ∧
        (normalizer.resume T onNormalized onUnchanged).FailsLike normalizer.report := by
    intro T onNormalized onUnchanged
    rw [hresume]
    exact ⟨hreport.proceed onNormalized onUnchanged, Attempt.failsLike_bind _ _⟩
  refine ⟨hreport, hboth, ?_⟩
  intro onNormalized onUnchanged
  rw [hoptional]
  exact hboth S _ _

end Normalizer

/-- However a statement is normalized, it fails exactly if a statement of a kind that has no normal
form is reached from it, through sums and differences or through connectives alone. The fault names
the kind of the leftmost one, and no continuation is run. -/
theorem normalizer_failsWith_leftmostFault (A B : Type) (f : Format) :
    (∀ s : Numeric A B f, s.normalizer.FailsWith s.leftmostFault ∧
      s.nodeNormalizer.FailsWith s.leftmostFault) ∧
    ∀ s : Boolean B, s.normalizer.FailsWith s.leftmostFault ∧
      s.nodeNormalizer.FailsWith s.leftmostFault := by
  constructor
  · intro s
    have hnode := s.failsWith_leftmostFault
    constructor
    · exact .of_report (Numeric.failsWith_tryNormalize hnode)
        (fun _ => s.normalizeWith_eq) fun _ _ => rfl
    · exact .of_report hnode (fun _ => s.normalizeNodeWith_eq) fun _ _ => rfl
  · intro s
    have hnode := s.failsWith_leftmostFault
    constructor
    · exact .of_report (Boolean.failsWith_tryNormalize hnode)
        (fun _ => s.normalizeWith_eq) fun _ _ => rfl
    · exact .of_report hnode (fun _ => s.normalizeNodeWith_eq) fun _ _ => rfl

/-- A rounding is reached on the right after the operand on the left has been rewritten, and the
product behind it is not looked at. The continuations would have taken an identity and left a
message, but the last message announces the rounding. -/
theorem normalizer_failsWith_rounded_operand :
    let urgency := Quantity.urgency .double
    let impact := Quantity.impact .double
    let s : Quantity .double := .additive ⟨5⟩ .minus
      (.additive ⟨1⟩ .plus urgency (.additive ⟨0⟩ .plus impact urgency))
      (.additive ⟨4⟩ .plus (.round ⟨2⟩ .ceiling urgency) (.scaled ⟨3⟩ .multiply impact urgency))
    let mark (r : Quantity .double) : Work (Quantity .double) := do
      record (.createdAdditive r.text)
      Numeric.newRound .floor r
    s.leftmostFault = some (.notImplemented .round) ∧
      ∃ σ', (s.normalizeWith mark mark).run.run ⟨6, []⟩ = (.error (.notImplemented .round), σ') ∧
        σ'.nextIndex = 8 ∧ σ'.messages.getLast? = some (.normalizing .round) := by
  intro urgency impact s mark
  have hfails := ((normalizer_failsWith_leftmostFault _ _ _).1 s).1
  exact ⟨rfl, _, (hfails.resume _ mark mark).2 ⟨6, []⟩ _ _ rfl, rfl, rfl⟩

end PriorityFormula
