import Mathlib.Tactic.Lemma
import PriorityFormula.Session

/-!
# Runs in a session

Work is run from a session and ends in one. Work that can fail ends in a session also when it fails,
so the run of one piece of work after another is known from their own runs.
-/

namespace PriorityFormula

variable {α β : Type}

/-- Taking an identity takes the next one. -/
lemma run_freshId (σ : Session) :
    freshId.run σ = (⟨σ.nextIndex⟩, { σ with nextIndex := σ.nextIndex + 1 }) := rfl

namespace Attempt

/-- Work that cannot fail succeeds. -/
lemma run_lift (work : Work α) (σ : Session) :
    (ExceptT.lift work : Attempt α).run.run σ = (.ok (work.run σ).1, (work.run σ).2) := rfl

/-- A result that may be a fault leaves the session as it is. -/
lemma run_liftM (result : Except Fault α) (σ : Session) :
    (liftM result : Attempt α).run.run σ = (result, σ) := by
  cases result <;> rfl

/-- Work that succeeds goes on with its result. -/
lemma run_bind_of_ok {x : Attempt α} {next : α → Attempt β} {σ σ' : Session} {a : α}
    (h : x.run.run σ = (.ok a, σ')) : (x >>= next).run.run σ = (next a).run.run σ' := by
  show ((x.run >>= ExceptT.bindCont next).run σ) = _
  rw [StateT.run_bind, h]
  rfl

/-- Work that fails does not go on. -/
lemma run_bind_of_error {x : Attempt α} {next : α → Attempt β} {σ σ' : Session} {fault : Fault}
    (h : x.run.run σ = (.error fault, σ')) : (x >>= next).run.run σ = (.error fault, σ') := by
  show ((x.run >>= ExceptT.bindCont next).run σ) = _
  rw [StateT.run_bind, h]
  rfl

/-- Where work that ended leads to, if work that cannot fail follows its result. -/
def follow (ended : Except Fault α × Session) (next : α → Work β) : Except Fault β × Session :=
  match ended with
  | (.ok a, σ) => (.ok ((next a).run σ).1, ((next a).run σ).2)
  | (.error fault, σ) => (.error fault, σ)

/-- Work that cannot fail follows the result of other work, if there is one. -/
lemma run_bind_lift (x : Attempt α) (next : α → Work β) (σ : Session) :
    (x >>= fun a => ExceptT.lift (next a) : Attempt β).run.run σ = follow (x.run.run σ) next := by
  obtain ⟨result, σ', hrun⟩ : ∃ result σ', x.run.run σ = (result, σ') := ⟨_, _, rfl⟩
  cases result with
  | ok a => rw [run_bind_of_ok hrun, run_lift, hrun]; rfl
  | error fault => rw [run_bind_of_error hrun, hrun]; rfl

/-- If two pieces of work succeed one after the other, then each of them does. -/
lemma exists_of_run_bind_eq_ok {x : Attempt α} {next : α → Attempt β} {σ σ'' : Session} {b : β}
    (h : (x >>= next).run.run σ = (.ok b, σ'')) :
    ∃ a σ', x.run.run σ = (.ok a, σ') ∧ (next a).run.run σ' = (.ok b, σ'') := by
  obtain ⟨result, σ', hx⟩ : ∃ result σ', x.run.run σ = (result, σ') := ⟨_, _, rfl⟩
  cases result with
  | ok a => exact ⟨a, σ', hx, (run_bind_of_ok hx).symm.trans h⟩
  | error fault =>
    rw [run_bind_of_error hx] at h
    cases h

/-- Work that never gives identities back, also if it fails. -/
def Ascends (x : Attempt α) : Prop :=
  ∀ σ, σ.nextIndex ≤ (x.run.run σ).2.nextIndex

lemma Ascends.bind {x : Attempt α} {next : α → Attempt β} (hx : x.Ascends)
    (hnext : ∀ a, (next a).Ascends) : (x >>= next).Ascends := by
  intro σ
  have hfirst := hx σ
  obtain ⟨result, σ', hrun⟩ : ∃ result σ', x.run.run σ = (result, σ') := ⟨_, _, rfl⟩
  rw [hrun] at hfirst
  cases result with
  | ok a =>
    rw [run_bind_of_ok hrun]
    exact Nat.le_trans hfirst (hnext a σ')
  | error fault =>
    rw [run_bind_of_error hrun]
    exact hfirst

end Attempt

end PriorityFormula
