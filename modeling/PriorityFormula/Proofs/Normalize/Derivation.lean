import PriorityFormula.Normalize.Boolean
import PriorityFormula.Normalize.Numeric
import PriorityFormula.Proofs.Chain.Additive
import PriorityFormula.Proofs.Chain.Logical

/-!
# How normal forms come about

Where normalizing succeeds, the outcome is derived from the outcomes of the operands by one of two
rules: a compound statement is kept with its identity, or its right operand is merged into a chain
with fresh identities. The relation `Normalizes` has these two rules and one for each kind of leaf.
It says which identity is next before and after, and it leaves the messages out. Properties of
normal forms are proved by induction on it.

Continuations add nothing to this: normalizing with continuations is normalizing, and then going on
with the continuation that applies.
-/

namespace PriorityFormula

/-- Goes on with the continuation that applies to an outcome. -/
def Normalized.proceed {S T : Type} (n : Normalized S) (onNormalized onUnchanged : S → Work T) :
    Work T :=
  if n.wasNormalized then onNormalized n.statement else onUnchanged n.statement

/-! ### Conditions -/

namespace Boolean

variable {B : Type}

/-- `Normalizes index s n last`: the condition `s` has the outcome `n`, where `index` is the next
identity before and `last` is the next one after. -/
inductive Normalizes : Nat → Boolean B → Normalized (Boolean B) → Nat → Prop
  | literal (index : Nat) (value : Bool) :
    Normalizes index (literal value) ⟨literal value, false⟩ index
  | var (index : Nat) (v : Variable B) : Normalizes index (var v) ⟨var v, false⟩ index
  /-- A right operand that is not joined by the same connective stays where it is. -/
  | kept {index middle last : Nat} (id : Id) (connective : Connective) {left right : Boolean B}
    {first second : Normalized (Boolean B)} (hleft : Normalizes index left first middle)
    (hright : Normalizes middle right second last)
    (hjoined : second.statement.joinedBy connective = false) :
    Normalizes index (joined id connective left right)
      ⟨joined id connective first.statement second.statement,
        first.wasNormalized || second.wasNormalized⟩ last
  /-- A right operand that is joined by the same connective gives up its parts. -/
  | merged {index middle last : Nat} (id : Id) (connective : Connective) {left right : Boolean B}
    {first second : Normalized (Boolean B)} (hleft : Normalizes index left first middle)
    (hright : Normalizes middle right second last)
    (hjoined : second.statement.joinedBy connective = true) :
    Normalizes index (joined id connective left right)
      ⟨chainFrom connective last first.statement (second.statement.parts connective), true⟩
      (last + (second.statement.parts connective).length)

/-- A joined condition is put together after its operands were normalized from left to right. -/
lemma normalizeNodeWith_joined {T : Type} (id : Id) (connective : Connective)
    (left right : Boolean B) (onNormalized onUnchanged : Boolean B → Work T) :
    (joined id connective left right).normalizeNodeWith onNormalized onUnchanged = (do
      let first ← left.tryNormalize
      let second ← right.tryNormalize
      ExceptT.lift (joinLogical id connective first second onNormalized onUnchanged)) := by
  simp only [normalizeNodeWith, tryNormalize, normalizeWith, bind_assoc]

/-- Announcing a condition only adds a message. -/
lemma run_tryNormalize (s : Boolean B) (σ : Session) :
    s.tryNormalize.run.run σ = s.tryNormalizeNode.run.run
      { σ with messages := σ.messages ++ [.normalizing s.kind] } := rfl

/-- A right operand that is not joined by the connective is put into its place. -/
lemma run_joinLogical_of_not_joinedBy {connective : Connective} {second : Normalized (Boolean B)}
    (h : second.statement.joinedBy connective = false) (id : Id) (first : Normalized (Boolean B))
    (σ : Session) :
    (joinLogical id connective first second Normalized.changed Normalized.unchanged).run σ =
      (⟨joined id connective first.statement second.statement,
        first.wasNormalized || second.wasNormalized⟩, σ) := by
  rw [joinLogical, if_neg (ne_true_of_eq_false h)]
  cases first.wasNormalized || second.wasNormalized <;> rfl

/-- A right operand that is joined by the connective becomes a chain behind the left one. -/
lemma run_joinLogical_of_joinedBy {connective : Connective} {second : Normalized (Boolean B)}
    (h : second.statement.joinedBy connective = true) (id : Id) (first : Normalized (Boolean B))
    (σ : Session) :
    let chain :=
      chainFrom connective σ.nextIndex first.statement (second.statement.parts connective)
    (joinLogical id connective first second Normalized.changed Normalized.unchanged).run σ =
      (⟨chain, true⟩, ⟨σ.nextIndex + (second.statement.parts connective).length,
        σ.messages ++ [.mergedLogical connective chain.text]⟩) := by
  rw [joinLogical, if_pos h, StateT.run_bind, run_attachParts]
  rfl

/-- Whatever is reported as the outcome of a condition is derived. -/
lemma normalizes_of_tryNormalizeNode_eq_ok {s : Boolean B} {n : Normalized (Boolean B)}
    {σ σ' : Session} (h : s.tryNormalizeNode.run.run σ = (.ok n, σ')) :
    Normalizes σ.nextIndex s n σ'.nextIndex := by
  induction s generalizing n σ σ' with
  | literal value =>
    cases h
    exact .literal _ value
  | var v =>
    cases h
    exact .var _ v
  | joined id connective left right ihl ihr =>
    rw [tryNormalizeNode, normalizeNodeWith_joined] at h
    obtain ⟨first, σ₁, hfirst, hrest⟩ := Attempt.exists_of_run_bind_eq_ok h
    obtain ⟨second, σ₂, hsecond, hjoin⟩ := Attempt.exists_of_run_bind_eq_ok hrest
    rw [run_tryNormalize] at hfirst hsecond
    have hleft := ihl hfirst
    have hright := ihr hsecond
    rw [Attempt.run_lift] at hjoin
    cases hjoined : second.statement.joinedBy connective with
    | false =>
      rw [run_joinLogical_of_not_joinedBy hjoined] at hjoin
      cases hjoin
      exact .kept id connective hleft hright hjoined
    | true =>
      rw [run_joinLogical_of_joinedBy hjoined] at hjoin
      cases hjoin
      exact .merged id connective hleft hright hjoined
  | ternary id condition ifTrue otherwise => cases h

/-- The same holds where the condition is announced. -/
lemma normalizes_of_tryNormalize_eq_ok {s : Boolean B} {n : Normalized (Boolean B)}
    {σ σ' : Session} (h : s.tryNormalize.run.run σ = (.ok n, σ')) :
    Normalizes σ.nextIndex s n σ'.nextIndex := by
  rw [run_tryNormalize] at h
  have hderived := normalizes_of_tryNormalizeNode_eq_ok h
  exact hderived

/-- A derived outcome is reported. -/
lemma Normalizes.exists_run_tryNormalize_eq {s : Boolean B} {n : Normalized (Boolean B)}
    {index last : Nat} (h : Normalizes index s n last) (messages : List Message) :
    ∃ messages', s.tryNormalize.run.run ⟨index, messages⟩ = (.ok n, ⟨last, messages'⟩) := by
  induction h generalizing messages with
  | literal index value => exact ⟨_, rfl⟩
  | var index v => exact ⟨_, rfl⟩
  | kept id connective hleft hright hjoined ihl ihr =>
    rw [run_tryNormalize, tryNormalizeNode, normalizeNodeWith_joined]
    obtain ⟨_, hfirst⟩ := ihl _
    obtain ⟨_, hsecond⟩ := ihr _
    rw [Attempt.run_bind_of_ok hfirst, Attempt.run_bind_of_ok hsecond, Attempt.run_lift,
      run_joinLogical_of_not_joinedBy hjoined]
    exact ⟨_, rfl⟩
  | merged id connective hleft hright hjoined ihl ihr =>
    rw [run_tryNormalize, tryNormalizeNode, normalizeNodeWith_joined]
    obtain ⟨_, hfirst⟩ := ihl _
    obtain ⟨_, hsecond⟩ := ihr _
    rw [Attempt.run_bind_of_ok hfirst, Attempt.run_bind_of_ok hsecond, Attempt.run_lift,
      run_joinLogical_of_joinedBy hjoined]
    exact ⟨_, rfl⟩

/-- Normalizing does not change which connective joins a condition. -/
lemma Normalizes.joinedBy_eq {s : Boolean B} {n : Normalized (Boolean B)} {index last : Nat}
    (h : Normalizes index s n last) (connective : Connective) :
    n.statement.joinedBy connective = s.joinedBy connective := by
  cases h with
  | literal index value => rfl
  | var index v => rfl
  | kept id own hleft hright hjoined => rfl
  | merged id own hleft hright hjoined =>
    exact joinedBy_chainFrom own connective (parts_ne_nil own _) _ _

/-- Putting a condition together with continuations is putting it together, and then going on. -/
lemma joinLogical_eq {T : Type} (id : Id) (connective : Connective)
    (first second : Normalized (Boolean B)) (onNormalized onUnchanged : Boolean B → Work T) :
    joinLogical id connective first second onNormalized onUnchanged = (do
      let n ← joinLogical id connective first second Normalized.changed Normalized.unchanged
      n.proceed onNormalized onUnchanged) := by
  rw [joinLogical, joinLogical]
  split
  · simp only [bind_assoc]
    rfl
  · cases first.wasNormalized || second.wasNormalized <;> rfl

/-- Normalizing a condition with continuations is normalizing it, and then going on. -/
lemma normalizeNodeWith_eq {T : Type} (s : Boolean B)
    (onNormalized onUnchanged : Boolean B → Work T) :
    s.normalizeNodeWith onNormalized onUnchanged = (do
      let n ← s.tryNormalizeNode
      ExceptT.lift (n.proceed onNormalized onUnchanged)) := by
  cases s with
  | literal value => rfl
  | var v => rfl
  | joined id connective left right =>
    rw [tryNormalizeNode, normalizeNodeWith_joined, normalizeNodeWith_joined]
    simp only [bind_assoc]
    refine bind_congr fun first => bind_congr fun second => ?_
    rw [joinLogical_eq]
    rfl
  | ternary id condition ifTrue otherwise => rfl

/-- Normalizing an announced condition with continuations is normalizing it, and then going on. -/
lemma normalizeWith_eq {T : Type} (s : Boolean B) (onNormalized onUnchanged : Boolean B → Work T) :
    s.normalizeWith onNormalized onUnchanged = (do
      let n ← s.tryNormalize
      ExceptT.lift (n.proceed onNormalized onUnchanged)) := by
  rw [tryNormalize, normalizeWith, normalizeWith, normalizeNodeWith_eq, bind_assoc]
  rfl

end Boolean

/-! ### Numeric statements -/

namespace Numeric

variable {A B : Type} {f : Format}

/-- `Normalizes index s n last`: the statement `s` has the outcome `n`, where `index` is the next
identity before and `last` is the next one after. -/
inductive Normalizes : Nat → Numeric A B f → Normalized (Numeric A B f) → Nat → Prop
  | literal (index : Nat) (value : FiniteNumber f) :
    Normalizes index (literal value) ⟨literal value, false⟩ index
  | var (index : Nat) (v : Variable A) : Normalizes index (var v) ⟨var v, false⟩ index
  /-- A right operand that need not be merged stays where it is. -/
  | kept {index middle last : Nat} (id : Id) (sign : Sign) {left right : Numeric A B f}
    {first second : Normalized (Numeric A B f)} (hleft : Normalizes index left first middle)
    (hright : Normalizes middle right second last)
    (hmergeable : second.statement.isMergeable = false) :
    Normalizes index (additive id sign left right)
      ⟨additive id sign first.statement second.statement,
        first.wasNormalized || second.wasNormalized⟩ last
  /-- A right operand that has to be merged gives up its signed terms. -/
  | merged {index middle last : Nat} (id : Id) (sign : Sign) {left right : Numeric A B f}
    {first second : Normalized (Numeric A B f)} (hleft : Normalizes index left first middle)
    (hright : Normalizes middle right second last)
    (hmergeable : second.statement.isMergeable = true) :
    Normalizes index (additive id sign left right)
      ⟨chainFrom last first.statement (second.statement.terms sign), true⟩
      (last + (second.statement.terms sign).length)

/-- A sum or difference is put together after its operands were normalized from left to right. -/
lemma normalizeNodeWith_additive {T : Type} (id : Id) (sign : Sign) (left right : Numeric A B f)
    (onNormalized onUnchanged : Numeric A B f → Work T) :
    (additive id sign left right).normalizeNodeWith onNormalized onUnchanged = (do
      let first ← left.tryNormalize
      let second ← right.tryNormalize
      ExceptT.lift (joinAdditive id sign first second onNormalized onUnchanged)) := by
  simp only [normalizeNodeWith, tryNormalize, normalizeWith, bind_assoc]

/-- Announcing a statement only adds a message. -/
lemma run_tryNormalize (s : Numeric A B f) (σ : Session) :
    s.tryNormalize.run.run σ = s.tryNormalizeNode.run.run
      { σ with messages := σ.messages ++ [.normalizing s.kind] } := rfl

/-- A right operand that need not be merged is put into its place. -/
lemma run_joinAdditive_of_not_isMergeable {second : Normalized (Numeric A B f)}
    (h : second.statement.isMergeable = false) (id : Id) (sign : Sign)
    (first : Normalized (Numeric A B f)) (σ : Session) :
    (joinAdditive id sign first second Normalized.changed Normalized.unchanged).run σ =
      (⟨additive id sign first.statement second.statement,
        first.wasNormalized || second.wasNormalized⟩, σ) := by
  rw [joinAdditive, if_neg (ne_true_of_eq_false h)]
  cases first.wasNormalized || second.wasNormalized <;> rfl

/-- A right operand that has to be merged becomes a chain behind the left one. -/
lemma run_joinAdditive_of_isMergeable {second : Normalized (Numeric A B f)}
    (h : second.statement.isMergeable = true) (id : Id) (sign : Sign)
    (first : Normalized (Numeric A B f)) (σ : Session) :
    let chain := chainFrom σ.nextIndex first.statement (second.statement.terms sign)
    (joinAdditive id sign first second Normalized.changed Normalized.unchanged).run σ =
      (⟨chain, true⟩, ⟨σ.nextIndex + (second.statement.terms sign).length,
        σ.messages ++ [.mergedAdditive chain.text]⟩) := by
  rw [joinAdditive, if_pos h, StateT.run_bind, run_attachTerms]
  rfl

/-- Whatever is reported as the outcome of a statement is derived. -/
lemma normalizes_of_tryNormalizeNode_eq_ok {s : Numeric A B f} {n : Normalized (Numeric A B f)}
    {σ σ' : Session} (h : s.tryNormalizeNode.run.run σ = (.ok n, σ')) :
    Normalizes σ.nextIndex s n σ'.nextIndex := by
  induction s generalizing n σ σ' with
  | literal value =>
    cases h
    exact .literal _ value
  | var v =>
    cases h
    exact .var _ v
  | additive id sign left right ihl ihr =>
    rw [tryNormalizeNode, normalizeNodeWith_additive] at h
    obtain ⟨first, σ₁, hfirst, hrest⟩ := Attempt.exists_of_run_bind_eq_ok h
    obtain ⟨second, σ₂, hsecond, hjoin⟩ := Attempt.exists_of_run_bind_eq_ok hrest
    rw [run_tryNormalize] at hfirst hsecond
    have hleft := ihl hfirst
    have hright := ihr hsecond
    rw [Attempt.run_lift] at hjoin
    cases hmergeable : second.statement.isMergeable with
    | false =>
      rw [run_joinAdditive_of_not_isMergeable hmergeable] at hjoin
      cases hjoin
      exact .kept id sign hleft hright hmergeable
    | true =>
      rw [run_joinAdditive_of_isMergeable hmergeable] at hjoin
      cases hjoin
      exact .merged id sign hleft hright hmergeable
  | scaled id scaling left right => cases scaling <;> cases h
  | round id mode operand => cases h
  | ternary id condition ifTrue otherwise => cases h

/-- The same holds where the statement is announced. -/
lemma normalizes_of_tryNormalize_eq_ok {s : Numeric A B f} {n : Normalized (Numeric A B f)}
    {σ σ' : Session} (h : s.tryNormalize.run.run σ = (.ok n, σ')) :
    Normalizes σ.nextIndex s n σ'.nextIndex := by
  rw [run_tryNormalize] at h
  have hderived := normalizes_of_tryNormalizeNode_eq_ok h
  exact hderived

/-- A derived outcome is reported. -/
lemma Normalizes.exists_run_tryNormalize_eq {s : Numeric A B f} {n : Normalized (Numeric A B f)}
    {index last : Nat} (h : Normalizes index s n last) (messages : List Message) :
    ∃ messages', s.tryNormalize.run.run ⟨index, messages⟩ = (.ok n, ⟨last, messages'⟩) := by
  induction h generalizing messages with
  | literal index value => exact ⟨_, rfl⟩
  | var index v => exact ⟨_, rfl⟩
  | kept id sign hleft hright hmergeable ihl ihr =>
    rw [run_tryNormalize, tryNormalizeNode, normalizeNodeWith_additive]
    obtain ⟨_, hfirst⟩ := ihl _
    obtain ⟨_, hsecond⟩ := ihr _
    rw [Attempt.run_bind_of_ok hfirst, Attempt.run_bind_of_ok hsecond, Attempt.run_lift,
      run_joinAdditive_of_not_isMergeable hmergeable]
    exact ⟨_, rfl⟩
  | merged id sign hleft hright hmergeable ihl ihr =>
    rw [run_tryNormalize, tryNormalizeNode, normalizeNodeWith_additive]
    obtain ⟨_, hfirst⟩ := ihl _
    obtain ⟨_, hsecond⟩ := ihr _
    rw [Attempt.run_bind_of_ok hfirst, Attempt.run_bind_of_ok hsecond, Attempt.run_lift,
      run_joinAdditive_of_isMergeable hmergeable]
    exact ⟨_, rfl⟩

/-- Normalizing does not change whether a statement is a sum or difference, nor whether it is a
literal below zero. -/
lemma Normalizes.isMergeable_eq {s : Numeric A B f} {n : Normalized (Numeric A B f)}
    {index last : Nat} (h : Normalizes index s n last) :
    n.statement.isMergeable = s.isMergeable := by
  cases h with
  | literal index value => rfl
  | var index v => rfl
  | kept id sign hleft hright hmergeable => rfl
  | merged id sign hleft hright hmergeable =>
    rw [isMergeable, isAdditive_chainFrom (terms_ne_nil sign _)]
    rfl

/-- Putting a sum or difference together with continuations is putting it together, and then going
on. -/
lemma joinAdditive_eq {T : Type} (id : Id) (sign : Sign) (first second : Normalized (Numeric A B f))
    (onNormalized onUnchanged : Numeric A B f → Work T) :
    joinAdditive id sign first second onNormalized onUnchanged = (do
      let n ← joinAdditive id sign first second Normalized.changed Normalized.unchanged
      n.proceed onNormalized onUnchanged) := by
  rw [joinAdditive, joinAdditive]
  split
  · simp only [bind_assoc]
    rfl
  · cases first.wasNormalized || second.wasNormalized <;> rfl

/-- Normalizing a statement with continuations is normalizing it, and then going on. -/
lemma normalizeNodeWith_eq {T : Type} (s : Numeric A B f)
    (onNormalized onUnchanged : Numeric A B f → Work T) :
    s.normalizeNodeWith onNormalized onUnchanged = (do
      let n ← s.tryNormalizeNode
      ExceptT.lift (n.proceed onNormalized onUnchanged)) := by
  cases s with
  | literal value => rfl
  | var v => rfl
  | additive id sign left right =>
    rw [tryNormalizeNode, normalizeNodeWith_additive, normalizeNodeWith_additive]
    simp only [bind_assoc]
    refine bind_congr fun first => bind_congr fun second => ?_
    rw [joinAdditive_eq]
    rfl
  | scaled id scaling left right => cases scaling <;> rfl
  | round id mode operand => rfl
  | ternary id condition ifTrue otherwise => rfl

/-- Normalizing an announced statement with continuations is normalizing it, and then going on. -/
lemma normalizeWith_eq {T : Type} (s : Numeric A B f)
    (onNormalized onUnchanged : Numeric A B f → Work T) :
    s.normalizeWith onNormalized onUnchanged = (do
      let n ← s.tryNormalize
      ExceptT.lift (n.proceed onNormalized onUnchanged)) := by
  rw [tryNormalize, normalizeWith, normalizeWith, normalizeNodeWith_eq, bind_assoc]
  rfl

end Numeric

end PriorityFormula
