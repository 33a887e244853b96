import PriorityFormula.Context
import PriorityFormula.Proofs.Normalize.Failure

/-!
# Going on from a normal form

There are several ways to have a statement normalized, and all of them do the same. Continuations
play no part while a statement is normalized, nor while its operands are: only when the outcome is
there, with all identities taken and all messages recorded, is the one that applies run on it. The
functions that speak of a node leave out the announcement of the root and nothing else, because no
step looks at what was recorded before.
-/

namespace PriorityFormula

variable {α β : Type}

/-! ### Work that does not look at the recorded messages -/

/-- Work that goes on in the same way whatever has been recorded, and adds to it at the end. -/
def Work.IgnoresLog (work : Work α) : Prop :=
  ∀ index, ∃ a last added, ∀ messages, work.run ⟨index, messages⟩ = (a, ⟨last, messages ++ added⟩)

namespace Work

lemma ignoresLog_pure (a : α) : IgnoresLog (pure a : Work α) :=
  fun index => ⟨a, index, [], fun messages => by rw [List.append_nil]; rfl⟩

lemma ignoresLog_record (message : Message) : IgnoresLog (record message) :=
  fun index => ⟨(), index, [message], fun _ => rfl⟩

lemma ignoresLog_freshId : IgnoresLog freshId :=
  fun index => ⟨⟨index⟩, index + 1, [], fun messages => by rw [List.append_nil]; rfl⟩

lemma IgnoresLog.bind {work : Work α} {next : α → Work β} (hwork : work.IgnoresLog)
    (hnext : ∀ a, (next a).IgnoresLog) : IgnoresLog (work >>= next) := by
  intro index
  obtain ⟨a, last, added, hrun⟩ := hwork index
  obtain ⟨b, last', added', hrun'⟩ := hnext a last
  refine ⟨b, last', added ++ added', fun messages => ?_⟩
  rw [StateT.run_bind, hrun]
  exact (hrun' _).trans (by rw [List.append_assoc])

end Work

namespace Attempt

/-- Work that may fail and goes on in the same way whatever has been recorded. -/
def IgnoresLog (x : Attempt α) : Prop :=
  Work.IgnoresLog x.run

lemma ignoresLog_lift {work : Work α} (h : work.IgnoresLog) :
    IgnoresLog (ExceptT.lift work) := by
  intro index
  obtain ⟨a, last, added, hrun⟩ := h index
  refine ⟨.ok a, last, added, fun messages => ?_⟩
  rw [run_lift, hrun]

lemma ignoresLog_throw (fault : Fault) : IgnoresLog (throw fault : Attempt α) :=
  fun index => ⟨.error fault, index, [], fun messages => by rw [List.append_nil]; rfl⟩

lemma IgnoresLog.bind {x : Attempt α} {next : α → Attempt β} (hx : x.IgnoresLog)
    (hnext : ∀ a, (next a).IgnoresLog) : (x >>= next).IgnoresLog := by
  intro index
  obtain ⟨result, last, added, hrun⟩ := hx index
  cases result with
  | ok a =>
    obtain ⟨result', last', added', hrun'⟩ := hnext a last
    refine ⟨result', last', added ++ added', fun messages => ?_⟩
    rw [run_bind_of_ok (hrun messages), hrun', List.append_assoc]
  | error fault => exact ⟨.error fault, last, added, fun messages => run_bind_of_error (hrun messages)⟩

/-- From every session, `announcing` gives the same result and takes the same identities as `plain`,
and it records the same messages, but for the announcement of a kind in front of them. -/
def OnlyAnnounces (announcing plain : Attempt α) (kind : Kind) : Prop :=
  ∀ σ, ∃ result last added, plain.run.run σ = (result, ⟨last, σ.messages ++ added⟩) ∧
    announcing.run.run σ = (result, ⟨last, σ.messages ++ .normalizing kind :: added⟩)

/-- Announcing a kind in front of work that does not look at the recorded messages only adds the
announcement. -/
lemma IgnoresLog.onlyAnnounces {announcing plain : Attempt α} {kind : Kind}
    (hplain : plain.IgnoresLog)
    (h : ∀ σ, announcing.run.run σ =
      plain.run.run { σ with messages := σ.messages ++ [.normalizing kind] }) :
    announcing.OnlyAnnounces plain kind := by
  intro σ
  obtain ⟨result, last, added, hrun⟩ := hplain σ.nextIndex
  refine ⟨result, last, added, hrun σ.messages, ?_⟩
  rw [h, hrun, List.append_assoc, List.singleton_append]

end Attempt

/-- Going on with an outcome does not look at the recorded messages if the continuations do not. -/
lemma Normalized.ignoresLog_proceed {S T : Type} {onNormalized onUnchanged : S → Work T}
    (hnormalized : ∀ s, (onNormalized s).IgnoresLog) (hunchanged : ∀ s, (onUnchanged s).IgnoresLog)
    (n : Normalized S) : (n.proceed onNormalized onUnchanged).IgnoresLog := by
  rw [proceed]
  split
  · exact hnormalized _
  · exact hunchanged _

/-- Running a continuation, if there is one, does not look at the recorded messages if the
continuation does not. -/
lemma ignoresLog_continueWith {S : Type} {continuation : Option (S → Work S)}
    (h : ∀ next ∈ continuation, ∀ s, (next s).IgnoresLog) (s : S) :
    (continueWith continuation s).IgnoresLog := by
  cases continuation with
  | none => exact Work.ignoresLog_pure s
  | some next => exact h next rfl s

/-! ### Conditions -/

namespace Boolean

variable {B : Type}

lemma ignoresLog_attachParts (connective : Connective) (head : Boolean B) (ps : List (Boolean B)) :
    (head.attachParts connective ps).IgnoresLog := by
  induction ps generalizing head with
  | nil => exact Work.ignoresLog_pure head
  | cons p ps ih => exact Work.ignoresLog_freshId.bind fun id => ih _

lemma ignoresLog_joinLogical (id : Id) (connective : Connective)
    (first second : Normalized (Boolean B)) :
    (joinLogical id connective first second Normalized.changed
      Normalized.unchanged).IgnoresLog := by
  rw [joinLogical]
  split
  · refine (ignoresLog_attachParts _ _ _).bind fun chain => ?_
    exact (Work.ignoresLog_record _).bind fun _ => Work.ignoresLog_pure _
  · split <;> exact Work.ignoresLog_pure _

/-- Normalizing a condition without announcing it does not look at the recorded messages. -/
lemma ignoresLog_tryNormalizeNode (s : Boolean B) : s.tryNormalizeNode.IgnoresLog := by
  induction s with
  | literal value => exact Attempt.ignoresLog_lift (Work.ignoresLog_pure _)
  | var v => exact Attempt.ignoresLog_lift (Work.ignoresLog_pure _)
  | joined id connective left right ihl ihr =>
    have hannounced : ∀ {s : Boolean B}, s.tryNormalizeNode.IgnoresLog →
        s.tryNormalize.IgnoresLog :=
      fun h => (Attempt.ignoresLog_lift (Work.ignoresLog_record _)).bind fun _ => h
    rw [tryNormalizeNode, normalizeNodeWith_joined]
    refine (hannounced ihl).bind fun first => (hannounced ihr).bind fun second => ?_
    exact Attempt.ignoresLog_lift (ignoresLog_joinLogical id connective first second)
  | ternary id condition ifTrue otherwise => exact Attempt.ignoresLog_throw _

end Boolean

/-! ### Numeric statements -/

namespace Numeric

variable {A B : Type} {f : Format}

lemma ignoresLog_attachTerms (head : Numeric A B f) (ts : List (Sign × Numeric A B f)) :
    (head.attachTerms ts).IgnoresLog := by
  induction ts generalizing head with
  | nil => exact Work.ignoresLog_pure head
  | cons t ts ih => exact Work.ignoresLog_freshId.bind fun id => ih _

lemma ignoresLog_joinAdditive (id : Id) (sign : Sign) (first second : Normalized (Numeric A B f)) :
    (joinAdditive id sign first second Normalized.changed Normalized.unchanged).IgnoresLog := by
  rw [joinAdditive]
  split
  · refine (ignoresLog_attachTerms _ _).bind fun chain => ?_
    exact (Work.ignoresLog_record _).bind fun _ => Work.ignoresLog_pure _
  · split <;> exact Work.ignoresLog_pure _

/-- Normalizing a statement without announcing it does not look at the recorded messages. -/
lemma ignoresLog_tryNormalizeNode (s : Numeric A B f) : s.tryNormalizeNode.IgnoresLog := by
  induction s with
  | literal value => exact Attempt.ignoresLog_lift (Work.ignoresLog_pure _)
  | var v => exact Attempt.ignoresLog_lift (Work.ignoresLog_pure _)
  | additive id sign left right ihl ihr =>
    have hannounced : ∀ {s : Numeric A B f}, s.tryNormalizeNode.IgnoresLog →
        s.tryNormalize.IgnoresLog :=
      fun h => (Attempt.ignoresLog_lift (Work.ignoresLog_record _)).bind fun _ => h
    rw [tryNormalizeNode, normalizeNodeWith_additive]
    refine (hannounced ihl).bind fun first => (hannounced ihr).bind fun second => ?_
    exact Attempt.ignoresLog_lift (ignoresLog_joinAdditive id sign first second)
  | scaled id scaling left right => cases scaling <;> exact Attempt.ignoresLog_throw _
  | round id mode operand => exact Attempt.ignoresLog_throw _
  | ternary id condition ifTrue otherwise => exact Attempt.ignoresLog_throw _

end Numeric

/-! ### All ways to normalize -/

namespace Normalizer

variable {S : Type}

/-- Continuations come after all else. If the report fails, then so does normalizing with
continuations, in the same session. Otherwise the continuation for the reported outcome is run on
the reported statement in the session that the report ends in, and this is the result. A missing
continuation leaves the statement as it is. -/
structure Resumes (normalizer : Normalizer S) : Prop where
  resume (T : Type) (onNormalized onUnchanged : S → Work T) (σ : Session) :
    (normalizer.resume T onNormalized onUnchanged).run.run σ =
      Attempt.follow (normalizer.report.run.run σ) fun n =>
        if n.wasNormalized then onNormalized n.statement else onUnchanged n.statement
  resumeOptional (onNormalized onUnchanged : Option (S → Work S)) (σ : Session) :
    (normalizer.resumeOptional onNormalized onUnchanged).run.run σ =
      Attempt.follow (normalizer.report.run.run σ) fun n =>
        match if n.wasNormalized then onNormalized else onUnchanged with
        | some continuation => continuation n.statement
        | none => pure n.statement

/-- In every way, `announcing` only adds the announcement of a kind to `plain`. This holds for all
continuations that do not look at the recorded messages; those that do find the announcement
there. -/
structure OnlyAnnounces (announcing plain : Normalizer S) (kind : Kind) : Prop where
  report : announcing.report.OnlyAnnounces plain.report kind
  resume (T : Type) (onNormalized onUnchanged : S → Work T)
    (hnormalized : ∀ s, (onNormalized s).IgnoresLog)
    (hunchanged : ∀ s, (onUnchanged s).IgnoresLog) :
    (announcing.resume T onNormalized onUnchanged).OnlyAnnounces
      (plain.resume T onNormalized onUnchanged) kind
  resumeOptional (onNormalized onUnchanged : Option (S → Work S))
    (hnormalized : ∀ next ∈ onNormalized, ∀ s, (next s).IgnoresLog)
    (hunchanged : ∀ next ∈ onUnchanged, ∀ s, (next s).IgnoresLog) :
    (announcing.resumeOptional onNormalized onUnchanged).OnlyAnnounces
      (plain.resumeOptional onNormalized onUnchanged) kind
  resume_announced (T : Type) (onNormalized onUnchanged : S → Work T) (σ : Session) :
    (announcing.resume T onNormalized onUnchanged).run.run σ =
      (plain.resume T onNormalized onUnchanged).run.run
        { σ with messages := σ.messages ++ [.normalizing kind] }
  resumeOptional_announced (onNormalized onUnchanged : Option (S → Work S)) (σ : Session) :
    (announcing.resumeOptional onNormalized onUnchanged).run.run σ =
      (plain.resumeOptional onNormalized onUnchanged).run.run
        { σ with messages := σ.messages ++ [.normalizing kind] }

/-- If continuations are run on the reported outcome, then they come after all else. -/
lemma Resumes.of_report {normalizer : Normalizer S}
    (hresume : ∀ T onNormalized onUnchanged, normalizer.resume T onNormalized onUnchanged =
      normalizer.report >>= fun n => ExceptT.lift (n.proceed onNormalized onUnchanged))
    (hoptional : ∀ onNormalized onUnchanged, normalizer.resumeOptional onNormalized onUnchanged =
      normalizer.resume S (continueWith onNormalized) (continueWith onUnchanged)) :
    normalizer.Resumes := by
  constructor
  · intro T onNormalized onUnchanged σ
    rw [hresume, Attempt.run_bind_lift]
    rfl
  · intro onNormalized onUnchanged σ
    rw [hoptional, hresume, Attempt.run_bind_lift]
    congr 1
    funext n
    rw [Normalized.proceed]
    split
    · cases onNormalized <;> rfl
    · cases onUnchanged <;> rfl

/-- If announcing comes first, and the rest does not look at the recorded messages, then announcing
only adds the announcement. -/
lemma OnlyAnnounces.of_report {announcing plain : Normalizer S} {kind : Kind}
    (hreport : plain.report.IgnoresLog)
    (hresume : ∀ T onNormalized onUnchanged, plain.resume T onNormalized onUnchanged =
      plain.report >>= fun n => ExceptT.lift (n.proceed onNormalized onUnchanged))
    (hoptional : ∀ onNormalized onUnchanged, plain.resumeOptional onNormalized onUnchanged =
      plain.resume S (continueWith onNormalized) (continueWith onUnchanged))
    (hreport' : ∀ σ, announcing.report.run.run σ =
      plain.report.run.run { σ with messages := σ.messages ++ [.normalizing kind] })
    (hresume' : ∀ T onNormalized onUnchanged σ,
      (announcing.resume T onNormalized onUnchanged).run.run σ =
        (plain.resume T onNormalized onUnchanged).run.run
          { σ with messages := σ.messages ++ [.normalizing kind] })
    (hoptional' : ∀ onNormalized onUnchanged,
      announcing.resumeOptional onNormalized onUnchanged =
        announcing.resume S (continueWith onNormalized) (continueWith onUnchanged)) :
    announcing.OnlyAnnounces plain kind := by
  have hall : ∀ (T : Type) (onNormalized onUnchanged : S → Work T),
      (∀ s, (onNormalized s).IgnoresLog) → (∀ s, (onUnchanged s).IgnoresLog) →
        (announcing.resume T onNormalized onUnchanged).OnlyAnnounces
          (plain.resume T onNormalized onUnchanged) kind := by
    intro T onNormalized onUnchanged hnormalized hunchanged
    refine Attempt.IgnoresLog.onlyAnnounces ?_ (hresume' T onNormalized onUnchanged)
    rw [hresume]
    exact hreport.bind fun n =>
      Attempt.ignoresLog_lift (n.ignoresLog_proceed hnormalized hunchanged)
  refine ⟨hreport.onlyAnnounces hreport', hall, ?_, hresume', ?_⟩
  · intro onNormalized onUnchanged hnormalized hunchanged
    rw [hoptional, hoptional']
    exact hall S _ _ (ignoresLog_continueWith hnormalized) (ignoresLog_continueWith hunchanged)
  · intro onNormalized onUnchanged σ
    rw [hoptional, hoptional']
    exact hresume' S _ _ σ

end Normalizer

namespace Boolean

variable {B : Type}

lemma resumes_normalizer (s : Boolean B) : s.normalizer.Resumes :=
  .of_report (fun _ => s.normalizeWith_eq) fun _ _ => rfl

lemma resumes_nodeNormalizer (s : Boolean B) : s.nodeNormalizer.Resumes :=
  .of_report (fun _ => s.normalizeNodeWith_eq) fun _ _ => rfl

lemma onlyAnnounces_normalizer (s : Boolean B) :
    s.normalizer.OnlyAnnounces s.nodeNormalizer s.kind :=
  .of_report s.ignoresLog_tryNormalizeNode (fun _ => s.normalizeNodeWith_eq) (fun _ _ => rfl)
    s.run_tryNormalize (fun _ _ _ _ => rfl) fun _ _ => rfl

end Boolean

namespace Numeric

variable {A B : Type} {f : Format}

lemma resumes_normalizer (s : Numeric A B f) : s.normalizer.Resumes :=
  .of_report (fun _ => s.normalizeWith_eq) fun _ _ => rfl

lemma resumes_nodeNormalizer (s : Numeric A B f) : s.nodeNormalizer.Resumes :=
  .of_report (fun _ => s.normalizeNodeWith_eq) fun _ _ => rfl

lemma onlyAnnounces_normalizer (s : Numeric A B f) :
    s.normalizer.OnlyAnnounces s.nodeNormalizer s.kind :=
  .of_report s.ignoresLog_tryNormalizeNode (fun _ => s.normalizeNodeWith_eq) (fun _ _ => rfl)
    s.run_tryNormalize (fun _ _ _ _ => rfl) fun _ _ => rfl

end Numeric

/-- All ways to normalize a statement agree: each of them runs the continuation for the reported
outcome once and at the end, and announcing the root makes no difference except for the
announcement. -/
theorem normalizers_agree (A B : Type) (f : Format) :
    (∀ s : Numeric A B f, s.normalizer.Resumes ∧ s.nodeNormalizer.Resumes ∧
      s.normalizer.OnlyAnnounces s.nodeNormalizer s.kind) ∧
    ∀ s : Boolean B, s.normalizer.Resumes ∧ s.nodeNormalizer.Resumes ∧
      s.normalizer.OnlyAnnounces s.nodeNormalizer s.kind :=
  ⟨fun s => ⟨s.resumes_normalizer, s.resumes_nodeNormalizer, s.onlyAnnounces_normalizer⟩,
    fun s => ⟨s.resumes_normalizer, s.resumes_nodeNormalizer, s.onlyAnnounces_normalizer⟩⟩

/-- Of a difference with a sum on its right, the merged chain is handed to the first continuation,
which records a message and rounds it with the next identity. Without the announcement of the root
all of this is the same. -/
theorem normalizers_agree_rounded_chain :
    let s : Quantity .double := .additive ⟨1⟩ .minus (Quantity.urgency .double)
      (.additive ⟨0⟩ .plus (Quantity.impact .double) (Quantity.urgency .double))
    let mark (r : Quantity .double) : Work (Quantity .double) := do
      record (.createdAdditive r.text)
      Numeric.newRound .floor r
    (s.normalizeWith mark pure).OnlyAnnounces (s.normalizeNodeWith mark pure) .difference ∧
      ∃ r messages, (s.normalizeWith mark pure).run.run ⟨2, []⟩ = (.ok r, ⟨5, messages⟩) ∧
        r.text = "Math.floor(urgency - impact - urgency)".toList ∧ messages.length = 7 := by
  intro s mark
  have hmark : ∀ r, (mark r).IgnoresLog := fun r =>
    (Work.ignoresLog_record _).bind fun _ => Work.ignoresLog_freshId.bind fun _ =>
      Work.ignoresLog_pure _
  obtain ⟨_, _, honly⟩ := (normalizers_agree (NumberSource .double) FlagSource .double).1 s
  exact ⟨honly.resume _ mark pure hmark Work.ignoresLog_pure, _, _, rfl, by decide +kernel, rfl⟩

end PriorityFormula
