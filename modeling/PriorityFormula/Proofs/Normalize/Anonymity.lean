import PriorityFormula.Context
import PriorityFormula.Proofs.Normalize.Derivation
import PriorityFormula.Proofs.Statement.Alike

/-!
# Identities are not observed

Work on statements hands identities on, drops them and takes new ones, but it never looks at them.
Two runs of the same work, on statements that are the same up to identities and from any two
sessions, go on side by side: after each step their values are still the same up to identities, and
they have recorded the same messages. What identities are next in the two sessions does not matter,
and it may well differ by another number at the end than at the beginning.
-/

namespace PriorityFormula

variable {α β γ δ : Type}

/-! ### Runs that agree -/

namespace Work

/-- From any two sessions, two pieces of work record the same messages and give values that are the
same once `forget` has been applied. -/
def Agrees (forget : α → γ) (x y : Work α) : Prop :=
  ∀ σ τ, forget (x.run σ).1 = forget (y.run τ).1 ∧
    ∃ added, (x.run σ).2.messages = σ.messages ++ added ∧
      (y.run τ).2.messages = τ.messages ++ added

lemma agrees_pure {forget : α → γ} {a b : α} (h : forget a = forget b) :
    Agrees forget (pure a) (pure b) := by
  intro σ τ
  exact ⟨h, [], (List.append_nil _).symm, (List.append_nil _).symm⟩

lemma agrees_record (message : Message) : Agrees id (record message) (record message) := by
  intro σ τ
  exact ⟨rfl, [message], rfl, rfl⟩

/-- Two new identities have nothing in common. -/
lemma agrees_freshId : Agrees (fun _ => ()) freshId freshId := by
  intro σ τ
  exact ⟨rfl, [], (List.append_nil _).symm, (List.append_nil _).symm⟩

/-- Work that agrees goes on to agree if what follows does for all values that are the same. -/
lemma Agrees.bind {forget : α → γ} {forget' : β → δ} {x y : Work α} {next next' : α → Work β}
    (h : Agrees forget x y)
    (hnext : ∀ a b, forget a = forget b → Agrees forget' (next a) (next' b)) :
    Agrees forget' (x >>= next) (y >>= next') := by
  intro σ τ
  obtain ⟨hvalue, added, hx, hy⟩ := h σ τ
  obtain ⟨hvalue', added', hx', hy'⟩ := hnext _ _ hvalue (x.run σ).2 (y.run τ).2
  refine ⟨hvalue', added ++ added', ?_, ?_⟩
  · rw [← List.append_assoc, ← hx]
    exact hx'
  · rw [← List.append_assoc, ← hy]
    exact hy'

lemma Agrees.symm {forget : α → γ} {x y : Work α} (h : Agrees forget x y) : Agrees forget y x := by
  intro σ τ
  obtain ⟨hvalue, added, hx, hy⟩ := h τ σ
  exact ⟨hvalue.symm, added, hy, hx⟩

lemma Agrees.trans {forget : α → γ} {x y z : Work α} (hxy : Agrees forget x y)
    (hyz : Agrees forget y z) : Agrees forget x z := by
  intro σ τ
  obtain ⟨hvalue, added, hx, hy⟩ := hxy σ σ
  obtain ⟨hvalue', added', hy', hz⟩ := hyz σ τ
  have hadded : added = added' := List.append_cancel_left (hy.symm.trans hy')
  exact ⟨hvalue.trans hvalue', added, hx, by rw [hadded]; exact hz⟩

end Work

namespace Attempt

/-- From any two sessions, two pieces of work record the same messages, and they fail with the same
fault or give values that are the same once `forget` has been applied. -/
def Agrees (forget : α → γ) (x y : Attempt α) : Prop :=
  Work.Agrees (Except.map forget) x.run y.run

lemma agrees_lift {forget : α → γ} {x y : Work α} (h : Work.Agrees forget x y) :
    Agrees forget (ExceptT.lift x) (ExceptT.lift y) := by
  intro σ τ
  obtain ⟨hvalue, hmessages⟩ := h σ τ
  exact ⟨congrArg Except.ok hvalue, hmessages⟩

lemma agrees_throw (forget : α → γ) (fault : Fault) :
    Agrees forget (throw fault) (throw fault) :=
  Work.agrees_pure rfl

/-- Where both fail, nothing follows; where both succeed, what follows has to agree. -/
lemma Agrees.bind {forget : α → γ} {forget' : β → δ} {x y : Attempt α}
    {next next' : α → Attempt β} (h : Agrees forget x y)
    (hnext : ∀ a b, forget a = forget b → Agrees forget' (next a) (next' b)) :
    Agrees forget' (x >>= next) (y >>= next') := by
  show Work.Agrees _ (x.run >>= ExceptT.bindCont next) (y.run >>= ExceptT.bindCont next')
  refine Work.Agrees.bind h fun result result' hresult => ?_
  cases result with
  | ok a =>
    cases result' with
    | ok b => exact hnext a b (Except.ok.inj hresult)
    | error fault => cases hresult
  | error fault =>
    cases result' with
    | ok b => cases hresult
    | error fault' =>
      cases hresult
      exact Work.agrees_pure rfl

/-- Work on a value agrees with the same work on another one if both are the same once `forget` has
been applied, provided that it may be applied before the work as well as after it. -/
lemma Agrees.of_forget_eq {forget : α → α} {forget' : β → δ} {work : α → Attempt β}
    (h : ∀ a, Agrees forget' (work (forget a)) (work a)) {a b : α} (hab : forget a = forget b) :
    Agrees forget' (work a) (work b) := by
  have hfirst := h a
  rw [hab] at hfirst
  exact hfirst.symm.trans (h b)

end Attempt

/-- The outcome with something done to its statement. -/
def Normalized.map {S T : Type} (g : S → T) (n : Normalized S) : Normalized T :=
  ⟨g n.statement, n.wasNormalized⟩

/-! ### Conditions -/

namespace Boolean

variable {B : Type}

lemma kind_withoutIds (s : Boolean B) : s.withoutIds.kind = s.kind := by
  cases s with
  | joined id connective left right => cases connective <;> rfl
  | literal _ | var _ | ternary _ _ _ _ => rfl

/-- Conditions that are the same up to identities have the same text. -/
lemma text_eq_of_withoutIds_eq {s t : Boolean B} (h : s.withoutIds = t.withoutIds) :
    s.text = t.text := by
  rw [← s.alike_withoutIds.text_eq, h, t.alike_withoutIds.text_eq]

lemma joinedBy_eq_of_withoutIds_eq {s t : Boolean B} (h : s.withoutIds = t.withoutIds)
    (connective : Connective) : s.joinedBy connective = t.joinedBy connective := by
  rw [← s.alike_withoutIds.joinedBy_eq, h, t.alike_withoutIds.joinedBy_eq]

lemma parts_withoutIds (connective : Connective) (s : Boolean B) :
    s.withoutIds.parts connective = (s.parts connective).map withoutIds := by
  induction s with
  | literal value => rfl
  | var v => rfl
  | joined id own left right ihl ihr =>
    rw [withoutIds, parts, parts]
    split
    · rw [ihl, ihr, List.map_append]
    · rfl
  | ternary id condition ifTrue otherwise => rfl

lemma parts_eq_of_withoutIds_eq {s t : Boolean B} (h : s.withoutIds = t.withoutIds)
    (connective : Connective) :
    (s.parts connective).map withoutIds = (t.parts connective).map withoutIds := by
  rw [← parts_withoutIds, h, parts_withoutIds]

lemma map_flatMap_parts (connective : Connective) (operands : List (Boolean B)) :
    (operands.flatMap (parts connective)).map withoutIds =
      (operands.map withoutIds).flatMap (parts connective) := by
  rw [List.map_flatMap, List.flatMap_map]
  exact congrArg (operands.flatMap ·) (funext fun s => (parts_withoutIds connective s).symm)

/-- Attaching parts does not look at identities. -/
lemma agrees_attachParts (connective : Connective) {head head' : Boolean B}
    (hhead : head.withoutIds = head'.withoutIds) {ps ps' : List (Boolean B)}
    (hparts : ps.map withoutIds = ps'.map withoutIds) :
    (head.attachParts connective ps).Agrees withoutIds (head'.attachParts connective ps') := by
  induction ps generalizing head head' ps' with
  | nil =>
    obtain rfl := List.map_eq_nil_iff.mp hparts.symm
    exact Work.agrees_pure hhead
  | cons p ps ih =>
    cases ps' with
    | nil => cases hparts
    | cons p' ps' =>
      obtain ⟨hp, hrest⟩ := List.cons.inj hparts
      refine Work.agrees_freshId.bind fun id id' _ => ih ?_ hrest
      rw [withoutIds, withoutIds, hhead, hp]

/-- Putting a joined condition together does not look at identities. -/
lemma agrees_joinLogical (id id' : Id) (connective : Connective)
    {first first' second second' : Normalized (Boolean B)}
    (hfirst : first.map withoutIds = first'.map withoutIds)
    (hsecond : second.map withoutIds = second'.map withoutIds) :
    (joinLogical id connective first second Normalized.changed Normalized.unchanged).Agrees
      (Normalized.map withoutIds)
      (joinLogical id' connective first' second' Normalized.changed Normalized.unchanged) := by
  obtain ⟨hleft, hchangedLeft⟩ := Normalized.mk.inj hfirst
  obtain ⟨hright, hchangedRight⟩ := Normalized.mk.inj hsecond
  have hstatement : (joined id connective first.statement second.statement).withoutIds =
      (joined id' connective first'.statement second'.statement).withoutIds := by
    rw [withoutIds, withoutIds, hleft, hright]
  rw [joinLogical, joinLogical, joinedBy_eq_of_withoutIds_eq hright, hchangedLeft, hchangedRight]
  split
  · refine (agrees_attachParts connective hleft
      (parts_eq_of_withoutIds_eq hright connective)).bind fun chain chain' hchain => ?_
    rw [text_eq_of_withoutIds_eq hchain]
    refine (Work.agrees_record _).bind fun _ _ _ => Work.agrees_pure ?_
    rw [Normalized.map, Normalized.map, hchain]
  · split
    · exact Work.agrees_pure (congrArg (Normalized.mk · true) hstatement)
    · exact Work.agrees_pure (congrArg (Normalized.mk · false) hstatement)

/-- Announcing a condition before it is normalized does not look at identities. -/
lemma agrees_announced {s : Boolean B}
    (h : s.withoutIds.tryNormalizeNode.Agrees (Normalized.map withoutIds) s.tryNormalizeNode) :
    s.withoutIds.tryNormalize.Agrees (Normalized.map withoutIds) s.tryNormalize := by
  rw [tryNormalize, normalizeWith, kind_withoutIds]
  exact (Attempt.agrees_lift (Work.agrees_record _)).bind fun _ _ _ => h

/-- Normalizing a condition gives the same up to identities as normalizing it without identities. -/
lemma agrees_withoutIds (s : Boolean B) :
    s.withoutIds.tryNormalizeNode.Agrees (Normalized.map withoutIds) s.tryNormalizeNode := by
  induction s with
  | literal value => exact Attempt.agrees_lift (Work.agrees_pure rfl)
  | var v => exact Attempt.agrees_lift (Work.agrees_pure rfl)
  | joined id connective left right ihl ihr =>
    rw [withoutIds, tryNormalizeNode, tryNormalizeNode, normalizeNodeWith_joined,
      normalizeNodeWith_joined]
    refine (agrees_announced ihl).bind fun first first' hfirst => ?_
    refine (agrees_announced ihr).bind fun second second' hsecond => ?_
    exact Attempt.agrees_lift (agrees_joinLogical ⟨0⟩ id connective hfirst hsecond)
  | ternary id condition ifTrue otherwise => exact Attempt.agrees_throw _ _

lemma splitHead_withoutIds (connective : Connective) (s : Boolean B) :
    s.withoutIds.splitHead connective =
      ((s.splitHead connective).1.withoutIds, (s.splitHead connective).2.map withoutIds) := by
  induction s with
  | literal value => rfl
  | var v => rfl
  | joined id own left right ihl ihr =>
    rw [withoutIds, splitHead, splitHead]
    split
    · rw [ihl, parts_withoutIds, List.map_append]
    · rfl
  | ternary id condition ifTrue otherwise => rfl

/-- Creating a chain does not look at identities. -/
lemma agrees_createLogical (connective : Connective) {first first' : Boolean B}
    {rest rest' : List (Boolean B)} (hfirst : first.withoutIds = first'.withoutIds)
    (hrest : rest.map withoutIds = rest'.map withoutIds) :
    (createLogical connective first rest).Agrees withoutIds
      (createLogical connective first' rest') := by
  have hsplit : ((first.splitHead connective).1.withoutIds,
      (first.splitHead connective).2.map withoutIds) =
      ((first'.splitHead connective).1.withoutIds,
        (first'.splitHead connective).2.map withoutIds) := by
    rw [← splitHead_withoutIds, hfirst, splitHead_withoutIds]
  obtain ⟨hhead, hbehind⟩ := Prod.mk.inj hsplit
  rw [createLogical, createLogical]
  refine (agrees_attachParts connective hhead ?_).bind fun chain chain' hchain => ?_
  · rw [List.map_append, List.map_append, hbehind, map_flatMap_parts, hrest, map_flatMap_parts]
  · rw [text_eq_of_withoutIds_eq hchain]
    exact (Work.agrees_record _).bind fun _ _ _ => Work.agrees_pure hchain

end Boolean

/-! ### Numeric statements -/

namespace Numeric

variable {A B : Type} {f : Format}

lemma kind_withoutIds (s : Numeric A B f) : s.withoutIds.kind = s.kind := by
  cases s with
  | additive id sign left right => cases sign <;> rfl
  | scaled id scaling left right => cases scaling <;> rfl
  | literal _ | var _ | round _ _ _ | ternary _ _ _ _ => rfl

/-- Statements that are the same up to identities have the same text. -/
lemma text_eq_of_withoutIds_eq {s t : Numeric A B f} (h : s.withoutIds = t.withoutIds) :
    s.text = t.text := by
  have hs : s.withoutIds.text = s.text := s.alike_withoutIds.write_eq none
  have ht : t.withoutIds.text = t.text := t.alike_withoutIds.write_eq none
  rw [← hs, h, ht]

lemma isMergeable_withoutIds (s : Numeric A B f) : s.withoutIds.isMergeable = s.isMergeable := by
  cases s <;> rfl

lemma isMergeable_eq_of_withoutIds_eq {s t : Numeric A B f} (h : s.withoutIds = t.withoutIds) :
    s.isMergeable = t.isMergeable := by
  rw [← isMergeable_withoutIds, h, isMergeable_withoutIds]

/-- A signed term with the identities in it forgotten. -/
def termWithoutIds (t : Sign × Numeric A B f) : Sign × Numeric A B f :=
  (t.1, t.2.withoutIds)

lemma terms_withoutIds (sign : Sign) (s : Numeric A B f) :
    s.withoutIds.terms sign = (s.terms sign).map termWithoutIds := by
  induction s generalizing sign with
  | literal value =>
    rw [withoutIds, terms]
    split <;> rfl
  | var v => rfl
  | additive id inner left right ihl ihr =>
    rw [withoutIds, terms, terms, ihl, ihr, List.map_append]
  | scaled id scaling left right => rfl
  | round id mode operand => rfl
  | ternary id condition ifTrue otherwise => rfl

lemma terms_eq_of_withoutIds_eq {s t : Numeric A B f} (h : s.withoutIds = t.withoutIds)
    (sign : Sign) : (s.terms sign).map termWithoutIds = (t.terms sign).map termWithoutIds := by
  rw [← terms_withoutIds, h, terms_withoutIds]

lemma map_flatMap_terms (sign : Sign) (operands : List (Numeric A B f)) :
    (operands.flatMap (terms sign)).map termWithoutIds =
      (operands.map withoutIds).flatMap (terms sign) := by
  rw [List.map_flatMap, List.flatMap_map]
  exact congrArg (operands.flatMap ·) (funext fun s => (terms_withoutIds sign s).symm)

/-- Attaching signed terms does not look at identities. -/
lemma agrees_attachTerms {head head' : Numeric A B f} (hhead : head.withoutIds = head'.withoutIds)
    {ts ts' : List (Sign × Numeric A B f)}
    (hterms : ts.map termWithoutIds = ts'.map termWithoutIds) :
    (head.attachTerms ts).Agrees withoutIds (head'.attachTerms ts') := by
  induction ts generalizing head head' ts' with
  | nil =>
    obtain rfl := List.map_eq_nil_iff.mp hterms.symm
    exact Work.agrees_pure hhead
  | cons t ts ih =>
    cases ts' with
    | nil => cases hterms
    | cons t' ts' =>
      obtain ⟨sign, term⟩ := t
      obtain ⟨sign', term'⟩ := t'
      obtain ⟨ht, hrest⟩ := List.cons.inj hterms
      obtain ⟨rfl, hterm⟩ := Prod.mk.inj ht
      refine Work.agrees_freshId.bind fun id id' _ => ih ?_ hrest
      rw [withoutIds, withoutIds, hhead, hterm]

/-- Putting a sum or difference together does not look at identities. -/
lemma agrees_joinAdditive (id id' : Id) (sign : Sign)
    {first first' second second' : Normalized (Numeric A B f)}
    (hfirst : first.map withoutIds = first'.map withoutIds)
    (hsecond : second.map withoutIds = second'.map withoutIds) :
    (joinAdditive id sign first second Normalized.changed Normalized.unchanged).Agrees
      (Normalized.map withoutIds)
      (joinAdditive id' sign first' second' Normalized.changed Normalized.unchanged) := by
  obtain ⟨hleft, hchangedLeft⟩ := Normalized.mk.inj hfirst
  obtain ⟨hright, hchangedRight⟩ := Normalized.mk.inj hsecond
  have hstatement : (additive id sign first.statement second.statement).withoutIds =
      (additive id' sign first'.statement second'.statement).withoutIds := by
    rw [withoutIds, withoutIds, hleft, hright]
  rw [joinAdditive, joinAdditive, isMergeable_eq_of_withoutIds_eq hright, hchangedLeft,
    hchangedRight]
  split
  · refine (agrees_attachTerms hleft (terms_eq_of_withoutIds_eq hright sign)).bind
      fun chain chain' hchain => ?_
    rw [text_eq_of_withoutIds_eq hchain]
    refine (Work.agrees_record _).bind fun _ _ _ => Work.agrees_pure ?_
    rw [Normalized.map, Normalized.map, hchain]
  · split
    · exact Work.agrees_pure (congrArg (Normalized.mk · true) hstatement)
    · exact Work.agrees_pure (congrArg (Normalized.mk · false) hstatement)

/-- Announcing a statement before it is normalized does not look at identities. -/
lemma agrees_announced {s : Numeric A B f}
    (h : s.withoutIds.tryNormalizeNode.Agrees (Normalized.map withoutIds) s.tryNormalizeNode) :
    s.withoutIds.tryNormalize.Agrees (Normalized.map withoutIds) s.tryNormalize := by
  rw [tryNormalize, normalizeWith, kind_withoutIds]
  exact (Attempt.agrees_lift (Work.agrees_record _)).bind fun _ _ _ => h

/-- Normalizing a statement gives the same up to identities as normalizing it without identities. -/
lemma agrees_withoutIds (s : Numeric A B f) :
    s.withoutIds.tryNormalizeNode.Agrees (Normalized.map withoutIds) s.tryNormalizeNode := by
  induction s with
  | literal value => exact Attempt.agrees_lift (Work.agrees_pure rfl)
  | var v => exact Attempt.agrees_lift (Work.agrees_pure rfl)
  | additive id sign left right ihl ihr =>
    rw [withoutIds, tryNormalizeNode, tryNormalizeNode, normalizeNodeWith_additive,
      normalizeNodeWith_additive]
    refine (agrees_announced ihl).bind fun first first' hfirst => ?_
    refine (agrees_announced ihr).bind fun second second' hsecond => ?_
    exact Attempt.agrees_lift (agrees_joinAdditive ⟨0⟩ id sign hfirst hsecond)
  | scaled id scaling left right => cases scaling <;> exact Attempt.agrees_throw _ _
  | round id mode operand => exact Attempt.agrees_throw _ _
  | ternary id condition ifTrue otherwise => exact Attempt.agrees_throw _ _

lemma splitHead_withoutIds (s : Numeric A B f) :
    s.withoutIds.splitHead = (s.splitHead.1.withoutIds, s.splitHead.2.map termWithoutIds) := by
  induction s with
  | literal value => rfl
  | var v => rfl
  | additive id sign left right ihl ihr =>
    rw [withoutIds, splitHead, splitHead, ihl, terms_withoutIds, List.map_append]
  | scaled id scaling left right => rfl
  | round id mode operand => rfl
  | ternary id condition ifTrue otherwise => rfl

/-- Creating a chain does not look at identities. -/
lemma agrees_createAdditive (sign : Sign) {first first' : Numeric A B f}
    {rest rest' : List (Numeric A B f)} (hfirst : first.withoutIds = first'.withoutIds)
    (hrest : rest.map withoutIds = rest'.map withoutIds) :
    (createAdditive sign first rest).Agrees withoutIds (createAdditive sign first' rest') := by
  have hsplit : (first.splitHead.1.withoutIds, first.splitHead.2.map termWithoutIds) =
      (first'.splitHead.1.withoutIds, first'.splitHead.2.map termWithoutIds) := by
    rw [← splitHead_withoutIds, hfirst, splitHead_withoutIds]
  obtain ⟨hhead, hbehind⟩ := Prod.mk.inj hsplit
  rw [createAdditive, createAdditive]
  refine (agrees_attachTerms hhead ?_).bind fun chain chain' hchain => ?_
  · rw [List.map_append, List.map_append, hbehind, map_flatMap_terms, hrest, map_flatMap_terms]
  · rw [text_eq_of_withoutIds_eq hchain]
    exact (Work.agrees_record _).bind fun _ _ _ => Work.agrees_pure hchain

end Numeric

/-! ### Indiscernible statements -/

/-- Nothing tells two conditions apart, save a search for identities. -/
structure Boolean.Indiscernible {B : Type} (s t : Boolean B) : Prop where
  trace_eq (flag : B → Bool) : s.trace flag = t.trace flag
  text_eq : s.text = t.text
  tryNormalize_agrees : s.tryNormalize.Agrees (Normalized.map withoutIds) t.tryNormalize
  tryNormalizeNode_agrees :
    s.tryNormalizeNode.Agrees (Normalized.map withoutIds) t.tryNormalizeNode

/-- Nothing tells two numeric statements apart, save a search for identities. -/
structure Numeric.Indiscernible {A B : Type} {f : Format} (s t : Numeric A B f) : Prop where
  trace_eq (K : Type) (I : Interpretation A B f K) : s.trace I = t.trace I
  text_eq : s.text = t.text
  tryNormalize_agrees : s.tryNormalize.Agrees (Normalized.map withoutIds) t.tryNormalize
  tryNormalizeNode_agrees :
    s.tryNormalizeNode.Agrees (Normalized.map withoutIds) t.tryNormalizeNode

/-- A statement in normal form is created twice in the same way, and the operands are the same up to
identities. -/
inductive SameCreation (A B : Type) (f : Format) :
    {S : Type} → (forget : S → S) → Attempt S → Attempt S → Prop
  | additive (sign : Sign) {first first' : Numeric A B f} {rest rest' : List (Numeric A B f)}
      (hfirst : first.withoutIds = first'.withoutIds)
      (hrest : rest.map Numeric.withoutIds = rest'.map Numeric.withoutIds) :
      SameCreation A B f Numeric.withoutIds (ExceptT.lift (Numeric.createAdditive sign first rest))
        (ExceptT.lift (Numeric.createAdditive sign first' rest'))
  | scaled (scaling : Scaling) {first first' : Numeric A B f} {rest rest' : List (Numeric A B f)}
      (hfirst : first.withoutIds = first'.withoutIds)
      (hrest : rest.map Numeric.withoutIds = rest'.map Numeric.withoutIds) :
      SameCreation A B f Numeric.withoutIds (Numeric.createScaled scaling first rest)
        (Numeric.createScaled scaling first' rest')
  | round (mode : Rounding) {operand operand' : Numeric A B f}
      (h : operand.withoutIds = operand'.withoutIds) :
      SameCreation A B f Numeric.withoutIds (Numeric.createRound mode operand)
        (Numeric.createRound mode operand')
  | numericTernary {condition condition' : Boolean B} {ifTrue ifTrue' : Numeric A B f}
      {otherwise otherwise' : Numeric A B f}
      (hcondition : condition.withoutIds = condition'.withoutIds)
      (hifTrue : ifTrue.withoutIds = ifTrue'.withoutIds)
      (hotherwise : otherwise.withoutIds = otherwise'.withoutIds) :
      SameCreation A B f Numeric.withoutIds (Numeric.createTernary condition ifTrue otherwise)
        (Numeric.createTernary condition' ifTrue' otherwise')
  | logical (connective : Connective) {first first' : Boolean B} {rest rest' : List (Boolean B)}
      (hfirst : first.withoutIds = first'.withoutIds)
      (hrest : rest.map Boolean.withoutIds = rest'.map Boolean.withoutIds) :
      SameCreation A B f Boolean.withoutIds
        (ExceptT.lift (Boolean.createLogical connective first rest))
        (ExceptT.lift (Boolean.createLogical connective first' rest'))
  | booleanTernary {condition condition' : Boolean B} {ifTrue ifTrue' : Boolean B}
      {otherwise otherwise' : Boolean B}
      (hcondition : condition.withoutIds = condition'.withoutIds)
      (hifTrue : ifTrue.withoutIds = ifTrue'.withoutIds)
      (hotherwise : otherwise.withoutIds = otherwise'.withoutIds) :
      SameCreation A B f Boolean.withoutIds (Boolean.createTernary condition ifTrue otherwise)
        (Boolean.createTernary condition' ifTrue' otherwise')

/-- Creating a statement does not look at identities. -/
lemma SameCreation.agrees {A B : Type} {f : Format} {S : Type} {forget : S → S} {x y : Attempt S}
    (h : SameCreation A B f forget x y) : x.Agrees forget y := by
  cases h with
  | additive sign hfirst hrest =>
    exact Attempt.agrees_lift (Numeric.agrees_createAdditive sign hfirst hrest)
  | logical connective hfirst hrest =>
    exact Attempt.agrees_lift (Boolean.agrees_createLogical connective hfirst hrest)
  | scaled scaling => cases scaling <;> exact Attempt.agrees_throw _ _
  | round | numericTernary | booleanTernary => exact Attempt.agrees_throw _ _

/-- Only a search looks at identities. Statements that are the same up to identities have the same
value and the same reads in every context and the same text, and from any two sessions normalizing
them records the same messages and ends in the same fault or in the same outcome up to identities.
The same holds of statements that are created from operands that are the same up to identities. -/
theorem indiscernible_of_withoutIds_eq (A B : Type) (f : Format) :
    (∀ s t : Numeric A B f, s.withoutIds = t.withoutIds → s.Indiscernible t) ∧
    (∀ s t : Boolean B, s.withoutIds = t.withoutIds → s.Indiscernible t) ∧
    ∀ (S : Type) (forget : S → S) (x y : Attempt S),
      SameCreation A B f forget x y → x.Agrees forget y := by
  refine ⟨?_, ?_, fun _ _ _ _ hsame => hsame.agrees⟩
  · intro s t h
    have hnode := Numeric.agrees_withoutIds (A := A) (B := B) (f := f)
    exact ⟨fun _ I => Numeric.trace_eq_of_withoutIds_eq h I, Numeric.text_eq_of_withoutIds_eq h,
      .of_forget_eq (fun s => Numeric.agrees_announced (hnode s)) h, .of_forget_eq hnode h⟩
  · intro s t h
    have hnode := Boolean.agrees_withoutIds (B := B)
    exact ⟨Boolean.trace_eq_of_withoutIds_eq h, Boolean.text_eq_of_withoutIds_eq h,
      .of_forget_eq (fun s => Boolean.agrees_announced (hnode s)) h, .of_forget_eq hnode h⟩

/-- A difference cannot be told from one whose operations share an identity. Neither can a chain
that is created from the first and then the second be told from one that is created the other way
round. -/
theorem indiscernible_of_withoutIds_eq_renumbered :
    let urgency := Quantity.urgency .double
    let impact := Quantity.impact .double
    let s : Quantity .double := .additive ⟨1⟩ .minus urgency (.additive ⟨0⟩ .plus impact urgency)
    let t : Quantity .double := .additive ⟨7⟩ .minus urgency (.additive ⟨7⟩ .plus impact urgency)
    let c : Condition := .joined ⟨2⟩ .or Condition.vip Condition.businessRelated
    let d : Condition := .joined ⟨9⟩ .or Condition.vip Condition.businessRelated
    s ≠ t ∧ s.Indiscernible t ∧ c.Indiscernible d ∧
      Attempt.Agrees Numeric.withoutIds (ExceptT.lift (Numeric.createAdditive .minus s [t]))
        (ExceptT.lift (Numeric.createAdditive .minus t [s])) := by
  intro urgency impact s t c d
  obtain ⟨hnumeric, hboolean, hcreation⟩ :=
    indiscernible_of_withoutIds_eq (NumberSource .double) FlagSource .double
  exact ⟨by decide, hnumeric s t rfl, hboolean c d rfl,
    hcreation _ _ _ _ (.additive .minus rfl rfl)⟩

end PriorityFormula
