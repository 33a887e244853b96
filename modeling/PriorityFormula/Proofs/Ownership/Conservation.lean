import PriorityFormula.Context
import PriorityFormula.Proofs.Chain.Created
import PriorityFormula.Proofs.Ownership.Ids
import PriorityFormula.Proofs.Ownership.Operations
import PriorityFormula.Proofs.Ownership.WellFormed

/-!
# Moving statements keeps identities apart

Every operation conserves identities: what it gives back carries identities of what it took and
identities that were handed out to it, each at most as often as before. This holds across
continuations and is passed on from one piece of work to the next. Since nothing is live in a new
session, no identity is ever carried twice.
-/

namespace PriorityFormula

variable {A B : Type} {f : Format}

/-! ### What work conserves -/

/-- Work that takes and gives statements while the next identity goes from `index` to `last` adds
nothing but fresh identities, and gives only well-formed statements if it takes such. -/
structure Conserves (index : Nat) (taken : Multiset (Node A B f)) (last : Nat)
    (given : Multiset (Node A B f)) : Prop where
  ascends : index ≤ last
  liveIds_le : liveIds given ≤ liveIds taken + fresh index last
  allWellFormed : AllWellFormed taken → AllWellFormed given

namespace Conserves

variable {index middle last : Nat} {taken given given' : Multiset (Node A B f)}

/-- Dropping statements takes no identity. -/
lemma of_le (h : given ≤ taken) (index : Nat) : Conserves index taken index given := by
  refine ⟨le_rfl, ?_, fun htaken => htaken.of_le h⟩
  rw [fresh_self, add_zero]
  exact PriorityFormula.liveIds_le h

/-- Everything may be dropped, also after identities were handed out. -/
lemma nothing (h : index ≤ last) : Conserves index taken last 0 := by
  refine ⟨h, ?_, fun _ => allWellFormed_zero⟩
  rw [liveIds_zero]
  exact Multiset.zero_le _

/-- A leaf takes no identity. -/
lemma leaf {s : Node A B f} (hs : s.arity = 0) (index : Nat) :
    Conserves index taken index {s} := by
  refine ⟨le_rfl, ?_, ?_⟩
  · rw [liveIds_singleton, Node.ids_of_arity_eq_zero hs]
    exact Multiset.zero_le _
  · intro _
    exact allWellFormed_singleton.mpr (Node.wellFormed_of_arity_eq_zero hs)

/-- A compound statement takes the next identity. -/
lemma compound {s : Node A B f} (hids : s.ids = {⟨index⟩} + liveIds taken)
    (hwellFormed : AllWellFormed taken → s.WellFormed) :
    Conserves index taken (index + 1) {s} := by
  refine ⟨Nat.le_add_right _ _, ?_, ?_⟩
  · rw [liveIds_singleton, hids, fresh_succ, add_comm]
  · intro htaken
    exact allWellFormed_singleton.mpr (hwellFormed htaken)

/-- Statements that are not taken stay as they are. -/
lemma frame (h : Conserves index taken last given) (others : Multiset (Node A B f)) :
    Conserves index (taken + others) last (given + others) := by
  refine ⟨h.ascends, ?_, ?_⟩
  · rw [liveIds_add, liveIds_add, add_right_comm]
    exact add_le_add h.liveIds_le le_rfl
  · intro htaken
    obtain ⟨htaken, hothers⟩ := allWellFormed_add.mp htaken
    exact allWellFormed_add.mpr ⟨h.allWellFormed htaken, hothers⟩

/-- What one piece of work gives, the next one may take. -/
lemma trans (h : Conserves index taken middle given) (h' : Conserves middle given last given') :
    Conserves index taken last given' := by
  refine ⟨h.ascends.trans h'.ascends, ?_, fun htaken => h'.allWellFormed (h.allWellFormed htaken)⟩
  exact h'.liveIds_le.trans (add_fresh_le h.ascends h'.ascends h.liveIds_le)

end Conserves

/-! ### Operations that always build -/

/-- A created chain of terms carries identities of its operands, and a fresh one for each term. -/
lemma conserves_createAdditive (sign : Sign) (first : Numeric A B f)
    (rest : List (Numeric A B f)) (σ : Session) :
    Conserves σ.nextIndex ({.numeric first} + Multiset.map .numeric rest)
      ((Numeric.createAdditive sign first rest).run σ).2.nextIndex
      {.numeric ((Numeric.createAdditive sign first rest).run σ).1} := by
  obtain ⟨messages, hrun⟩ := Numeric.run_createAdditive sign first rest σ
  rw [hrun]
  refine ⟨Nat.le_add_right _ _, ?_, ?_⟩
  · have hfirst := first.ids_splitHead_le
    have hrest := Numeric.sum_ids_flatMap_terms_le sign rest
    rw [liveIds_singleton, liveIds_add, liveIds_singleton, liveIds_map_numeric, Node.ids,
      Numeric.ids_chainFrom, List.map_append, List.sum_append, ← add_assoc]
    exact add_le_add (add_le_add hfirst hrest) le_rfl
  · intro htaken
    obtain ⟨hfirst, hrest⟩ := allWellFormed_add.mp htaken
    obtain ⟨hhead, hbehind⟩ := (allWellFormed_singleton.mp hfirst : first.WellFormed).splitHead
    rw [allWellFormed_singleton]
    refine hhead.chainFrom (List.forall_mem_append.mpr ⟨hbehind, ?_⟩) _
    intro t ht
    obtain ⟨operand, hoperand, hterm⟩ := List.mem_flatMap.mp ht
    exact (allWellFormed_map_numeric.mp hrest operand hoperand).terms sign t hterm

/-- A created chain of parts carries identities of its operands, and a fresh one for each part. -/
lemma conserves_createLogical (connective : Connective) (first : Boolean B)
    (rest : List (Boolean B)) (σ : Session) :
    Conserves (A := A) (f := f) σ.nextIndex ({.boolean first} + Multiset.map .boolean rest)
      ((Boolean.createLogical connective first rest).run σ).2.nextIndex
      {.boolean ((Boolean.createLogical connective first rest).run σ).1} := by
  obtain ⟨messages, hrun⟩ := Boolean.run_createLogical connective first rest σ
  rw [hrun]
  refine ⟨Nat.le_add_right _ _, ?_, ?_⟩
  · have hfirst := first.ids_splitHead_le connective
    have hrest := Boolean.sum_ids_flatMap_parts_le connective rest
    rw [liveIds_singleton, liveIds_add, liveIds_singleton, liveIds_map_boolean, Node.ids,
      Boolean.ids_chainFrom, List.map_append, List.sum_append, ← add_assoc]
    exact add_le_add (add_le_add hfirst hrest) le_rfl
  · intro _
    exact allWellFormed_singleton.mpr (Boolean.wellFormed _)

/-- Operations that always build a statement conserve identities. -/
lemma Builds.conserves {S : Type} {node : S → Node A B f} {taken : Multiset (Node A B f)}
    {work : Work S} (h : Builds node taken work) (σ : Session) :
    Conserves σ.nextIndex taken (work.run σ).2.nextIndex {node (work.run σ).1} := by
  cases h with
  | additive sign left right =>
    refine .compound ?_ allWellFormed_pair.mp
    rw [liveIds_pair]
    rfl
  | product left right =>
    refine .compound ?_ ?_
    · rw [liveIds_pair]
      rfl
    · intro htaken
      obtain ⟨hleft, hright⟩ := allWellFormed_pair.mp htaken
      exact ⟨hleft, hright, fun hdivide => nomatch hdivide⟩
  | round mode operand =>
    refine .compound ?_ allWellFormed_singleton.mp
    rw [liveIds_singleton]
    rfl
  | numericTernary condition ifTrue otherwise =>
    refine .compound ?_ allWellFormed_triple.mp
    rw [liveIds_triple]
    rfl
  | joined connective left right =>
    refine .compound ?_ (fun _ => Boolean.wellFormed _)
    rw [liveIds_pair]
    rfl
  | booleanTernary condition ifTrue otherwise =>
    refine .compound ?_ (fun _ => Boolean.wellFormed _)
    rw [liveIds_triple]
    rfl
  | createAdditive sign first rest => exact conserves_createAdditive sign first rest σ
  | createLogical connective first rest => exact conserves_createLogical connective first rest σ

/-! ### Operations that may fail -/

/-- An attempt to build a statement either conserves identities, or fails and leaves the session as
it is. -/
def AllOrNothing {S : Type} (node : S → Node A B f) (taken : Multiset (Node A B f))
    (attempt : Attempt S) : Prop :=
  ∀ σ, (∃ s σ', attempt.run.run σ = (.ok s, σ') ∧
    Conserves σ.nextIndex taken σ'.nextIndex {node s}) ∨
      ∃ fault, attempt.run.run σ = (.error fault, σ)

namespace AllOrNothing

variable {S : Type} {node : S → Node A B f} {taken : Multiset (Node A B f)}

lemma throw (fault : Fault) : AllOrNothing node taken (throw fault) :=
  fun _ => Or.inr ⟨fault, rfl⟩

lemma leaf {s : S} (hs : (node s).arity = 0) : AllOrNothing node taken (pure s) :=
  fun σ => Or.inl ⟨s, σ, rfl, .leaf hs σ.nextIndex⟩

lemma of_builds {work : Work S} (h : Builds node taken work) :
    AllOrNothing node taken (liftM work) :=
  fun σ => Or.inl ⟨_, _, rfl, h.conserves σ⟩

/-- An attempt may begin with a check. -/
lemma check {α : Type} {result : Except Fault α} {next : α → Attempt S}
    (hnext : ∀ a, result = .ok a → AllOrNothing node taken (next a)) :
    AllOrNothing node taken (liftM result >>= next) := by
  intro σ
  cases result with
  | ok a =>
    rw [Attempt.run_bind_of_ok (Attempt.run_liftM (.ok a) σ)]
    exact hnext a rfl σ
  | error fault =>
    right
    exact ⟨fault, Attempt.run_bind_of_error (Attempt.run_liftM (.error fault) σ)⟩

end AllOrNothing

/-- If two operands are found, then there are no others. -/
lemma eq_of_pairOfOperands_eq_ok {S : Type} {operands : List S} {left right : S}
    (h : pairOfOperands operands = .ok (left, right)) : operands = [left, right] := by
  match operands, h with
  | [_, _], h =>
    cases h
    rfl

/-- If one operand is found, then there are no others. -/
lemma eq_of_onlyOperand_eq_ok {S : Type} {operands : List S} {operand : S}
    (h : onlyOperand operands = .ok operand) : operands = [operand] := by
  match operands, h with
  | [_], h =>
    cases h
    rfl

/-- A quotient is built around its operands if the divisor is not a literal zero. -/
lemma allOrNothing_newScaled (scaling : Scaling) (left right : Numeric A B f) :
    AllOrNothing .numeric ({.numeric left} + {.numeric right})
      (Numeric.newScaled scaling left right) := by
  intro σ
  cases hrefused : right.isRefusedFactor scaling with
  | true =>
    right
    exact ⟨.divisionByZero, by rw [Numeric.newScaled, if_pos hrefused]; rfl⟩
  | false =>
    left
    refine ⟨.scaled ⟨σ.nextIndex⟩ scaling left right, { σ with nextIndex := σ.nextIndex + 1 },
      ?_, .compound ?_ ?_⟩
    · rw [Numeric.newScaled, if_neg (ne_true_of_eq_false hrefused)]
      rfl
    · rw [liveIds_pair]
      rfl
    · intro htaken
      obtain ⟨hleft, hright⟩ := allWellFormed_pair.mp htaken
      refine ⟨hleft, hright, ?_⟩
      intro hdivide
      subst hdivide
      exact hrefused

/-- Attempts to build a statement are all or nothing. -/
lemma Tries.allOrNothing {S : Type} {node : S → Node A B f} {taken : Multiset (Node A B f)}
    {attempt : Attempt S} (h : Tries node taken attempt) : AllOrNothing node taken attempt := by
  cases h with
  | literal value => exact .check fun _ _ => .leaf rfl
  | number name accessor => exact .check fun _ _ => .leaf rfl
  | flag name accessor => exact .check fun _ _ => .leaf rfl
  | scaled scaling left right => exact allOrNothing_newScaled scaling left right
  | additiveOfOperands sign operands =>
    refine .check ?_
    rintro ⟨left, right⟩ hoperands
    rw [eq_of_pairOfOperands_eq_ok hoperands]
    exact .of_builds (.additive sign left right)
  | scaledOfOperands scaling operands =>
    refine .check ?_
    rintro ⟨left, right⟩ hoperands
    rw [eq_of_pairOfOperands_eq_ok hoperands]
    exact allOrNothing_newScaled scaling left right
  | roundOfOperands mode operands =>
    refine .check ?_
    intro operand hoperands
    rw [eq_of_onlyOperand_eq_ok hoperands]
    exact .of_builds (.round mode operand)
  | joinedOfOperands connective operands =>
    refine .check ?_
    rintro ⟨left, right⟩ hoperands
    rw [eq_of_pairOfOperands_eq_ok hoperands]
    exact .of_builds (.joined connective left right)
  | createScaled scaling first rest => cases scaling <;> exact .throw _
  | createRound mode operand => exact .throw _
  | createNumericTernary condition ifTrue otherwise => exact .throw _
  | createBooleanTernary condition ifTrue otherwise => exact .throw _

/-! ### Normalizing -/

namespace Boolean

/-- Normalizing a condition conserves identities. -/
lemma Normalizes.conserves {s : Boolean B} {n : Normalized (Boolean B)} {index last : Nat}
    (h : Normalizes index s n last) :
    Conserves (A := A) (f := f) index {.boolean s} last {.boolean n.statement} := by
  obtain ⟨hascends, hids⟩ := h.ids_le
  refine ⟨hascends, ?_, fun _ => allWellFormed_singleton.mpr (Boolean.wellFormed _)⟩
  rwa [liveIds_singleton, liveIds_singleton]

/-- Announcing a condition hands out no identity. -/
lemma ascends_tryNormalize {s : Boolean B} (h : s.tryNormalizeNode.Ascends) :
    s.tryNormalize.Ascends := by
  intro σ
  rw [run_tryNormalize]
  exact h { σ with messages := σ.messages ++ [.normalizing s.kind] }

/-- Normalizing a condition never gives identities back. -/
lemma ascends_tryNormalizeNode (s : Boolean B) : s.tryNormalizeNode.Ascends := by
  induction s with
  | literal value => exact fun _ => le_rfl
  | var v => exact fun _ => le_rfl
  | joined id connective left right ihl ihr =>
    rw [tryNormalizeNode, normalizeNodeWith_joined]
    have hleft := ascends_tryNormalize ihl
    have hright := ascends_tryNormalize ihr
    refine hleft.bind fun first => hright.bind fun second => ?_
    intro σ
    rw [Attempt.run_lift]
    cases hjoined : second.statement.joinedBy connective with
    | false => rw [run_joinLogical_of_not_joinedBy hjoined]
    | true =>
      rw [run_joinLogical_of_joinedBy hjoined]
      exact Nat.le_add_right _ _
  | ternary id condition ifTrue otherwise => exact fun _ => le_rfl

end Boolean

namespace Numeric

/-- Normalizing a statement conserves identities. -/
lemma Normalizes.conserves {s : Numeric A B f} {n : Normalized (Numeric A B f)}
    {index last : Nat} (h : Normalizes index s n last) :
    Conserves index {.numeric s} last {.numeric n.statement} := by
  obtain ⟨hascends, hids⟩ := h.ids_le
  refine ⟨hascends, ?_, ?_⟩
  · rwa [liveIds_singleton, liveIds_singleton]
  · rw [allWellFormed_singleton, allWellFormed_singleton]
    exact h.wellFormed

/-- Announcing a statement hands out no identity. -/
lemma ascends_tryNormalize {s : Numeric A B f} (h : s.tryNormalizeNode.Ascends) :
    s.tryNormalize.Ascends := by
  intro σ
  rw [run_tryNormalize]
  exact h { σ with messages := σ.messages ++ [.normalizing s.kind] }

/-- Normalizing a statement never gives identities back. -/
lemma ascends_tryNormalizeNode (s : Numeric A B f) : s.tryNormalizeNode.Ascends := by
  induction s with
  | literal value => exact fun _ => le_rfl
  | var v => exact fun _ => le_rfl
  | additive id sign left right ihl ihr =>
    rw [tryNormalizeNode, normalizeNodeWith_additive]
    have hleft := ascends_tryNormalize ihl
    have hright := ascends_tryNormalize ihr
    refine hleft.bind fun first => hright.bind fun second => ?_
    intro σ
    rw [Attempt.run_lift]
    cases hmergeable : second.statement.isMergeable with
    | false => rw [run_joinAdditive_of_not_isMergeable hmergeable]
    | true =>
      rw [run_joinAdditive_of_isMergeable hmergeable]
      exact Nat.le_add_right _ _
  | scaled id scaling left right => cases scaling <;> exact fun _ => le_rfl
  | round id mode operand => exact fun _ => le_rfl
  | ternary id condition ifTrue otherwise => exact fun _ => le_rfl

end Numeric

/-- Normalizing and then going on conserves identities if both do. What the continuations own is
kept while the statement is normalized, and dropped if that fails. -/
lemma conserves_proceed {S T : Type} {node : S → Node A B f} {s : S}
    {attempt : Attempt (Normalized S)} {captured : Multiset (Node A B f)}
    {given : T → Multiset (Node A B f)} {onNormalized onUnchanged : S → Work T}
    (hascends : attempt.Ascends)
    (hattempt : ∀ n σ σ', attempt.run.run σ = (.ok n, σ') →
      Conserves σ.nextIndex {node s} σ'.nextIndex {node n.statement})
    (hnormalized : ∀ r σ, Conserves σ.nextIndex ({node r} + captured)
      ((onNormalized r).run σ).2.nextIndex (given ((onNormalized r).run σ).1))
    (hunchanged : ∀ r σ, Conserves σ.nextIndex ({node r} + captured)
      ((onUnchanged r).run σ).2.nextIndex (given ((onUnchanged r).run σ).1)) (σ : Session) :
    Conserves σ.nextIndex ({node s} + captured)
      ((attempt >>= fun n => ExceptT.lift
        (n.proceed onNormalized onUnchanged)).run.run σ).2.nextIndex
      (onSuccess given ((attempt >>= fun n => ExceptT.lift
        (n.proceed onNormalized onUnchanged)).run.run σ).1) := by
  have hlast := hascends σ
  obtain ⟨result, σ', hrun⟩ : ∃ result σ', attempt.run.run σ = (result, σ') := ⟨_, _, rfl⟩
  rw [hrun] at hlast
  cases result with
  | ok n =>
    rw [Attempt.run_bind_of_ok hrun, Attempt.run_lift]
    refine ((hattempt n σ σ' hrun).frame captured).trans ?_
    rw [Normalized.proceed]
    split
    · exact hnormalized n.statement σ'
    · exact hunchanged n.statement σ'
  | error fault =>
    rw [Attempt.run_bind_of_error hrun]
    exact .nothing hlast

/-! ### Work that moves statements -/

/-- Work that moves statements conserves identities, wherever it starts. -/
theorem Moves.conserves {T : Type} {work : Work T} {taken : Multiset (Node A B f)}
    {given : T → Multiset (Node A B f)} (h : Moves taken work given) (σ : Session) :
    Conserves σ.nextIndex taken (work.run σ).2.nextIndex (given (work.run σ).1) := by
  induction h generalizing σ with
  | done t => exact .of_le le_rfl σ.nextIndex
  | dropped hkept _ ih => exact (Conserves.of_le hkept σ.nextIndex).trans (ih σ)
  | @leaf _ _ _ taken s hs _ ih =>
    have hleaf : Conserves σ.nextIndex 0 σ.nextIndex {s} := .leaf hs σ.nextIndex
    have hframed := hleaf.frame taken
    rw [zero_add, add_comm] at hframed
    exact hframed.trans (ih σ)
  | built hwork => exact hwork.conserves σ
  | tried hattempt =>
    obtain ⟨s, σ', hrun, hconserves⟩ | ⟨fault, hrun⟩ := hattempt.allOrNothing σ
    · rw [hrun]
      exact hconserves
    · rw [hrun]
      exact .nothing le_rfl
  | @numeric _ _ s captured _ _ _ _ ihn ihu =>
    rw [Numeric.normalizeNodeWith_eq]
    refine conserves_proceed s.ascends_tryNormalizeNode ?_ ihn ihu σ
    intro n σ σ' hrun
    exact (Numeric.normalizes_of_tryNormalizeNode_eq_ok hrun).conserves
  | @boolean _ _ s captured _ _ _ _ ihn ihu =>
    rw [Boolean.normalizeNodeWith_eq]
    refine conserves_proceed s.ascends_tryNormalizeNode ?_ ihn ihu σ
    intro n σ σ' hrun
    exact (Boolean.normalizes_of_tryNormalizeNode_eq_ok hrun).conserves
  | recorded message => exact .of_le le_rfl σ.nextIndex
  | followed others _ _ ihw ihn => exact ((ihw σ).frame others).trans (ihn _ _)

/-- In every reachable state the identities in all live statements are distinct and below the next
one, literals are finite, variables have proper names, and no divisor is a literal zero. An attempt
to build a statement that fails leaves the session as it is. -/
theorem nodup_liveIds_of_reachable (A B : Type) (f : Format) :
    (∀ (live : Multiset (Node A B f)) (σ : Session), Reachable live σ →
      (liveIds live).Nodup ∧ (∀ id ∈ liveIds live, id.index < σ.nextIndex) ∧
        AllWellFormed live) ∧
    ∀ (S : Type) (node : S → Node A B f) (taken : Multiset (Node A B f)) (attempt : Attempt S),
      Tries node taken attempt → ∀ (σ σ' : Session) (fault : Fault),
        attempt.run.run σ = (.error fault, σ') → σ' = σ := by
  constructor
  · rintro live σ ⟨T, work, given, t, hwork, hrun, rfl⟩
    have hconserves := hwork.conserves .start
    have hids := hconserves.liveIds_le
    rw [hrun, liveIds_zero, zero_add] at hids
    refine ⟨Multiset.nodup_of_le hids (nodup_fresh _ _), ?_, ?_⟩
    · intro id hid
      exact index_lt_of_mem_fresh (Multiset.mem_of_le hids hid)
    · have hwellFormed := hconserves.allWellFormed allWellFormed_zero
      rwa [hrun] at hwellFormed
  · intro S node taken attempt hattempt σ σ' fault hrun
    obtain ⟨s, τ, hok, _⟩ | ⟨fault', herror⟩ := hattempt.allOrNothing σ
    · rw [hok] at hrun
      cases hrun
    · rw [herror] at hrun
      cases hrun
      rfl

/-- A difference is normalized, and the continuation rounds the result. The two operations that were
merged are gone, and so are their identities. A quotient that is refused takes no identity. In a
longer session a conjunction is flattened and joined to another condition, and while the result is
live, a difference is normalized; the continuation of a last normalization owns the condition and
makes a ternary of both. -/
theorem nodup_liveIds_of_rounded_difference :
    let two : FiniteNumber .double := ⟨false, 0x4000000000000000, by decide⟩
    let zero : FiniteNumber .double := ⟨true, 0, by decide⟩
    let urgency := Quantity.urgency .double
    let impact := Quantity.impact .double
    let vip := Condition.vip
    let businessRelated := Condition.businessRelated
    let work : Work (Except Fault (Quantity .double)) := do
      let inner ← Numeric.newAdditive .plus (.literal two) urgency
      let outer ← Numeric.newAdditive .minus impact inner
      (outer.normalizeWith (Numeric.newRound .ceiling) pure).run
    let quotient : Attempt (Quantity .double) := Numeric.newScaled .divide impact (.literal zero)
    let flat : Condition := .joined ⟨3⟩ .and (.joined ⟨2⟩ .and vip businessRelated) vip
    let either : Condition := .joined ⟨4⟩ .or flat businessRelated
    let sum : Quantity .double := .additive ⟨6⟩ .plus impact (.literal two)
    let choice : Quantity .double := .ternary ⟨7⟩ either sum urgency
    (∃ s σ, work.run .start = (.ok s, σ) ∧ s.ids = {⟨4⟩} + ({⟨3⟩} + ({⟨2⟩} + (0 + 0) + 0)) ∧
      s.ids.Nodup ∧ s.WellFormed) ∧
    (∃ σ, quotient.run.run ⟨7, []⟩ = (.error .divisionByZero, σ) ∧ σ = ⟨7, []⟩) ∧
    ∃ messages, Reachable {Node.numeric choice} ⟨8, messages⟩ ∧ choice.ids.Nodup ∧
      choice.WellFormed := by
  intro two zero urgency impact vip businessRelated work quotient flat either sum choice
  obtain ⟨hreachable, hfails⟩ :=
    nodup_liveIds_of_reachable (NumberSource .double) FlagSource .double
  have hwork : Moves 0 work (onSuccess fun s => {Node.numeric s}) := by
    refine .leaf (s := .numeric (.literal two)) rfl ?_
    rw [zero_add]
    refine (Moves.builtOnLeaf (.additive .plus (.literal two) urgency) rfl).andThen fun inner => ?_
    refine .leaf (s := .numeric impact) rfl ?_
    rw [add_comm]
    refine (Moves.built (.additive .minus _ _)).andThen fun outer => ?_
    rw [← add_zero {Node.numeric outer}]
    refine .normalizeNumeric (fun r => ?_) fun r => .pure_of_le (Multiset.le_add_right _ _)
    rw [add_zero]
    exact .built (.round .ceiling r)
  have hnested : Moves (0 : Multiset (Formula .double)) (do
      let inner ← Boolean.newJoined .and businessRelated vip
      Boolean.newJoined .and vip inner) fun s => {Node.boolean s} := by
    refine .leaf (s := .boolean businessRelated) rfl ?_
    rw [zero_add]
    refine (Moves.builtOnLeaf (.joined .and businessRelated vip) rfl).andThen fun inner => ?_
    refine .leaf (s := .boolean vip) rfl ?_
    rw [add_comm]
    exact .built (.joined .and vip inner)
  -- The conjunction is flat by now, so the second continuation runs.
  have heither : Moves ({Node.boolean flat} : Multiset (Formula .double))
      (flat.normalize none (some fun s => Boolean.newJoined .or s businessRelated)).run
      (onSuccess fun s => {Node.boolean s}) := by
    rw [← add_zero {Node.boolean flat}]
    refine .normalizeBooleanOptional (by simp) ?_
    rintro _ ⟨⟩ s
    rw [add_zero]
    exact .builtOnLeaf (.joined .or s businessRelated) rfl
  have hdifference : Moves (0 : Multiset (Formula .double))
      (Numeric.newAdditive .minus impact (.literal two.negated)) fun s => {Node.numeric s} := by
    refine .leaf (s := .numeric impact) rfl ?_
    rw [zero_add]
    exact .builtOnLeaf (.additive .minus impact (.literal two.negated)) rfl
  have hchoice : Moves ({Node.numeric sum} + {Node.boolean either})
      (sum.normalize none (some fun s => Numeric.newTernary either s urgency)).run
      (onSuccess fun s => {Node.numeric s}) := by
    refine .normalizeNumericOptional (by simp) ?_
    rintro _ ⟨⟩ s
    rw [add_comm]
    exact .builtOnLeaf (.numericTernary either s urgency) rfl
  obtain ⟨messages, hflat⟩ : ∃ messages,
      Reachable ({Node.boolean flat} : Multiset (Formula .double)) ⟨4, messages⟩ := by
    have hlive := (Reachable.start.stepAll hnested rfl).stepAll (.tryNormalizeBoolean _) rfl
    exact ⟨_, hlive⟩
  obtain ⟨messages', hboth⟩ : ∃ messages,
      Reachable ({Node.numeric sum} + {Node.boolean either}) ⟨7, messages⟩ := by
    have hlive := hflat.stepAll heither rfl
    rw [onSuccess, ← zero_add {Node.boolean _}] at hlive
    have hlive' := (hlive.step hdifference rfl).step (.tryNormalizeNumeric _) rfl
    exact ⟨_, hlive'⟩
  have hlive := hboth.stepAll hchoice rfl
  have hrounded := hreachable _ _ ⟨_, work, _, _, hwork, rfl, rfl⟩
  have hchosen := hreachable _ _ hlive
  simp only [onSuccess, liveIds_singleton, allWellFormed_singleton] at hrounded hchosen
  refine ⟨⟨_, _, rfl, rfl, hrounded.1, hrounded.2.2⟩, ⟨_, rfl, ?_⟩, _, hlive, hchosen.1,
    hchosen.2.2⟩
  exact hfails _ _ _ quotient (.scaled .divide _ _) ⟨7, []⟩ _ .divisionByZero rfl

end PriorityFormula
