import PriorityFormula.Context
import PriorityFormula.Proofs.Normalize.Continuation
import PriorityFormula.Proofs.Normalize.Equality
import PriorityFormula.Proofs.Statement.Alike
import PriorityFormula.Proofs.Statement.Nodes

/-!
# What normalizing records

The messages recorded while a statement is normalized can be read off the statement. A statement is
announced, and then come the messages of its left and of its right operand, as far as normalizing
gets. If both operands have a normal form and the right one had to be merged, then this is reported
at the end. The report shows a chain that was just put together from rewritten operands, but since
flattening does not show in the text, it is the text of the original statement.

Hence the announcements list the nodes of the tree in pre-order, up to the first one of a kind that
has no normal form, and there is one report for each node at which something was merged.
-/

namespace PriorityFormula

variable {α β : Type}

/-- Whether a message reports what was done; the other messages announce what is about to be
done. -/
def Message.isReport : Message → Bool
  | normalizing _ => false
  | mergedAdditive _ | mergedLogical _ _ | createdAdditive _ | createdLogical _ _ => true

/-! ### Messages of work -/

namespace Attempt

/-- Run from a session, work records the messages `log`, also if it fails. -/
def Records (x : Attempt α) (σ : Session) (log : List Message) : Prop :=
  (x.run.run σ).2.messages = σ.messages ++ log

/-- Work that leaves the session as it is records nothing. -/
lemma records_nil {x : Attempt α} {σ : Session} (h : (x.run.run σ).2 = σ) : x.Records σ [] := by
  rw [Records, h, List.append_nil]

/-- Work that records a message first records it in front of all else. -/
lemma Records.announced {x rest : Attempt α} {σ : Session} {m : Message} {log : List Message}
    (hrun : x.run.run σ = rest.run.run { σ with messages := σ.messages ++ [m] })
    (hrest : rest.Records { σ with messages := σ.messages ++ [m] } log) :
    x.Records σ (m :: log) := by
  rw [Records] at hrest
  rw [Records, hrun, hrest, List.append_assoc, List.singleton_append]

/-- Of two pieces of work one after the other, the second one records its messages only if the first
one does not fail. -/
lemma Records.bind {x : Attempt α} {next : α → Attempt β} {σ : Session}
    {first second : List Message} {kind : Option Kind} (hx : x.Records σ first)
    (hfault : x.FailsWith (kind.map .notImplemented))
    (hnext : ∀ a σ', x.run.run σ = (.ok a, σ') → (next a).Records σ' second) :
    (x >>= next).Records σ (first ++ if kind = none then second else []) := by
  have hσ := hfault σ
  obtain ⟨result, σ', hrun⟩ : ∃ result σ', x.run.run σ = (result, σ') := ⟨_, _, rfl⟩
  rw [Records, hrun] at hx
  rw [fault?, hrun] at hσ
  cases result with
  | ok a =>
    have hafter := hnext a σ' hrun
    rw [Records] at hafter
    rw [Records, run_bind_of_ok hrun, hafter, hx, if_pos (Option.map_eq_none_iff.mp hσ.symm),
      List.append_assoc]
  | error fault =>
    have hkind : kind ≠ none := by rintro rfl; cases hσ
    rw [Records, run_bind_of_error hrun, hx, if_neg hkind, List.append_nil]

end Attempt

/-! ### Conditions -/

namespace Boolean

variable {B : Type}

/-- The report that the right operand was merged, if normalizing gets that far and it has to be. -/
def merge? : Boolean B → Option Message
  | joined id connective left right =>
    if left.obstacle = none ∧ right.obstacle = none ∧ right.joinedBy connective = true then
      some (.mergedLogical connective (joined id connective left right).text)
    else none
  | literal _ | var _ | ternary .. => none

/-- The messages of normalizing a condition. -/
def log : Boolean B → List Message
  | joined id connective left right =>
    .normalizing (joined id connective left right).kind ::
      (left.log ++ if left.obstacle = none then
        right.log ++ (joined id connective left right).merge?.toList else [])
  | literal _ => [.normalizing .booleanLiteral]
  | var _ => [.normalizing .booleanVariable]
  | ternary .. => [.normalizing .booleanTernary]

/-- Nothing is reported unless the right operand has a normal form. -/
lemma toList_merge? (id : Id) (connective : Connective) (left right : Boolean B) :
    (joined id connective left right).merge?.toList =
      if right.obstacle = none then (joined id connective left right).merge?.toList else [] := by
  split
  · rfl
  · next hright => rw [merge?, if_neg fun h => hright h.2.1, Option.toList_none]

/-- The outcome of normalizing has the text of the original condition. -/
lemma Normalizes.text_eq {s : Boolean B} {n : Normalized (Boolean B)} {index last : Nat}
    (h : Normalizes index s n last) : n.statement.text = s.text := by
  obtain ⟨_, hrun⟩ := h.exists_run_tryNormalize_eq []
  exact (rearranged_of_tryNormalize_eq_ok hrun).text_eq

/-- Normalizing has an outcome only where there is no obstacle. -/
lemma Normalizes.obstacle_eq_none {s : Boolean B} {n : Normalized (Boolean B)} {index last : Nat}
    (h : Normalizes index s n last) : s.obstacle = none := by
  induction h with
  | literal index value => rfl
  | var index v => rfl
  | kept id connective hleft hright hjoined ihl ihr =>
    exact obstacle_joined_eq_none_iff.mpr ⟨ihl, ihr⟩
  | merged id connective hleft hright hjoined ihl ihr =>
    exact obstacle_joined_eq_none_iff.mpr ⟨ihl, ihr⟩

/-- Putting a condition together is reported if the right operand is merged, and the report shows
the text of the original condition. -/
lemma records_joinLogical {left right : Boolean B} {first second : Normalized (Boolean B)}
    {index middle : Nat} {σ : Session} (hleft : Normalizes index left first middle)
    (hright : Normalizes middle right second σ.nextIndex) (id : Id) (connective : Connective) :
    Attempt.Records (ExceptT.lift (joinLogical id connective first second Normalized.changed
      Normalized.unchanged)) σ (joined id connective left right).merge?.toList := by
  rw [Attempt.Records, Attempt.run_lift, merge?, ← hright.joinedBy_eq connective,
    hleft.obstacle_eq_none, hright.obstacle_eq_none]
  cases hjoined : second.statement.joinedBy connective with
  | false =>
    rw [run_joinLogical_of_not_joinedBy hjoined, if_neg (by simp)]
    exact (List.append_nil _).symm
  | true =>
    have htext := (Normalizes.merged id connective hleft hright hjoined).text_eq
    rw [run_joinLogical_of_joinedBy hjoined, if_pos ⟨rfl, rfl, rfl⟩, ← htext]
    rfl

/-- Something was changed if there is a report. -/
lemma Normalizes.wasNormalized_eq {s : Boolean B} {n : Normalized (Boolean B)} {index last : Nat}
    (h : Normalizes index s n last) : n.wasNormalized = s.log.any Message.isReport := by
  induction h with
  | literal index value => rfl
  | var index v => rfl
  | @kept _ _ _ id connective left right _ _ hleft hright hjoined ihl ihr =>
    have hmerge : (joined id connective left right).merge? = none := by
      refine if_neg fun hall => Bool.false_ne_true ?_
      rw [← hjoined, hright.joinedBy_eq, hall.2.2]
    rw [log, if_pos hleft.obstacle_eq_none, hmerge, List.any_cons, List.any_append,
      List.any_append, ihl, ihr]
    simp [Message.isReport]
  | @merged _ _ _ id connective left right _ _ hleft hright hjoined ihl ihr =>
    rw [hright.joinedBy_eq] at hjoined
    rw [log, if_pos hleft.obstacle_eq_none, merge?,
      if_pos ⟨hleft.obstacle_eq_none, hright.obstacle_eq_none, hjoined⟩]
    simp [Message.isReport]

/-- Normalizing a condition records its log. -/
lemma records_log (s : Boolean B) (σ : Session) : s.tryNormalize.Records σ s.log := by
  induction s generalizing σ with
  | literal value => exact .announced (run_tryNormalize _ σ) (Attempt.records_nil rfl)
  | var v => exact .announced (run_tryNormalize _ σ) (Attempt.records_nil rfl)
  | ternary id condition ifTrue otherwise =>
    exact .announced (run_tryNormalize _ σ) (Attempt.records_nil rfl)
  | joined id connective left right ihl ihr =>
    rw [log]
    refine .announced (run_tryNormalize _ σ) ?_
    rw [tryNormalizeNode, normalizeNodeWith_joined]
    refine (ihl _).bind (failsWith_tryNormalize left.failsWith_tryNormalizeNode) ?_
    intro first σ₁ hfirst
    have hleft := normalizes_of_tryNormalize_eq_ok hfirst
    rw [toList_merge?]
    refine (ihr σ₁).bind (failsWith_tryNormalize right.failsWith_tryNormalizeNode) ?_
    intro second σ₂ hsecond
    have hright := normalizes_of_tryNormalize_eq_ok hsecond
    exact records_joinLogical hleft hright id connective

end Boolean

/-! ### Numeric statements -/

namespace Numeric

variable {A B : Type} {f : Format}

/-- The report that the right operand was merged, if normalizing gets that far and it has to be. -/
def merge? : Numeric A B f → Option Message
  | additive id sign left right =>
    if left.obstacle = none ∧ right.obstacle = none ∧ right.isMergeable = true then
      some (.mergedAdditive (additive id sign left right).text)
    else none
  | literal _ | var _ | scaled .. | round .. | ternary .. => none

/-- The messages of normalizing a statement. -/
def log : Numeric A B f → List Message
  | additive id sign left right =>
    .normalizing (additive id sign left right).kind ::
      (left.log ++ if left.obstacle = none then
        right.log ++ (additive id sign left right).merge?.toList else [])
  | literal _ => [.normalizing .numericalLiteral]
  | var _ => [.normalizing .numericalVariable]
  | scaled _ .multiply _ _ => [.normalizing .product]
  | scaled _ .divide _ _ => [.normalizing .quotient]
  | round .. => [.normalizing .round]
  | ternary .. => [.normalizing .numericalTernary]

/-- Nothing is reported unless the right operand has a normal form. -/
lemma toList_merge? (id : Id) (sign : Sign) (left right : Numeric A B f) :
    (additive id sign left right).merge?.toList =
      if right.obstacle = none then (additive id sign left right).merge?.toList else [] := by
  split
  · rfl
  · next hright => rw [merge?, if_neg fun h => hright h.2.1, Option.toList_none]

/-- The outcome of normalizing has the text of the original statement. -/
lemma Normalizes.text_eq {s : Numeric A B f} {n : Normalized (Numeric A B f)} {index last : Nat}
    (h : Normalizes index s n last) : n.statement.text = s.text := by
  obtain ⟨_, hrun⟩ := h.exists_run_tryNormalize_eq []
  exact (rearranged_of_tryNormalize_eq_ok hrun).text_eq

/-- Putting a sum or difference together is reported if the right operand is merged, and the report
shows the text of the original statement. -/
lemma records_joinAdditive {left right : Numeric A B f} {first second : Normalized (Numeric A B f)}
    {index middle : Nat} {σ : Session} (hleft : Normalizes index left first middle)
    (hright : Normalizes middle right second σ.nextIndex) (id : Id) (sign : Sign) :
    Attempt.Records (ExceptT.lift (joinAdditive id sign first second Normalized.changed
      Normalized.unchanged)) σ (additive id sign left right).merge?.toList := by
  rw [Attempt.Records, Attempt.run_lift, merge?, ← hright.isMergeable_eq, hleft.withoutIds_eq.1,
    hright.withoutIds_eq.1]
  cases hmergeable : second.statement.isMergeable with
  | false =>
    rw [run_joinAdditive_of_not_isMergeable hmergeable, if_neg (by simp)]
    exact (List.append_nil _).symm
  | true =>
    have htext := (Normalizes.merged id sign hleft hright hmergeable).text_eq
    rw [run_joinAdditive_of_isMergeable hmergeable, if_pos ⟨rfl, rfl, rfl⟩, ← htext]
    rfl

/-- Something was changed if there is a report. -/
lemma Normalizes.wasNormalized_eq {s : Numeric A B f} {n : Normalized (Numeric A B f)}
    {index last : Nat} (h : Normalizes index s n last) :
    n.wasNormalized = s.log.any Message.isReport := by
  induction h with
  | literal index value => rfl
  | var index v => rfl
  | @kept _ _ _ id sign left right _ _ hleft hright hmergeable ihl ihr =>
    have hmerge : (additive id sign left right).merge? = none := by
      refine if_neg fun hall => Bool.false_ne_true ?_
      rw [← hmergeable, hright.isMergeable_eq, hall.2.2]
    rw [log, if_pos hleft.withoutIds_eq.1, hmerge, List.any_cons, List.any_append,
      List.any_append, ihl, ihr]
    simp [Message.isReport]
  | @merged _ _ _ id sign left right _ _ hleft hright hmergeable ihl ihr =>
    rw [hright.isMergeable_eq] at hmergeable
    rw [log, if_pos hleft.withoutIds_eq.1, merge?,
      if_pos ⟨hleft.withoutIds_eq.1, hright.withoutIds_eq.1, hmergeable⟩]
    simp [Message.isReport]

/-- Normalizing a statement records its log. -/
lemma records_log (s : Numeric A B f) (σ : Session) : s.tryNormalize.Records σ s.log := by
  induction s generalizing σ with
  | literal value => exact .announced (run_tryNormalize _ σ) (Attempt.records_nil rfl)
  | var v => exact .announced (run_tryNormalize _ σ) (Attempt.records_nil rfl)
  | scaled id scaling left right =>
    cases scaling <;> exact .announced (run_tryNormalize _ σ) (Attempt.records_nil rfl)
  | round id mode operand => exact .announced (run_tryNormalize _ σ) (Attempt.records_nil rfl)
  | ternary id condition ifTrue otherwise =>
    exact .announced (run_tryNormalize _ σ) (Attempt.records_nil rfl)
  | additive id sign left right ihl ihr =>
    rw [log]
    refine .announced (run_tryNormalize _ σ) ?_
    rw [tryNormalizeNode, normalizeNodeWith_additive]
    refine (ihl _).bind (failsWith_tryNormalize left.failsWith_tryNormalizeNode) ?_
    intro first σ₁ hfirst
    have hleft := normalizes_of_tryNormalize_eq_ok hfirst
    rw [toList_merge?]
    refine (ihr σ₁).bind (failsWith_tryNormalize right.failsWith_tryNormalizeNode) ?_
    intro second σ₂ hsecond
    have hright := normalizes_of_tryNormalize_eq_ok hsecond
    exact records_joinAdditive hleft hright id sign

end Numeric

/-! ### The log and the tree -/

namespace Node

variable {A B : Type} {f : Format}

/-- The kind of the leftmost operation that normalizing gets to and that has no normal form. -/
def obstacle : Node A B f → Option Kind
  | numeric s => s.obstacle
  | boolean s => s.obstacle

/-- The report that the right operand was merged, if normalizing gets that far and it has to be. -/
def merge? : Node A B f → Option Message
  | numeric s => s.merge?
  | boolean s => s.merge?

/-- The messages of normalizing a statement. -/
def log : Node A B f → List Message
  | numeric s => s.log
  | boolean s => s.log

/-- Whether a node is of a kind that has no normal form yet. -/
def lacksNormalForm (n : Node A B f) : Bool :=
  n.kind.lacksNormalForm

/-- The nodes of a tree in pre-order, up to the first one that has no normal form. -/
def visited (n : Node A B f) : List (Node A B f) :=
  upToFirst lacksNormalForm n.nodes

/-- A sum, a difference or a joined condition, and its two operands. -/
inductive Joins : Node A B f → Node A B f → Node A B f → Prop
  | additive (id : Id) (sign : Sign) (left right : Numeric A B f) :
    Joins (.numeric (.additive id sign left right)) (.numeric left) (.numeric right)
  | joined (id : Id) (connective : Connective) (left right : Boolean B) :
    Joins (.boolean (.joined id connective left right)) (.boolean left) (.boolean right)

namespace Joins

variable {n l r : Node A B f}

lemma children_eq (h : n.Joins l r) : n.children = [l, r] := by
  cases h <;> rfl

lemma lacksNormalForm_eq (h : n.Joins l r) : n.lacksNormalForm = false := by
  cases h with
  | additive id sign left right => cases sign <;> rfl
  | joined id connective left right => cases connective <;> rfl

lemma obstacle_eq (h : n.Joins l r) : n.obstacle = l.obstacle.or r.obstacle := by
  cases h <;> rfl

lemma log_eq (h : n.Joins l r) :
    n.log = .normalizing n.kind ::
      (l.log ++ if l.obstacle = none then r.log ++ n.merge?.toList else []) := by
  cases h <;> rfl

/-- A merge is reported only where both operands have a normal form. -/
lemma merge?_eq_none (h : n.Joins l r) (hl : l.obstacle ≠ none) : n.merge? = none := by
  cases h with
  | additive id sign left right => exact if_neg fun hall => hl hall.1
  | joined id connective left right => exact if_neg fun hall => hl hall.1

end Joins

/-- Apart from sums, differences and joined conditions, a node is a leaf, or it is of a kind that
has no normal form; it is only announced. -/
lemma joins_or (n : Node A B f) :
    (∃ l r, n.Joins l r) ∨
      (n.children = [] ∧ n.lacksNormalForm = false ∧ n.obstacle = none ∨
        n.lacksNormalForm = true ∧ n.obstacle = some n.kind) ∧
        n.log = [.normalizing n.kind] ∧ n.merge? = none := by
  cases n with
  | numeric s =>
    cases s with
    | literal value => exact .inr ⟨.inl ⟨rfl, rfl, rfl⟩, rfl, rfl⟩
    | var v => exact .inr ⟨.inl ⟨rfl, rfl, rfl⟩, rfl, rfl⟩
    | additive id sign left right => exact .inl ⟨_, _, .additive id sign left right⟩
    | scaled id scaling left right => cases scaling <;> exact .inr ⟨.inr ⟨rfl, rfl⟩, rfl, rfl⟩
    | round id mode operand => exact .inr ⟨.inr ⟨rfl, rfl⟩, rfl, rfl⟩
    | ternary id condition ifTrue otherwise => exact .inr ⟨.inr ⟨rfl, rfl⟩, rfl, rfl⟩
  | boolean s =>
    cases s with
    | literal value => exact .inr ⟨.inl ⟨rfl, rfl, rfl⟩, rfl, rfl⟩
    | var v => exact .inr ⟨.inl ⟨rfl, rfl, rfl⟩, rfl, rfl⟩
    | joined id connective left right => exact .inl ⟨_, _, .joined id connective left right⟩
    | ternary id condition ifTrue otherwise => exact .inr ⟨.inr ⟨rfl, rfl⟩, rfl, rfl⟩

/-- The obstacle is the first node in pre-order that has no normal form. -/
lemma obstacle_eq_find? (n : Node A B f) :
    n.obstacle = (n.nodes.find? lacksNormalForm).map kind := by
  induction n using Node.induction with
  | step n ih =>
    rw [nodes_eq]
    obtain ⟨l, r, h⟩ | ⟨⟨hleaf, hlacks, hobstacle⟩ | ⟨hlacks, hobstacle⟩, _⟩ := n.joins_or
    · rw [h.children_eq] at ih
      have hl := ih l (List.mem_cons_self ..)
      have hr := ih r (List.mem_cons_of_mem _ (List.mem_singleton_self r))
      rw [List.find?_cons_of_neg (ne_true_of_eq_false h.lacksNormalForm_eq), h.children_eq,
        List.flatMap_cons, List.flatMap_singleton, List.find?_append, Option.map_or, ← hl, ← hr,
        h.obstacle_eq]
    · rw [List.find?_cons_of_neg (ne_true_of_eq_false hlacks), hleaf, hobstacle]
      rfl
    · rw [List.find?_cons_of_pos hlacks, hobstacle]
      rfl

/-- What is visited of a sum, a difference or a joined condition: the right operand only if the left
one has a normal form. -/
lemma Joins.visited_eq {n l r : Node A B f} (h : n.Joins l r) :
    n.visited = n :: (l.visited ++ if l.obstacle = none then r.visited else []) := by
  rw [visited, nodes_eq, upToFirst_cons_of_neg h.lacksNormalForm_eq, h.children_eq,
    List.flatMap_cons, List.flatMap_singleton, upToFirst_append, l.obstacle_eq_find?]
  simp only [Option.map_eq_none_iff, visited]

/-- Any other node is visited without its operands. -/
lemma joins_or_visited (n : Node A B f) :
    (∃ l r, n.Joins l r) ∨
      n.visited = [n] ∧ n.log = [.normalizing n.kind] ∧ n.merge? = none := by
  refine n.joins_or.imp_right fun ⟨hstops, hlog⟩ => ⟨?_, hlog⟩
  obtain ⟨hleaf, hlacks, _⟩ | ⟨hlacks, _⟩ := hstops
  · rw [visited, nodes_eq, hleaf, upToFirst_cons_of_neg hlacks]
    rfl
  · rw [visited, nodes_eq, upToFirst_cons_of_pos hlacks]

/-- A merge is reported by a report. -/
lemma isReport_of_merge? {n : Node A B f} {m : Message} (h : n.merge? = some m) :
    m.isReport = true := by
  obtain ⟨l, r, hjoins⟩ | ⟨_, _, hnone⟩ := n.joins_or
  · cases hjoins with
    | additive id sign left right =>
      obtain ⟨_, hm⟩ := Option.ite_none_right_eq_some.mp h
      cases hm
      rfl
    | joined id connective left right =>
      obtain ⟨_, hm⟩ := Option.ite_none_right_eq_some.mp h
      cases hm
      rfl
  · rw [hnone] at h
    cases h

/-- The announcements list what is visited. -/
lemma filter_not_isReport_log (n : Node A B f) :
    (n.log.filter fun m => !m.isReport) = n.visited.map fun t => .normalizing t.kind := by
  induction n using Node.induction with
  | step n ih =>
    obtain ⟨l, r, h⟩ | ⟨hvisited, hlog, _⟩ := n.joins_or_visited
    · rw [h.children_eq] at ih
      have hl := ih l (List.mem_cons_self ..)
      have hr := ih r (List.mem_cons_of_mem _ (List.mem_singleton_self r))
      have hmerge : (n.merge?.toList.filter fun m => !m.isReport) = [] := by
        cases hm : n.merge? with
        | none => rfl
        | some m => simp [isReport_of_merge? hm]
      rw [h.log_eq, h.visited_eq, List.filter_cons_of_pos rfl, List.filter_append, hl,
        List.map_cons, List.map_append]
      split
      · rw [List.filter_append, hr, hmerge, List.append_nil]
      · rfl
    · rw [hvisited, hlog]
      rfl

/-- There is one report for each visited node at which something is merged. -/
lemma perm_filter_isReport_log (n : Node A B f) :
    (n.log.filter Message.isReport).Perm (n.visited.filterMap merge?) := by
  induction n using Node.induction with
  | step n ih =>
    obtain ⟨l, r, h⟩ | ⟨hvisited, hlog, hmerge⟩ := n.joins_or_visited
    · rw [h.children_eq] at ih
      have hl := ih l (List.mem_cons_self ..)
      have hr := ih r (List.mem_cons_of_mem _ (List.mem_singleton_self r))
      have hmerge : n.merge?.toList.filter Message.isReport = n.merge?.toList := by
        cases hm : n.merge? with
        | none => rfl
        | some m => simp [isReport_of_merge? hm]
      have hroot : n.visited.filterMap merge? = n.merge?.toList ++
          (l.visited.filterMap merge? ++ if l.obstacle = none then r.visited.filterMap merge?
            else []) := by
        have hcons : ∀ ts, (n :: ts).filterMap merge? = n.merge?.toList ++ ts.filterMap merge? := by
          intro ts
          cases hm : n.merge? with
          | none => exact List.filterMap_cons_none hm
          | some m => exact List.filterMap_cons_some hm
        rw [h.visited_eq, hcons, List.filterMap_append]
        split <;> rfl
      rw [h.log_eq, hroot, List.filter_cons_of_neg Bool.false_ne_true, List.filter_append]
      split
      · -- The report of the root comes last, while the root is visited first.
        rw [List.filter_append, hmerge, ← List.append_assoc]
        exact ((hl.append hr).append_right _).trans List.perm_append_comm
      · next hobstacle =>
        rw [h.merge?_eq_none hobstacle]
        exact hl.append_right []
    · rw [hvisited, hlog, List.filterMap_cons_none hmerge]
      exact .refl _

/-- The report of a merge stands right behind the messages of both operands. -/
lemma infix_log_of_merge? (n : Node A B f) {t : Node A B f} (ht : t ∈ n.visited) {m : Message}
    (hm : t.merge? = some m) :
    (.normalizing t.kind :: t.children.flatMap log ++ [m]) <:+: n.log := by
  induction n using Node.induction with
  | step n ih =>
    obtain ⟨l, r, h⟩ | ⟨hvisited, _, hmerge⟩ := n.joins_or_visited
    · rw [h.children_eq] at ih
      have hl := ih l (List.mem_cons_self ..)
      have hr := ih r (List.mem_cons_of_mem _ (List.mem_singleton_self r))
      rw [h.visited_eq, List.mem_cons, List.mem_append] at ht
      rw [h.log_eq]
      obtain rfl | hleft | hright := ht
      · have hobstacle : l.obstacle = none := by
          by_contra hne
          rw [h.merge?_eq_none hne] at hm
          cases hm
        rw [if_pos hobstacle, hm, h.children_eq, List.flatMap_cons, List.flatMap_singleton,
          List.cons_append, List.append_assoc]
        exact List.infix_refl _
      · exact (hl hleft).trans ((List.prefix_append ..).isInfix.trans (List.suffix_cons ..).isInfix)
      · split at hright
        · next hobstacle =>
          rw [if_pos hobstacle]
          exact (hr hright).trans ⟨.normalizing n.kind :: l.log, n.merge?.toList, by simp⟩
        · cases hright
    · rw [hvisited, List.mem_singleton] at ht
      rw [ht, hmerge] at hm
      cases hm

/-- Without an obstacle all nodes are visited. -/
lemma visited_eq_nodes {n : Node A B f} (h : n.obstacle = none) : n.visited = n.nodes := by
  rw [obstacle_eq_find?, Option.map_eq_none_iff] at h
  exact upToFirst_eq_self h

/-- With an obstacle the last node that is visited is the leftmost one without a normal form. -/
lemma exists_visited_eq {n : Node A B f} {kind : Kind} (h : n.obstacle = some kind) :
    ∃ before last, n.visited = before ++ [last] ∧ last.kind = kind ∧
      last.lacksNormalForm = true ∧ ∀ t ∈ before, t.lacksNormalForm = false := by
  rw [obstacle_eq_find?] at h
  obtain ⟨last, hlast, hkind⟩ := Option.map_eq_some_iff.mp h
  refine ⟨n.nodes.takeWhile fun t => !t.lacksNormalForm, last, ?_, hkind,
    List.find?_some hlast, ?_⟩
  · rw [visited, upToFirst, hlast]
    rfl
  · intro t ht
    have hnot := List.all_eq_true.mp List.all_takeWhile t ht
    rwa [Bool.not_eq_true'] at hnot

/-- What was visited and recorded tells how normalizing ended: with an outcome after all nodes were
visited, which was changed if something was reported, or with the fault of the node visited last,
which is the leftmost one without a normal form. -/
def TellsEnd {S : Type} (n : Node A B f) : Except Fault (Normalized S) → Prop
  | .ok outcome => n.visited = n.nodes ∧
      (outcome.wasNormalized = true ↔ ∃ m ∈ n.log, m.isReport = true)
  | .error fault => ∃ before last, n.visited = before ++ [last] ∧
      fault = .notImplemented last.kind ∧ last.lacksNormalForm = true ∧
        ∀ t ∈ before, t.lacksNormalForm = false

/-- The end of normalizing is told where its fault is known and the outcome is changed exactly if
something was reported. -/
lemma tellsEnd_of_failsWith {S : Type} {n : Node A B f} {x : Attempt (Normalized S)}
    (hfault : x.FailsWith (n.obstacle.map .notImplemented))
    (hchanged : ∀ outcome σ σ', x.run.run σ = (.ok outcome, σ') →
      outcome.wasNormalized = n.log.any Message.isReport) (σ : Session) :
    n.TellsEnd (x.run.run σ).1 := by
  have hσ := hfault σ
  obtain ⟨result, σ', hrun⟩ : ∃ result σ', x.run.run σ = (result, σ') := ⟨_, _, rfl⟩
  rw [Attempt.fault?, hrun] at hσ
  rw [hrun]
  cases result with
  | ok outcome =>
    refine ⟨visited_eq_nodes (Option.map_eq_none_iff.mp hσ.symm), ?_⟩
    rw [hchanged outcome σ σ' hrun, List.any_eq_true]
  | error fault =>
    obtain ⟨kind, hkind, rfl⟩ := Option.map_eq_some_iff.mp hσ.symm
    obtain ⟨before, last, hvisited, rfl, hlast⟩ := exists_visited_eq hkind
    exact ⟨before, last, hvisited, rfl, hlast⟩

end Node

/-! ### All ways to normalize -/

/-- The log of a statement is what normalizing it records, whether it fails or not; continuations
are run after that. The announcements list the visited nodes in pre-order. There is one report for
each visited node at which something is merged, and it stands right behind the messages of the
node's operands. Normalizing succeeds where there is no obstacle, which is what a merge asks of both
operands. -/
structure Normalizer.RecordsLogOf {S A B : Type} {f : Format} (normalizer : Normalizer S)
    (n : Node A B f) : Prop where
  report (σ : Session) : normalizer.report.Records σ n.log
  resumes : normalizer.Resumes
  announcements :
    (n.log.filter fun m => !m.isReport) = n.visited.map fun t => .normalizing t.kind
  reports : (n.log.filter Message.isReport).Perm (n.visited.filterMap Node.merge?)
  report_last (t : Node A B f) (ht : t ∈ n.visited) (m : Message) (hm : t.merge? = some m) :
    (.normalizing t.kind :: t.children.flatMap Node.log ++ [m]) <:+: n.log
  succeeds (σ : Session) : normalizer.report.fault? σ = none ↔ n.obstacle = none
  ended (σ : Session) : n.TellsEnd (normalizer.report.run.run σ).1

/-- Recording the log of a tree is all that depends on the way to normalize it. -/
lemma Normalizer.RecordsLogOf.of_records {S A B : Type} {f : Format} {normalizer : Normalizer S}
    {n : Node A B f} (hrecords : ∀ σ, normalizer.report.Records σ n.log)
    (hresumes : normalizer.Resumes)
    (hfault : normalizer.report.FailsWith (n.obstacle.map .notImplemented))
    (hchanged : ∀ outcome σ σ', normalizer.report.run.run σ = (.ok outcome, σ') →
      outcome.wasNormalized = n.log.any Message.isReport) :
    normalizer.RecordsLogOf n where
  report := hrecords
  resumes := hresumes
  announcements := n.filter_not_isReport_log
  reports := n.perm_filter_isReport_log
  report_last _ ht _ hm := n.infix_log_of_merge? ht hm
  succeeds σ := by rw [hfault σ, Option.map_eq_none_iff]
  ended := Node.tellsEnd_of_failsWith hfault hchanged

/-- What normalizing records is determined by the statement, in all ways to normalize it that
announce the root. -/
theorem normalizer_recordsLogOf (A B : Type) (f : Format) :
    (∀ s : Numeric A B f, s.normalizer.RecordsLogOf (.numeric s)) ∧
      ∀ s : Boolean B, s.normalizer.RecordsLogOf (.boolean s : Node A B f) := by
  constructor
  · intro s
    have hfault := Numeric.failsWith_tryNormalize s.failsWith_tryNormalizeNode
    exact .of_records s.records_log s.resumes_normalizer hfault fun outcome σ σ' hrun =>
      (Numeric.normalizes_of_tryNormalize_eq_ok hrun).wasNormalized_eq
  · intro s
    have hfault := Boolean.failsWith_tryNormalize s.failsWith_tryNormalizeNode
    exact .of_records s.records_log s.resumes_normalizer hfault fun outcome σ σ' hrun =>
      (Boolean.normalizes_of_tryNormalize_eq_ok hrun).wasNormalized_eq

/-- The merge on the left of a sum is reported although normalizing then fails at the rounding on
the right. The report shows the subtracted sum as it is written in the original. -/
theorem normalizer_recordsLogOf_merged_and_rounded :
    let two : FiniteNumber .double := ⟨false, 0x4000000000000000, by decide⟩
    let inner : Quantity .double := .additive ⟨0⟩ .plus (.literal two.negated)
      (Quantity.impact .double)
    let merged : Quantity .double := .additive ⟨1⟩ .minus (Quantity.urgency .double) inner
    let s : Quantity .double := .additive ⟨3⟩ .plus merged
      (.round ⟨2⟩ .ceiling (Quantity.impact .double))
    let report : Message := .mergedAdditive "urgency + 2 - impact".toList
    [.normalizing .difference, .normalizing .numericalVariable, .normalizing .sum,
        .normalizing .numericalLiteral, .normalizing .numericalVariable, report] <:+:
      (s.tryNormalize.run.run ⟨4, []⟩).2.messages ∧
    s.tryNormalize.fault? ⟨4, []⟩ = some (.notImplemented .round) := by
  intro two inner merged s report
  have h := (normalizer_recordsLogOf (NumberSource .double) FlagSource .double).1 s
  have hmerge : merged.merge? = some report := by decide +kernel
  have hreport := h.report_last (.numeric merged) (by decide +kernel) report hmerge
  have hlog : (s.tryNormalize.run.run ⟨4, []⟩).2.messages = s.log := h.report ⟨4, []⟩
  rw [hlog]
  exact ⟨hreport, rfl⟩

end PriorityFormula
