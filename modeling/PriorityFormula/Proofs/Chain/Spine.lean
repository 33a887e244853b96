import PriorityFormula.Proofs.Chain.Additive
import PriorityFormula.Proofs.Chain.Logical

/-!
# Left spines

Going down the left operands of a chain leads to its leftmost operand. The operations passed on the
way are the links of the left spine; without its left operand each of them is an identity, an
operator and a right operand. The leftmost operand and the links make up the statement.

A chain is flat if no right operand on its left spine would go on with the chain. Splitting a flat
chain takes its links apart and nothing else, and folding them again only renews their identities.
-/

namespace PriorityFormula

/-- An operation of a chain without its left operand. -/
structure Link (O S : Type) where
  id : Id
  operator : O
  right : S

section Links

variable {O S : Type}

/-- Links with identities that ascend from a first one. -/
def freshLinks : Nat → List (O × S) → List (Link O S)
  | _, [] => []
  | index, (operator, right) :: rest => ⟨⟨index⟩, operator, right⟩ :: freshLinks (index + 1) rest

@[simp] lemma length_freshLinks (index : Nat) (ts : List (O × S)) :
    (freshLinks index ts).length = ts.length := by
  induction ts generalizing index with
  | nil => rfl
  | cons t rest ih => rw [freshLinks, List.length_cons, ih, List.length_cons]

@[simp] lemma map_right_freshLinks (index : Nat) (ts : List (O × S)) :
    (freshLinks index ts).map Link.right = ts.map Prod.snd := by
  induction ts generalizing index with
  | nil => rfl
  | cons t rest ih => rw [freshLinks, List.map_cons, ih, List.map_cons]

/-- The identities of fresh links are consecutive. -/
lemma map_index_freshLinks (index : Nat) (ts : List (O × S)) :
    (freshLinks index ts).map (·.id.index) = List.range' index ts.length := by
  induction ts generalizing index with
  | nil => rfl
  | cons t rest ih => rw [freshLinks, List.map_cons, ih, List.length_cons, List.range'_succ]

end Links

/-! ### Conditions -/

namespace Boolean

variable {B : Type}

/-- The leftmost part of a condition. -/
def leftmost (connective : Connective) : Boolean B → Boolean B
  | joined id own left right =>
    if own = connective then left.leftmost connective else joined id own left right
  | literal value => literal value
  | var v => var v
  | ternary id condition ifTrue otherwise => ternary id condition ifTrue otherwise

/-- The links on the left spine of a condition, from the innermost one outwards. -/
def spine (connective : Connective) : Boolean B → List (Link Connective (Boolean B))
  | joined id own left right =>
    if own = connective then left.spine connective ++ [⟨id, own, right⟩] else []
  | literal _ | var _ | ternary .. => []

/-- No right operand on the left spine is joined by the connective of the spine. -/
def FlatSpine (connective : Connective) (s : Boolean B) : Prop :=
  ∀ link ∈ s.spine connective, link.right.joinedBy connective = false

/-- The condition with identities on its left spine that ascend from a first one. -/
def renumbered (connective : Connective) (index : Nat) : Boolean B → Boolean B
  | joined id own left right =>
    if own = connective then
      joined ⟨index + (left.spine connective).length⟩ own (left.renumbered connective index) right
    else joined id own left right
  | literal value => literal value
  | var v => var v
  | ternary id condition ifTrue otherwise => ternary id condition ifTrue otherwise

/-- A condition that is not joined by the connective has no links and is its own leftmost part. -/
lemma spine_of_not_joinedBy {connective : Connective} {s : Boolean B}
    (h : s.joinedBy connective = false) :
    s.spine connective = [] ∧ s.leftmost connective = s ∧
      ∀ index, s.renumbered connective index = s := by
  cases s with
  | literal value => exact ⟨rfl, rfl, fun _ => rfl⟩
  | var v => exact ⟨rfl, rfl, fun _ => rfl⟩
  | joined id own left right =>
    have hown : own ≠ connective := beq_eq_false_iff_ne.mp h
    exact ⟨if_neg hown, if_neg hown, fun _ => if_neg hown⟩
  | ternary id condition ifTrue otherwise => exact ⟨rfl, rfl, fun _ => rfl⟩

/-- The spine of a chain is that of its head and a fresh link for each part. -/
lemma spine_chainFrom (connective : Connective) (index : Nat) (head : Boolean B)
    (ps : List (Boolean B)) :
    (chainFrom connective index head ps).spine connective =
      head.spine connective ++ freshLinks index (ps.map (connective, ·)) := by
  induction ps generalizing index head with
  | nil => rw [chainFrom, List.map_nil, freshLinks, List.append_nil]
  | cons p rest ih =>
    rw [chainFrom, ih, spine, if_pos rfl, List.append_assoc, List.map_cons, freshLinks,
      List.singleton_append]

/-- The leftmost part of a chain is that of its head. -/
lemma leftmost_chainFrom (connective : Connective) (index : Nat) (head : Boolean B)
    (ps : List (Boolean B)) :
    (chainFrom connective index head ps).leftmost connective = head.leftmost connective := by
  induction ps generalizing index head with
  | nil => rfl
  | cons p rest ih => rw [chainFrom, ih, leftmost, if_pos rfl]

/-- Splitting a condition gives its leftmost part and all other parts. -/
lemma splitHead_eq (connective : Connective) (s : Boolean B) :
    (s.splitHead connective).1 = s.leftmost connective ∧
      s.parts connective = s.leftmost connective :: (s.splitHead connective).2 := by
  induction s with
  | literal value => exact ⟨rfl, rfl⟩
  | var v => exact ⟨rfl, rfl⟩
  | joined id own left right ihl ihr =>
    obtain ⟨hhead, hparts⟩ := ihl
    rw [splitHead, leftmost, parts]
    split
    · exact ⟨hhead, by rw [hparts, List.cons_append]⟩
    · exact ⟨rfl, rfl⟩
  | ternary id condition ifTrue otherwise => exact ⟨rfl, rfl⟩

/-- The spine of a joined condition is flat exactly if that of its left operand is and its right
operand is outside the chain. -/
lemma flatSpine_joined_iff {connective : Connective} {id : Id} {left right : Boolean B} :
    (joined id connective left right).FlatSpine connective ↔
      left.FlatSpine connective ∧ right.joinedBy connective = false := by
  rw [FlatSpine, spine, if_pos rfl, List.forall_mem_append, List.forall_mem_singleton]
  rfl

/-- A condition without links has a flat spine. -/
lemma flatSpine_of_not_joinedBy {connective : Connective} {s : Boolean B}
    (h : s.joinedBy connective = false) : s.FlatSpine connective := by
  rw [FlatSpine, (spine_of_not_joinedBy h).1]
  exact List.forall_mem_nil _

/-- Splitting leaves nothing behind the leftmost part exactly if the condition is not joined by the
connective. -/
lemma splitHead_snd_eq_nil_iff {connective : Connective} {s : Boolean B} :
    (s.splitHead connective).2 = [] ↔ s.joinedBy connective = false := by
  cases s with
  | literal value => exact iff_of_true rfl rfl
  | var v => exact iff_of_true rfl rfl
  | joined id own left right =>
    by_cases hown : own = connective
    · have hparts : (left.splitHead connective).2 ++ right.parts connective ≠ [] :=
        List.append_ne_nil_of_right_ne_nil _ (parts_ne_nil connective right)
      rw [splitHead, if_pos hown, joinedBy, beq_eq_false_iff_ne]
      exact iff_of_false hparts (not_not_intro hown)
    · rw [splitHead, if_neg hown, joinedBy, beq_eq_false_iff_ne]
      exact iff_of_true rfl hown
  | ternary id condition ifTrue otherwise => exact iff_of_true rfl rfl

/-- Splitting a flat chain takes its links apart and nothing else. -/
lemma splitHead_of_flatSpine {connective : Connective} {s : Boolean B}
    (h : s.FlatSpine connective) :
    (s.splitHead connective).2 = (s.spine connective).map Link.right := by
  induction s with
  | literal value => rfl
  | var v => rfl
  | joined id own left right ihl ihr =>
    by_cases hown : own = connective
    · subst hown
      obtain ⟨hleft, hright⟩ := flatSpine_joined_iff.mp h
      rw [splitHead, spine, if_pos rfl, if_pos rfl, List.map_append, ← ihl hleft,
        parts_of_not_joinedBy hright]
      rfl
    · rw [splitHead, spine, if_neg hown, if_neg hown]
      rfl
  | ternary id condition ifTrue otherwise => rfl

/-- Putting a flat chain together again renews the identities on its spine. -/
lemma chainFrom_splitHead_of_flatSpine {connective : Connective} {s : Boolean B}
    (h : s.FlatSpine connective) (index : Nat) :
    chainFrom connective index (s.splitHead connective).1 (s.splitHead connective).2 =
      s.renumbered connective index := by
  induction s with
  | literal value => rfl
  | var v => rfl
  | joined id own left right ihl ihr =>
    by_cases hown : own = connective
    · subst hown
      obtain ⟨hleft, hright⟩ := flatSpine_joined_iff.mp h
      have hlength : (left.splitHead own).2.length = (left.spine own).length := by
        rw [splitHead_of_flatSpine hleft, List.length_map]
      rw [splitHead, if_pos rfl, renumbered, if_pos rfl, parts_of_not_joinedBy hright,
        chainFrom_append, ihl hleft, hlength]
      rfl
    · rw [splitHead, renumbered, if_neg hown, if_neg hown]
      rfl
  | ternary id condition ifTrue otherwise => rfl

end Boolean

/-! ### Numeric statements -/

namespace Numeric

variable {A B : Type} {f : Format}

/-- The leftmost operand of a statement that is neither a sum nor a difference. -/
def leftmost : Numeric A B f → Numeric A B f
  | additive _ _ left _ => left.leftmost
  | literal value => literal value
  | var v => var v
  | scaled id scaling left right => scaled id scaling left right
  | round id mode operand => round id mode operand
  | ternary id condition ifTrue otherwise => ternary id condition ifTrue otherwise

/-- The links on the left spine of a statement, from the innermost one outwards. -/
def spine : Numeric A B f → List (Link Sign (Numeric A B f))
  | additive id sign left right => left.spine ++ [⟨id, sign, right⟩]
  | literal _ | var _ | scaled .. | round .. | ternary .. => []

/-- The statements that sums and differences make up a statement from, in order. -/
def summands : Numeric A B f → List (Numeric A B f)
  | additive _ _ left right => left.summands ++ right.summands
  | literal value => [literal value]
  | var v => [var v]
  | scaled id scaling left right => [scaled id scaling left right]
  | round id mode operand => [round id mode operand]
  | ternary id condition ifTrue otherwise => [ternary id condition ifTrue otherwise]

/-- A literal below zero without its minus sign; all other statements stay as they are, also a
literal zero that carries a minus sign. -/
def withoutMinus : Numeric A B f → Numeric A B f
  | literal value => if value.isNegative then literal value.negated else literal value
  | var v => var v
  | additive id sign left right => additive id sign left right
  | scaled id scaling left right => scaled id scaling left right
  | round id mode operand => round id mode operand
  | ternary id condition ifTrue otherwise => ternary id condition ifTrue otherwise

/-- No right operand on the left spine is a sum, a difference or a literal below zero. -/
def FlatSpine (s : Numeric A B f) : Prop :=
  ∀ link ∈ s.spine, link.right.isAdditive = false ∧ link.right.isNegativeLiteral = false

/-- The statement with identities on its left spine that ascend from a first one. -/
def renumbered (index : Nat) : Numeric A B f → Numeric A B f
  | additive _ sign left right =>
    additive ⟨index + left.spine.length⟩ sign (left.renumbered index) right
  | literal value => literal value
  | var v => var v
  | scaled id scaling left right => scaled id scaling left right
  | round id mode operand => round id mode operand
  | ternary id condition ifTrue otherwise => ternary id condition ifTrue otherwise

/-- A statement that is neither a sum nor a difference has no links and is its own leftmost
operand. -/
lemma spine_of_not_isAdditive {s : Numeric A B f} (h : s.isAdditive = false) :
    s.spine = [] ∧ s.leftmost = s ∧ ∀ index, s.renumbered index = s := by
  cases s with
  | additive id sign left right => cases h
  | literal value => exact ⟨rfl, rfl, fun _ => rfl⟩
  | var v => exact ⟨rfl, rfl, fun _ => rfl⟩
  | scaled id scaling left right => exact ⟨rfl, rfl, fun _ => rfl⟩
  | round id mode operand => exact ⟨rfl, rfl, fun _ => rfl⟩
  | ternary id condition ifTrue otherwise => exact ⟨rfl, rfl, fun _ => rfl⟩

/-- The spine of a chain is that of its head and a fresh link for each term. -/
lemma spine_chainFrom (index : Nat) (head : Numeric A B f) (ts : List (Sign × Numeric A B f)) :
    (chainFrom index head ts).spine = head.spine ++ freshLinks index ts := by
  induction ts generalizing index head with
  | nil => rw [chainFrom, freshLinks, List.append_nil]
  | cons t rest ih =>
    rw [chainFrom, ih, spine, List.append_assoc, freshLinks, List.singleton_append]

/-- The leftmost operand of a chain is that of its head. -/
lemma leftmost_chainFrom (index : Nat) (head : Numeric A B f)
    (ts : List (Sign × Numeric A B f)) : (chainFrom index head ts).leftmost = head.leftmost := by
  induction ts generalizing index head with
  | nil => rfl
  | cons t rest ih => rw [chainFrom, ih, leftmost]

/-- The leftmost operand is neither a sum nor a difference. -/
lemma isAdditive_leftmost (s : Numeric A B f) : s.leftmost.isAdditive = false := by
  induction s with
  | additive id sign left right ihl ihr => exact ihl
  | literal value => rfl
  | var v => rfl
  | scaled id scaling left right => rfl
  | round id mode operand => rfl
  | ternary id condition ifTrue otherwise => rfl

/-- The terms of a statement are its summands behind signs. -/
lemma map_snd_terms (s : Numeric A B f) (sign : Sign) :
    (s.terms sign).map Prod.snd = s.summands.map withoutMinus := by
  induction s generalizing sign with
  | literal value =>
    rw [terms, summands, List.map_singleton, withoutMinus]
    split <;> rfl
  | var v => rfl
  | additive id inner left right ihl ihr =>
    rw [terms, List.map_append, ihl, ihr, summands, List.map_append]
  | scaled id scaling left right => rfl
  | round id mode operand => rfl
  | ternary id condition ifTrue otherwise => rfl

/-- Splitting a statement gives its leftmost operand as it is and all other summands behind
signs. -/
lemma splitHead_eq (s : Numeric A B f) :
    s.splitHead.1 = s.leftmost ∧ ∃ behind, s.summands = s.leftmost :: behind ∧
      s.splitHead.2.map Prod.snd = behind.map withoutMinus := by
  induction s with
  | literal value => exact ⟨rfl, [], rfl, rfl⟩
  | var v => exact ⟨rfl, [], rfl, rfl⟩
  | additive id sign left right ihl ihr =>
    obtain ⟨hhead, behind, hsummands, hterms⟩ := ihl
    refine ⟨hhead, behind ++ right.summands, ?_, ?_⟩
    · rw [summands, hsummands, leftmost, List.cons_append]
    · rw [splitHead, List.map_append, hterms, map_snd_terms, List.map_append]
  | scaled id scaling left right => exact ⟨rfl, [], rfl, rfl⟩
  | round id mode operand => exact ⟨rfl, [], rfl, rfl⟩
  | ternary id condition ifTrue otherwise => exact ⟨rfl, [], rfl, rfl⟩

/-- A statement that need not be merged is its own only term. -/
lemma terms_of_not_mergeable {s : Numeric A B f}
    (h : s.isAdditive = false ∧ s.isNegativeLiteral = false) (sign : Sign) :
    s.terms sign = [(sign, s)] := by
  obtain ⟨hadditive, hnegative⟩ := h
  cases s with
  | literal value =>
    have hvalue : ¬ value.isNegative = true := ne_true_of_eq_false hnegative
    rw [terms, if_neg hvalue]
  | var v => rfl
  | additive id inner left right => cases hadditive
  | scaled id scaling left right => rfl
  | round id mode operand => rfl
  | ternary id condition ifTrue otherwise => rfl

/-- The spine of a sum or difference is flat exactly if that of its left operand is and its right
operand need not be merged. -/
lemma flatSpine_additive_iff {id : Id} {sign : Sign} {left right : Numeric A B f} :
    (additive id sign left right).FlatSpine ↔
      left.FlatSpine ∧ right.isAdditive = false ∧ right.isNegativeLiteral = false := by
  rw [FlatSpine, spine, List.forall_mem_append, List.forall_mem_singleton]
  rfl

/-- A statement without links has a flat spine. -/
lemma flatSpine_of_not_isAdditive {s : Numeric A B f} (h : s.isAdditive = false) :
    s.FlatSpine := by
  rw [FlatSpine, (spine_of_not_isAdditive h).1]
  exact List.forall_mem_nil _

/-- Splitting leaves nothing behind the leftmost operand exactly if the statement is neither a sum
nor a difference. -/
lemma splitHead_snd_eq_nil_iff {s : Numeric A B f} :
    s.splitHead.2 = [] ↔ s.isAdditive = false := by
  cases s with
  | literal value => exact iff_of_true rfl rfl
  | var v => exact iff_of_true rfl rfl
  | additive id sign left right =>
    have hterms : left.splitHead.2 ++ right.terms sign ≠ [] :=
      List.append_ne_nil_of_right_ne_nil _ (terms_ne_nil sign right)
    exact iff_of_false hterms Bool.noConfusion
  | scaled id scaling left right => exact iff_of_true rfl rfl
  | round id mode operand => exact iff_of_true rfl rfl
  | ternary id condition ifTrue otherwise => exact iff_of_true rfl rfl

/-- Splitting a flat chain takes its links apart and nothing else. -/
lemma splitHead_of_flatSpine {s : Numeric A B f} (h : s.FlatSpine) :
    s.splitHead.2 = s.spine.map fun link => (link.operator, link.right) := by
  induction s with
  | literal value => rfl
  | var v => rfl
  | additive id sign left right ihl ihr =>
    obtain ⟨hleft, hright⟩ := flatSpine_additive_iff.mp h
    rw [splitHead, spine, List.map_append, ← ihl hleft, terms_of_not_mergeable hright]
    rfl
  | scaled id scaling left right => rfl
  | round id mode operand => rfl
  | ternary id condition ifTrue otherwise => rfl

/-- Putting a flat chain together again renews the identities on its spine. -/
lemma chainFrom_splitHead_of_flatSpine {s : Numeric A B f} (h : s.FlatSpine) (index : Nat) :
    chainFrom index s.splitHead.1 s.splitHead.2 = s.renumbered index := by
  induction s with
  | literal value => rfl
  | var v => rfl
  | additive id sign left right ihl ihr =>
    obtain ⟨hleft, hright⟩ := flatSpine_additive_iff.mp h
    have hlength : left.splitHead.2.length = left.spine.length := by
      rw [splitHead_of_flatSpine hleft, List.length_map]
    rw [splitHead, renumbered, terms_of_not_mergeable hright, chainFrom_append, ihl hleft, hlength]
    rfl
  | scaled id scaling left right => rfl
  | round id mode operand => rfl
  | ternary id condition ifTrue otherwise => rfl

end Numeric

end PriorityFormula
