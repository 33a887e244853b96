import PriorityFormula.Proofs.Normalize.Canonical
import PriorityFormula.Proofs.Ownership.Compounds

/-!
# Which identities survive normalizing

Nested sums and differences form blocks, and so do nested conditions with one connective. What is
left of a block is one chain, so at most the operations on its left spine can stay. Of these the
ones stay whose right operand need not be merged. They keep their identities and have the normal
forms of their operands; everything else in a normal form has a fresh identity.
-/

namespace PriorityFormula

/-! ### What stays and what is new -/

section Accounts

variable {S : Type} (key : S → Option Id) (first : Nat) (stays : S → Prop) (keptAs : S → S → Prop)

/-- Everything in `after` has a key that was not in use before `first`, or is what something in
`before` that stays is kept as. Whatever stays is kept as something. -/
structure Accounts (before after : List S) : Prop where
  new_or_kept : ∀ u ∈ after,
    (∃ id, key u = some id ∧ first ≤ id.index) ∨ ∃ t ∈ before, stays t ∧ keptAs t u
  exists_kept : ∀ t ∈ before, stays t → ∃ u ∈ after, keptAs t u

variable {key first stays keptAs} {before before' after after' : List S}

lemma Accounts.nil : Accounts key first stays keptAs [] [] :=
  ⟨List.forall_mem_nil _, List.forall_mem_nil _⟩

lemma Accounts.append (h : Accounts key first stays keptAs before after)
    (h' : Accounts key first stays keptAs before' after') :
    Accounts key first stays keptAs (before ++ before') (after ++ after') := by
  refine ⟨List.forall_mem_append.mpr ⟨?_, ?_⟩, List.forall_mem_append.mpr ⟨?_, ?_⟩⟩
  · intro u hu
    refine (h.new_or_kept u hu).imp_right ?_
    rintro ⟨t, ht, hkept⟩
    exact ⟨t, List.mem_append_left _ ht, hkept⟩
  · intro u hu
    refine (h'.new_or_kept u hu).imp_right ?_
    rintro ⟨t, ht, hkept⟩
    exact ⟨t, List.mem_append_right _ ht, hkept⟩
  · intro t ht hstays
    obtain ⟨u, hu, hkept⟩ := h.exists_kept t ht hstays
    exact ⟨u, List.mem_append_left _ hu, hkept⟩
  · intro t ht hstays
    obtain ⟨u, hu, hkept⟩ := h'.exists_kept t ht hstays
    exact ⟨u, List.mem_append_right _ hu, hkept⟩

/-- Something that is kept stays. -/
lemma Accounts.singleton {t u : S} (hstays : stays t) (hkept : keptAs t u) :
    Accounts key first stays keptAs [t] [u] :=
  ⟨List.forall_mem_singleton.mpr (.inr ⟨t, List.mem_singleton_self t, hstays, hkept⟩),
    List.forall_mem_singleton.mpr fun _ => ⟨u, List.mem_singleton_self u, hkept⟩⟩

/-- Something that does not stay need not be kept. -/
lemma Accounts.lost {t : S} (hstays : ¬ stays t) : Accounts key first stays keptAs [t] [] :=
  ⟨List.forall_mem_nil _, List.forall_mem_singleton.mpr fun h => absurd h hstays⟩

/-- Something new may be added. -/
lemma Accounts.cons_new (h : Accounts key first stays keptAs before after) {u : S} {id : Id}
    (hkey : key u = some id) (hfirst : first ≤ id.index) :
    Accounts key first stays keptAs before (u :: after) := by
  refine ⟨List.forall_mem_cons.mpr ⟨.inl ⟨id, hkey, hfirst⟩, h.new_or_kept⟩, ?_⟩
  intro t ht hstays
  obtain ⟨u', hu', hkept⟩ := h.exists_kept t ht hstays
  exact ⟨u', List.mem_cons_of_mem u hu', hkept⟩

/-- Among elements with different keys, all of them used before `first`, an element stays exactly if
its key is still there, and then the key is that of what the element is kept as. -/
lemma Accounts.exists_key_iff (h : Accounts key first stays keptAs before after)
    (hsame : ∀ t u, keptAs t u → key u = key t) {all : List S} (hbefore : ∀ t ∈ before, t ∈ all)
    (hdistinct : (all.filterMap key).Nodup)
    (hused : ∀ t ∈ all, ∀ id, key t = some id → id.index < first) {t : S} (ht : t ∈ all) {id : Id}
    (hid : key t = some id) :
    ((∃ u ∈ after, key u = some id) ↔ t ∈ before ∧ stays t) ∧
      ∀ u ∈ after, key u = some id → keptAs t u := by
  have hfound : ∀ u ∈ after, key u = some id → (t ∈ before ∧ stays t) ∧ keptAs t u := by
    intro u hu hkey
    obtain ⟨id', hid', hnew⟩ | ⟨t', ht', hstays, hkept⟩ := h.new_or_kept u hu
    · rw [hkey, Option.some_inj] at hid'
      subst hid'
      exact absurd (hused t ht id hid) (Nat.not_lt.mpr hnew)
    · -- The key tells which element it is.
      have hid' : key t' = some id := (hsame t' u hkept).symm.trans hkey
      obtain rfl := eq_of_key_eq_of_nodup hdistinct (hbefore t' ht') ht hid' hid
      exact ⟨⟨ht', hstays⟩, hkept⟩
  refine ⟨⟨?_, ?_⟩, fun u hu hkey => (hfound u hu hkey).2⟩
  · rintro ⟨u, hu, hkey⟩
    exact (hfound u hu hkey).1
  · rintro ⟨hmem, hstays⟩
    obtain ⟨u, hu, hkept⟩ := h.exists_kept t hmem hstays
    exact ⟨u, hu, (hsame t u hkept).trans hid⟩

end Accounts

/-- What consists of old and of fresh identities repeats none if the old ones are distinct and in
use. -/
lemma nodup_and_old_or_new {first last : Nat} {old ids : Multiset Id}
    (h : ids ≤ old + fresh first last) (hdistinct : old.Nodup)
    (hused : ∀ id ∈ old, id.index < first) :
    ids.Nodup ∧ ∀ id ∈ ids, id ∈ old ∨ first ≤ id.index := by
  refine ⟨Multiset.nodup_of_le h (nodup_add_fresh hdistinct hused last), fun id hid => ?_⟩
  exact (Multiset.mem_add.mp (Multiset.mem_of_le h hid)).imp_right le_index_of_mem_fresh

/-! ### Conditions -/

namespace Boolean

variable {B : Type}

/-- The joined conditions in a condition that lie on the left spine of their block, in pre-order.
The root counts if `onSpine` says so. -/
def leftSpines (onSpine : Bool) : Boolean B → List (Boolean B)
  | literal _ | var _ => []
  | joined id connective left right =>
    (if onSpine then [joined id connective left right] else []) ++
      -- The left operand goes on with the spine, unless it begins a block of its own.
      left.leftSpines (onSpine || !left.joinedBy connective) ++
      right.leftSpines (!right.joinedBy connective)
  | ternary _ condition ifTrue otherwise =>
    condition.leftSpines true ++ ifTrue.leftSpines true ++ otherwise.leftSpines true

/-- The right operand of a joined condition is outside its block. -/
def RightOutside : Boolean B → Prop
  | joined _ connective _ right => right.joinedBy connective = false
  | literal _ | var _ | ternary .. => False

/-- Normalizing `s`, at some moment while the next index goes from `first` to `last`, gives `r`. -/
def NormalizesTo (first last : Nat) (s r : Boolean B) : Prop :=
  ∃ σ σ' wasNormalized, s.tryNormalize.run.run σ = (.ok ⟨r, wasNormalized⟩, σ') ∧
    first ≤ σ.nextIndex ∧ σ'.nextIndex ≤ last

/-- A joined condition is kept with its identity, its connective and the normal forms of its
operands. -/
inductive KeptAs (first last : Nat) : Boolean B → Boolean B → Prop
  | joined (id : Id) (connective : Connective) {left right l r : Boolean B}
    (hleft : left.NormalizesTo first last l) (hright : right.NormalizesTo first last r) :
    KeptAs first last (joined id connective left right) (joined id connective l r)

/-- What lies on a left spine is in the condition. -/
lemma mem_compounds_of_mem_leftSpines {s t : Boolean B} {onSpine : Bool}
    (h : t ∈ s.leftSpines onSpine) : t ∈ s.compounds := by
  induction s generalizing onSpine with
  | literal value => exact h
  | var v => exact h
  | joined id connective left right ihl ihr =>
    rw [leftSpines, List.append_assoc, List.mem_append, List.mem_append] at h
    rw [compounds, List.mem_cons, List.mem_append]
    refine h.imp ?_ (Or.imp ihl ihr)
    intro hself
    split at hself
    · exact List.mem_singleton.mp hself
    · cases hself
  | ternary id condition ifTrue otherwise ihc iht iho =>
    rw [leftSpines, List.mem_append, List.mem_append] at h
    rw [compounds, List.mem_cons, List.mem_append, List.mem_append]
    exact .inr (h.imp (Or.imp ihc iht) iho)

/-- Attaching parts adds only new conditions. -/
lemma accounts_chainFrom {connective : Connective} {first index : Nat} (hindex : first ≤ index)
    {stays : Boolean B → Prop} {keptAs : Boolean B → Boolean B → Prop} {before : List (Boolean B)}
    {head : Boolean B} {ps : List (Boolean B)}
    (h : Accounts id? first stays keptAs before (head.compounds ++ ps.flatMap compounds)) :
    Accounts id? first stays keptAs before (chainFrom connective index head ps).compounds := by
  induction ps generalizing index head with
  | nil => rwa [List.flatMap_nil, List.append_nil] at h
  | cons p rest ih =>
    refine ih (hindex.trans (Nat.le_succ index)) ?_
    rw [List.flatMap_cons, ← List.append_assoc] at h
    exact h.cons_new rfl hindex

/-- A derived outcome comes from a run. -/
lemma Normalizes.normalizesTo {s : Boolean B} {n : Normalized (Boolean B)}
    {first index last final : Nat} (h : Normalizes index s n last) (hfirst : first ≤ index)
    (hlast : last ≤ final) : s.NormalizesTo first final n.statement := by
  obtain ⟨messages, hrun⟩ := h.exists_run_tryNormalize_eq []
  exact ⟨_, _, _, hrun, hfirst, hlast⟩

/-- Normalizing neither adds nor removes compound conditions. -/
lemma Normalizes.length_compounds_eq {s : Boolean B} {n : Normalized (Boolean B)}
    {index last : Nat} (h : Normalizes index s n last) :
    n.statement.compounds.length = s.compounds.length := by
  induction h with
  | literal index value => rfl
  | var index v => rfl
  | kept id connective hleft hright hjoined ihl ihr =>
    rw [compounds, compounds, List.length_cons, List.length_cons, List.length_append,
      List.length_append, ihl, ihr]
  | merged id connective hleft hright hjoined ihl ihr =>
    rw [length_compounds_chainFrom, length_flatMap_compounds_parts, compounds, List.length_cons,
      List.length_append, ihl, ihr, Nat.add_assoc]

/-- Where normalizing succeeds, all compound conditions are joined. -/
lemma Normalizes.exists_eq_joined {s : Boolean B} {n : Normalized (Boolean B)}
    {index last : Nat} (h : Normalizes index s n last) {t : Boolean B} (ht : t ∈ s.compounds) :
    ∃ id connective left right, t = joined id connective left right := by
  induction h with
  | literal index value => cases ht
  | var index v => cases ht
  | kept id connective _ _ _ ihl ihr | merged id connective _ _ _ ihl ihr =>
    rw [compounds, List.mem_cons, List.mem_append] at ht
    obtain rfl | hleft | hright := ht
    · exact ⟨_, _, _, _, rfl⟩
    · exact ihl hleft
    · exact ihr hright

/-- What is accounted for in a condition is accounted for in its parts if it is when the root is
left out, because only joined conditions have other parts than themselves. -/
lemma accounts_parts {connective : Connective} {first : Nat} {stays : Boolean B → Prop}
    {keptAs : Boolean B → Boolean B → Prop} {s r : Boolean B}
    (hjoined : r.joinedBy connective = s.joinedBy connective)
    (hall : Accounts id? first stays keptAs (s.leftSpines true) r.compounds)
    (hparts : s.joinedBy connective = true → Accounts id? first stays keptAs
      (s.leftSpines false) ((r.parts connective).flatMap compounds)) :
    Accounts id? first stays keptAs (s.leftSpines (!s.joinedBy connective))
      ((r.parts connective).flatMap compounds) := by
  cases h : s.joinedBy connective with
  | true => exact hparts h
  | false =>
    rw [parts_of_not_joinedBy (hjoined.trans h), List.flatMap_singleton]
    exact hall

/-- A normal form consists of what stays and of new conditions. A parent with the same connective
takes only the parts of the normal form, so the same is said of these; there the left spine of the
outermost block is missing. -/
lemma Normalizes.accounts {s : Boolean B} {n : Normalized (Boolean B)}
    {first index last final : Nat} (h : Normalizes index s n last) (hfirst : first ≤ index)
    (hlast : last ≤ final) :
    Accounts id? first RightOutside (KeptAs first final) (s.leftSpines true)
      n.statement.compounds ∧
    ∀ connective, s.joinedBy connective = true →
      Accounts id? first RightOutside (KeptAs first final) (s.leftSpines false)
        ((n.statement.parts connective).flatMap compounds) := by
  induction h with
  | literal index value => exact ⟨.nil, fun _ _ => .nil⟩
  | var index v => exact ⟨.nil, fun _ _ => .nil⟩
  | @kept _ _ _ id own left right n₁ n₂ hleft hright hjoined ihl ihr =>
    have hmiddle := hright.ids_le.1.trans hlast
    have hmiddle' := hfirst.trans hleft.ids_le.1
    obtain ⟨hleftAll, hleftParts⟩ := ihl hfirst hmiddle
    obtain ⟨hrightAll, hrightParts⟩ := ihr hmiddle' hlast
    have houtside : right.joinedBy own = false := (hright.joinedBy_eq own).symm.trans hjoined
    constructor
    · have hkept : KeptAs first final (joined id own left right)
          (joined id own n₁.statement n₂.statement) :=
        .joined id own (hleft.normalizesTo hfirst hmiddle) (hright.normalizesTo hmiddle' hlast)
      have hself : Accounts id? first RightOutside (KeptAs first final)
          [joined id own left right] [joined id own n₁.statement n₂.statement] :=
        .singleton houtside hkept
      rw [leftSpines, if_pos rfl, Bool.true_or, houtside, Bool.not_false, List.append_assoc]
      exact hself.append (hleftAll.append hrightAll)
    · intro connective hconnective
      obtain rfl := beq_iff_eq.mp hconnective
      rw [leftSpines, if_neg Bool.false_ne_true, List.nil_append, Bool.false_or, parts, if_pos rfl,
        List.flatMap_append]
      exact (accounts_parts (hleft.joinedBy_eq own) hleftAll (hleftParts own)).append
        (accounts_parts (hright.joinedBy_eq own) hrightAll (hrightParts own))
  | @merged _ _ last id own left right _ n₂ hleft hright hjoined ihl ihr =>
    have hmiddle := (hright.ids_le.1.trans (Nat.le_add_right last _)).trans hlast
    have hmiddle' := hfirst.trans hleft.ids_le.1
    obtain ⟨hleftAll, hleftParts⟩ := ihl hfirst hmiddle
    obtain ⟨hrightAll, hrightParts⟩ := ihr hmiddle' ((Nat.le_add_right last _).trans hlast)
    have hrightAttached := accounts_parts (hright.joinedBy_eq own) hrightAll (hrightParts own)
    constructor
    · -- The merged condition is lost, and so is the left spine of what it takes in.
      have hself : Accounts id? first RightOutside (KeptAs first final)
          [joined id own left right] [] := by
        refine .lost fun houtside => Bool.false_ne_true ?_
        rw [← houtside, ← hright.joinedBy_eq own, hjoined]
      rw [leftSpines, if_pos rfl, Bool.true_or, List.append_assoc]
      exact accounts_chainFrom (hmiddle'.trans hright.ids_le.1)
        (hself.append (hleftAll.append hrightAttached))
    · intro connective hconnective
      obtain rfl := beq_iff_eq.mp hconnective
      rw [leftSpines, if_neg Bool.false_ne_true, List.nil_append, Bool.false_or,
        parts_chainFrom (n₂.statement.not_joinedBy_of_mem_parts own), List.flatMap_append]
      exact (accounts_parts (hleft.joinedBy_eq own) hleftAll (hleftParts own)).append
        hrightAttached

/-- What is kept has the same identity. -/
lemma KeptAs.id?_eq {first last : Nat} {t u : Boolean B} (h : KeptAs first last t u) :
    u.id? = t.id? := by
  cases h with
  | joined id connective hleft hright => rfl

/-- An identity is still there exactly if the condition that had it stays, and it is then found at
what this condition is kept as. -/
lemma Normalizes.mem_ids_iff_stays {s : Boolean B} {n : Normalized (Boolean B)} {index last : Nat}
    (h : Normalizes index s n last) (hdistinct : s.ids.Nodup)
    (hused : ∀ id ∈ s.ids, id.index < index) {t : Boolean B} (ht : t ∈ s.compounds) {id : Id}
    (hid : t.id? = some id) :
    (id ∈ n.statement.ids ↔ t ∈ s.leftSpines true ∧ RightOutside t) ∧
      (id ∈ n.statement.ids → ∃ u, n.statement.find id = some u ∧ KeptAs index last t u) := by
  have hnodup := (nodup_and_old_or_new h.ids_le.2 hdistinct hused).1
  rw [← coe_filterMap_compounds, Multiset.coe_nodup] at hdistinct
  obtain ⟨hstays, hkept⟩ := (h.accounts le_rfl le_rfl).1.exists_key_iff
    (fun _ _ => KeptAs.id?_eq) (fun _ => mem_compounds_of_mem_leftSpines) hdistinct
    (fun t ht id hid => hused id (mem_ids_iff.mpr ⟨t, ht, hid⟩)) ht hid
  refine ⟨mem_ids_iff.trans hstays, fun hmem => ?_⟩
  obtain ⟨u, hu, hkey⟩ := mem_ids_iff.mp hmem
  exact ⟨u, find_eq_some_of_mem_compounds hnodup hu hkey, hkept u hu hkey⟩

end Boolean

/-! ### Numeric statements -/

namespace Numeric

variable {A B : Type} {f : Format}

/-- The sums, differences and joined conditions in a statement that lie on the left spine of their
block, in pre-order. The root counts if `onSpine` says so. -/
def leftSpines (onSpine : Bool) : Numeric A B f → List (Node A B f)
  | literal _ | var _ => []
  | additive id sign left right =>
    (if onSpine then [.numeric (additive id sign left right)] else []) ++
      -- The left operand goes on with the spine, unless it begins a block of its own.
      left.leftSpines (onSpine || !left.isAdditive) ++ right.leftSpines (!right.isAdditive)
  | scaled _ _ left right => left.leftSpines true ++ right.leftSpines true
  | round _ _ operand => operand.leftSpines true
  | ternary _ condition ifTrue otherwise =>
    (condition.leftSpines true).map .boolean ++ ifTrue.leftSpines true ++ otherwise.leftSpines true

/-- The right operand of a sum or difference is outside its block and no literal below zero. -/
def RightOutside : Node A B f → Prop
  | .numeric (additive _ _ _ right) => right.isAdditive = false ∧ right.isNegativeLiteral = false
  | _ => False

/-- Normalizing `s`, at some moment while the next index goes from `first` to `last`, gives `r`. -/
def NormalizesTo (first last : Nat) (s r : Numeric A B f) : Prop :=
  ∃ σ σ' wasNormalized, s.tryNormalize.run.run σ = (.ok ⟨r, wasNormalized⟩, σ') ∧
    first ≤ σ.nextIndex ∧ σ'.nextIndex ≤ last

/-- A sum or difference is kept with its identity, its sign and the normal forms of its operands. -/
inductive KeptAs (first last : Nat) : Node A B f → Node A B f → Prop
  | additive (id : Id) (sign : Sign) {left right l r : Numeric A B f}
    (hleft : left.NormalizesTo first last l) (hright : right.NormalizesTo first last r) :
    KeptAs first last (.numeric (additive id sign left right)) (.numeric (additive id sign l r))

/-- What lies on a left spine is in the statement. -/
lemma mem_compounds_of_mem_leftSpines {s : Numeric A B f} {t : Node A B f} {onSpine : Bool}
    (h : t ∈ s.leftSpines onSpine) : t ∈ s.compounds := by
  induction s generalizing onSpine with
  | literal value => exact h
  | var v => exact h
  | additive id sign left right ihl ihr =>
    rw [leftSpines, List.append_assoc, List.mem_append, List.mem_append] at h
    rw [compounds, List.mem_cons, List.mem_append]
    refine h.imp ?_ (Or.imp ihl ihr)
    intro hself
    split at hself
    · exact List.mem_singleton.mp hself
    · cases hself
  | scaled id scaling left right ihl ihr =>
    rw [leftSpines, List.mem_append] at h
    rw [compounds, List.mem_cons, List.mem_append]
    exact .inr (h.imp ihl ihr)
  | round id mode operand ih => exact List.mem_cons_of_mem _ (ih h)
  | ternary id condition ifTrue otherwise iht iho =>
    have hcondition : t ∈ (condition.leftSpines true).map (Node.boolean (A := A) (f := f)) →
        t ∈ condition.compounds.map Node.boolean :=
      fun ht => List.map_subset _ (fun _ => Boolean.mem_compounds_of_mem_leftSpines) ht
    rw [leftSpines, List.mem_append, List.mem_append] at h
    rw [compounds, List.mem_cons, List.mem_append, List.mem_append]
    exact .inr (h.imp (Or.imp hcondition iht) iho)

/-- Attaching leaves adds only new sums and differences. -/
lemma accounts_chainFrom {first index : Nat} (hindex : first ≤ index) {stays : Node A B f → Prop}
    {keptAs : Node A B f → Node A B f → Prop} {before : List (Node A B f)} {head : Numeric A B f}
    (h : Accounts Node.id? first stays keptAs before head.compounds)
    {ts : List (Sign × Numeric A B f)} (hts : ∀ t ∈ ts, t.2.compounds = []) :
    Accounts Node.id? first stays keptAs before (chainFrom index head ts).compounds := by
  induction ts generalizing index head with
  | nil => exact h
  | cons t rest ih =>
    obtain ⟨ht, hrest⟩ := List.forall_mem_cons.mp hts
    refine ih (hindex.trans (Nat.le_succ index)) ?_ hrest
    rw [compounds, ht, List.append_nil]
    exact h.cons_new rfl hindex

/-- A derived outcome comes from a run. -/
lemma Normalizes.normalizesTo {s : Numeric A B f} {n : Normalized (Numeric A B f)}
    {first index last final : Nat} (h : Normalizes index s n last) (hfirst : first ≤ index)
    (hlast : last ≤ final) : s.NormalizesTo first final n.statement := by
  obtain ⟨messages, hrun⟩ := h.exists_run_tryNormalize_eq []
  exact ⟨_, _, _, hrun, hfirst, hlast⟩

/-- Normalizing neither adds nor removes compound statements. -/
lemma Normalizes.length_compounds_eq {s : Numeric A B f} {n : Normalized (Numeric A B f)}
    {index last : Nat} (h : Normalizes index s n last) :
    n.statement.compounds.length = s.compounds.length := by
  induction h with
  | literal index value => rfl
  | var index v => rfl
  | kept id sign hleft hright hmergeable ihl ihr =>
    rw [compounds, compounds, List.length_cons, List.length_cons, List.length_append,
      List.length_append, ihl, ihr]
  | merged id sign hleft hright hmergeable ihl ihr =>
    rw [length_compounds_chainFrom, length_flatMap_compounds_terms, compounds, List.length_cons,
      List.length_append, ihl, ihr, Nat.add_assoc]

/-- Where normalizing succeeds, all compound statements are sums and differences. -/
lemma Normalizes.exists_eq_additive {s : Numeric A B f} {n : Normalized (Numeric A B f)}
    {index last : Nat} (h : Normalizes index s n last) {t : Node A B f} (ht : t ∈ s.compounds) :
    ∃ id sign left right, t = .numeric (additive id sign left right) := by
  induction h with
  | literal index value => cases ht
  | var index v => cases ht
  | kept id sign _ _ _ ihl ihr | merged id sign _ _ _ ihl ihr =>
    rw [compounds, List.mem_cons, List.mem_append] at ht
    obtain rfl | hleft | hright := ht
    · exact ⟨_, _, _, _, rfl⟩
    · exact ihl hleft
    · exact ihr hright

/-- Where normalizing succeeds, a statement is one block, so there is nothing in it but its left
spine. -/
lemma Normalizes.leftSpines_eq_nil {s : Numeric A B f} {n : Normalized (Numeric A B f)}
    {index last : Nat} (h : Normalizes index s n last) : s.leftSpines (!s.isAdditive) = [] := by
  induction h with
  | literal index value => rfl
  | var index v => rfl
  | @kept _ _ _ _ _ left right _ _ _ _ _ ihl ihr | @merged _ _ _ _ _ left right _ _ _ _ _ ihl ihr =>
    show [] ++ left.leftSpines (!left.isAdditive) ++ right.leftSpines (!right.isAdditive) = []
    rw [ihl, ihr]
    rfl

/-- The terms of a normal form are leaves. -/
lemma Normalizes.compounds_eq_nil_of_mem_terms {s : Numeric A B f}
    {n : Normalized (Numeric A B f)} {index last : Nat} (h : Normalizes index s n last)
    (sign : Sign) : ∀ t ∈ n.statement.terms sign, t.2.compounds = [] := by
  intro t ht
  have hadditive := (n.statement.not_mergeable_of_mem_terms sign t ht).1
  have hnone := obstacle_terms_eq_none h.obstacle_statement_eq_none sign t ht
  obtain ⟨_, term⟩ := t
  cases term with
  | literal value => rfl
  | var v => rfl
  | additive id sign left right => cases hadditive
  | scaled id scaling left right => cases scaling <;> cases hnone
  | round id mode operand => cases hnone
  | ternary id condition ifTrue otherwise => cases hnone

/-- A normal form consists of what stays and of new sums and differences. -/
lemma Normalizes.accounts {s : Numeric A B f} {n : Normalized (Numeric A B f)}
    {first index last final : Nat} (h : Normalizes index s n last) (hfirst : first ≤ index)
    (hlast : last ≤ final) :
    Accounts Node.id? first RightOutside (KeptAs first final) (s.leftSpines true)
      n.statement.compounds := by
  induction h with
  | literal index value => exact .nil
  | var index v => exact .nil
  | @kept _ _ _ id sign left right n₁ n₂ hleft hright hmergeable ihl ihr =>
    have hmiddle := hright.ids_le.1.trans hlast
    have hmiddle' := hfirst.trans hleft.ids_le.1
    have houtside : right.isAdditive = false ∧ right.isNegativeLiteral = false :=
      Bool.or_eq_false_iff.mp (hright.isMergeable_eq.symm.trans hmergeable)
    have hkept : KeptAs first final (.numeric (additive id sign left right))
        (.numeric (additive id sign n₁.statement n₂.statement)) :=
      .additive id sign (hleft.normalizesTo hfirst hmiddle) (hright.normalizesTo hmiddle' hlast)
    have hself : Accounts Node.id? first RightOutside (KeptAs first final)
        [.numeric (additive id sign left right)]
        [.numeric (additive id sign n₁.statement n₂.statement)] :=
      .singleton houtside hkept
    rw [leftSpines, if_pos rfl, Bool.true_or, houtside.1, Bool.not_false, List.append_assoc]
    exact hself.append ((ihl hfirst hmiddle).append (ihr hmiddle' hlast))
  | @merged _ _ last id sign left right n₁ n₂ hleft hright hmergeable ihl ihr =>
    have hmiddle := (hright.ids_le.1.trans (Nat.le_add_right last _)).trans hlast
    have hmiddle' := hfirst.trans hleft.ids_le.1
    have hself : Accounts Node.id? first RightOutside (KeptAs first final)
        [.numeric (additive id sign left right)] [] := by
      refine .lost fun houtside => Bool.false_ne_true ?_
      rw [← hmergeable, hright.isMergeable_eq, isMergeable, houtside.1, houtside.2]
      rfl
    rw [leftSpines, if_pos rfl, Bool.true_or, hright.leftSpines_eq_nil, List.append_nil]
    exact accounts_chainFrom (hmiddle'.trans hright.ids_le.1)
      (hself.append (ihl hfirst hmiddle)) (hright.compounds_eq_nil_of_mem_terms sign)

/-- What is kept has the same identity. -/
lemma KeptAs.id?_eq {first last : Nat} {t u : Node A B f} (h : KeptAs first last t u) :
    u.id? = t.id? := by
  cases h with
  | additive id sign hleft hright => rfl

/-- An identity is still there exactly if the sum or difference that had it stays, and it is then
found at what this sum or difference is kept as. -/
lemma Normalizes.mem_ids_iff_stays {s : Numeric A B f} {n : Normalized (Numeric A B f)}
    {index last : Nat} (h : Normalizes index s n last) (hdistinct : s.ids.Nodup)
    (hused : ∀ id ∈ s.ids, id.index < index) {t : Node A B f} (ht : t ∈ s.compounds) {id : Id}
    (hid : t.id? = some id) :
    (id ∈ n.statement.ids ↔ t ∈ s.leftSpines true ∧ RightOutside t) ∧
      (id ∈ n.statement.ids → ∃ u, n.statement.find id = some u ∧ KeptAs index last t u) := by
  have hnodup := (nodup_and_old_or_new h.ids_le.2 hdistinct hused).1
  rw [← coe_filterMap_compounds, Multiset.coe_nodup] at hdistinct
  obtain ⟨hstays, hkept⟩ := (h.accounts le_rfl le_rfl).exists_key_iff
    (fun _ _ => KeptAs.id?_eq) (fun _ => mem_compounds_of_mem_leftSpines) hdistinct
    (fun t ht id hid => hused id (mem_ids_iff.mpr ⟨t, ht, hid⟩)) ht hid
  refine ⟨mem_ids_iff.trans hstays, fun hmem => ?_⟩
  obtain ⟨u, hu, hkey⟩ := mem_ids_iff.mp hmem
  exact ⟨u, find_eq_some_of_mem_compounds hnodup hu hkey, hkept u hu hkey⟩

end Numeric

/-! ### Identities of normal forms -/

/-- Where normalizing succeeds on a statement with different identities that are all in use, the
result has as many compound statements, again with different identities, and those that it has not
taken over from the statement were not in use before. A compound statement keeps its identity
exactly if it lies on the left spine of its block and its right operand is neither in the block nor
a literal below zero. It then keeps its kind, and its operands are the normal forms of the operands
that it had. -/
theorem identities_of_tryNormalize_eq_ok (A B : Type) (f : Format) :
    (∀ (s : Numeric A B f) (n : Normalized (Numeric A B f)) (σ σ' : Session),
      s.tryNormalize.run.run σ = (.ok n, σ') → s.ids.Nodup →
        (∀ id ∈ s.ids, id.index < σ.nextIndex) →
          n.statement.compounds.length = s.compounds.length ∧ n.statement.ids.Nodup ∧
            (∀ id ∈ n.statement.ids, id ∈ s.ids ∨ σ.nextIndex ≤ id.index) ∧
              ∀ t ∈ s.compounds, ∃ id sign left right,
                t = .numeric (.additive id sign left right) ∧
                (id ∈ n.statement.ids ↔ t ∈ s.leftSpines true ∧ right.isAdditive = false ∧
                  right.isNegativeLiteral = false) ∧
                (id ∈ n.statement.ids → ∃ l r,
                  n.statement.find id = some (.numeric (.additive id sign l r)) ∧
                    left.NormalizesTo σ.nextIndex σ'.nextIndex l ∧
                    right.NormalizesTo σ.nextIndex σ'.nextIndex r)) ∧
    ∀ (s : Boolean B) (n : Normalized (Boolean B)) (σ σ' : Session),
      s.tryNormalize.run.run σ = (.ok n, σ') → s.ids.Nodup →
        (∀ id ∈ s.ids, id.index < σ.nextIndex) →
          n.statement.compounds.length = s.compounds.length ∧ n.statement.ids.Nodup ∧
            (∀ id ∈ n.statement.ids, id ∈ s.ids ∨ σ.nextIndex ≤ id.index) ∧
              ∀ t ∈ s.compounds, ∃ id connective left right,
                t = .joined id connective left right ∧
                (id ∈ n.statement.ids ↔
                  t ∈ s.leftSpines true ∧ right.joinedBy connective = false) ∧
                (id ∈ n.statement.ids → ∃ l r,
                  n.statement.find id = some (.joined id connective l r) ∧
                    left.NormalizesTo σ.nextIndex σ'.nextIndex l ∧
                    right.NormalizesTo σ.nextIndex σ'.nextIndex r) := by
  constructor
  · intro s n σ σ' hrun hdistinct hused
    have h := Numeric.normalizes_of_tryNormalize_eq_ok hrun
    obtain ⟨hnodup, hold⟩ := nodup_and_old_or_new h.ids_le.2 hdistinct hused
    refine ⟨h.length_compounds_eq, hnodup, hold, fun t ht => ?_⟩
    obtain ⟨id, sign, left, right, rfl⟩ := h.exists_eq_additive ht
    obtain ⟨hstays, hkept⟩ := h.mem_ids_iff_stays hdistinct hused ht rfl
    refine ⟨id, sign, left, right, rfl, hstays, fun hid => ?_⟩
    obtain ⟨u, hfind, hkeptAs⟩ := hkept hid
    cases hkeptAs with
    | additive _ _ hleft hright => exact ⟨_, _, hfind, hleft, hright⟩
  · intro s n σ σ' hrun hdistinct hused
    have h := Boolean.normalizes_of_tryNormalize_eq_ok hrun
    obtain ⟨hnodup, hold⟩ := nodup_and_old_or_new h.ids_le.2 hdistinct hused
    refine ⟨h.length_compounds_eq, hnodup, hold, fun t ht => ?_⟩
    obtain ⟨id, connective, left, right, rfl⟩ := h.exists_eq_joined ht
    obtain ⟨hstays, hkept⟩ := h.mem_ids_iff_stays hdistinct hused ht rfl
    refine ⟨id, connective, left, right, rfl, hstays, fun hid => ?_⟩
    obtain ⟨u, hfind, hkeptAs⟩ := hkept hid
    cases hkeptAs with
    | joined _ _ hleft hright => exact ⟨_, _, hfind, hleft, hright⟩

/-- Where a difference is subtracted from a sum, the sum keeps its identity, but neither of the
differences does. A disjunction in a conjunction keeps its identity, also where the conjunction is
merged into another one. -/
theorem identities_of_tryNormalize_merged :
    let impact := Quantity.impact .double
    let urgency := Quantity.urgency .double
    let sum : Quantity .double := .additive ⟨0⟩ .plus impact urgency
    let inner : Quantity .double := .additive ⟨1⟩ .minus urgency impact
    let s : Quantity .double := .additive ⟨2⟩ .minus sum inner
    let either : Condition := .joined ⟨0⟩ .or Condition.vip Condition.businessRelated
    let both : Condition := .joined ⟨1⟩ .and either Condition.vip
    let b : Condition := .joined ⟨2⟩ .and Condition.vip both
    (∃ n σ', s.tryNormalize.run.run ⟨3, []⟩ = (.ok n, σ') ∧ n.statement.compounds.length = 3 ∧
      n.statement.ids.Nodup ∧ ⟨1⟩ ∉ n.statement.ids ∧ ⟨2⟩ ∉ n.statement.ids ∧
        ∃ l r, n.statement.find ⟨0⟩ = some (.numeric (.additive ⟨0⟩ .plus l r)) ∧
          impact.NormalizesTo 3 5 l ∧ urgency.NormalizesTo 3 5 r) ∧
    ∃ n σ', b.tryNormalize.run.run ⟨3, []⟩ = (.ok n, σ') ∧ n.statement.compounds.length = 3 ∧
      n.statement.ids.Nodup ∧ ⟨1⟩ ∉ n.statement.ids ∧ ⟨2⟩ ∉ n.statement.ids ∧
        ∃ l r, n.statement.find ⟨0⟩ = some (.joined ⟨0⟩ .or l r) ∧
          Condition.vip.NormalizesTo 3 5 l ∧ Condition.businessRelated.NormalizesTo 3 5 r := by
  intro impact urgency sum inner s either both b
  obtain ⟨hnumeric, hboolean⟩ :=
    identities_of_tryNormalize_eq_ok (NumberSource .double) FlagSource .double
  constructor
  · obtain ⟨hlength, hnodup, _, hkept⟩ :=
      hnumeric s _ ⟨3, []⟩ _ rfl (by decide +kernel) (by decide +kernel)
    obtain ⟨_, _, _, _, heq, hsum, hfind⟩ :=
      hkept (.numeric (.additive ⟨0⟩ .plus impact urgency)) (by decide +kernel)
    cases heq
    obtain ⟨_, _, _, _, heq, hinner, _⟩ :=
      hkept (.numeric (.additive ⟨1⟩ .minus urgency impact)) (by decide +kernel)
    cases heq
    obtain ⟨_, _, _, _, heq, hroot, _⟩ :=
      hkept (.numeric (.additive ⟨2⟩ .minus sum inner)) (by decide +kernel)
    cases heq
    have hstays := hsum.mpr (by decide +kernel)
    exact ⟨_, _, rfl, hlength, hnodup, mt hinner.mp (by decide +kernel),
      mt hroot.mp (by decide +kernel), hfind hstays⟩
  · obtain ⟨hlength, hnodup, _, hkept⟩ :=
      hboolean b _ ⟨3, []⟩ _ rfl (by decide +kernel) (by decide +kernel)
    obtain ⟨_, _, _, _, heq, heither, hfind⟩ :=
      hkept (.joined ⟨0⟩ .or Condition.vip Condition.businessRelated) (by decide +kernel)
    cases heq
    obtain ⟨_, _, _, _, heq, hboth, _⟩ :=
      hkept (.joined ⟨1⟩ .and either Condition.vip) (by decide +kernel)
    cases heq
    obtain ⟨_, _, _, _, heq, hroot, _⟩ :=
      hkept (.joined ⟨2⟩ .and Condition.vip both) (by decide +kernel)
    cases heq
    have hstays := heither.mpr (by decide +kernel)
    exact ⟨_, _, rfl, hlength, hnodup, mt hboth.mp (by decide +kernel),
      mt hroot.mp (by decide +kernel), hfind hstays⟩

end PriorityFormula
