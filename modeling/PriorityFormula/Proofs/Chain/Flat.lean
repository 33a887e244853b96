import PriorityFormula.Context
import PriorityFormula.Proofs.Chain.Created
import PriorityFormula.Proofs.Chain.Spine
import PriorityFormula.Proofs.Number.Exact
import PriorityFormula.Statement.Lookup

/-!
# Created chains are flat

A created chain leans to the left. It begins with the leftmost operand of the first statement, the
other operands follow in order, and none of them would go on with the chain. An operand is taken
over with everything in it; only literals below zero lose their minus sign to the operator. Each
operand behind the first takes one fresh identity, the identity of the operation that attaches it.

Since creating a chain takes the first statement apart in any case, a chain that is flat already and
gets no further operands comes back with new identities on its spine.
-/

namespace PriorityFormula

/-! ### Connectives -/

namespace Boolean

variable {B : Type}

/-- The condition is a flat chain of the given parts, in order, and the operations on its spine have
the identities from `index` up to `last`. -/
structure IsChainOf (connective : Connective) (index : Nat) (operands : List (Boolean B))
    (chain : Boolean B) (last : Nat) : Prop where
  flatSpine : chain.FlatSpine connective
  operands_eq : operands =
    chain.leftmost connective :: (chain.spine connective).map Link.right
  ids_eq : (chain.spine connective).map (·.id.index) =
    List.range' index (chain.spine connective).length
  last_eq : last = index + (chain.spine connective).length

/-- Parts that are not joined by the connective are attached as a flat chain. -/
lemma isChainOf_chainFrom {connective : Connective} {head : Boolean B} {ps : List (Boolean B)}
    (hhead : head.joinedBy connective = false) (hps : ∀ p ∈ ps, p.joinedBy connective = false)
    (index : Nat) :
    IsChainOf connective index (head :: ps) (chainFrom connective index head ps)
      (index + ps.length) := by
  obtain ⟨hspine, hleftmost, -⟩ := spine_of_not_joinedBy hhead
  have hlinks : (chainFrom connective index head ps).spine connective =
      freshLinks index (ps.map (connective, ·)) := by
    rw [spine_chainFrom, hspine, List.nil_append]
  have hrights : ((chainFrom connective index head ps).spine connective).map Link.right = ps := by
    rw [hlinks, map_right_freshLinks, List.map_map]
    exact List.map_id ps
  have hlength : ((chainFrom connective index head ps).spine connective).length = ps.length := by
    rw [hlinks, length_freshLinks, List.length_map]
  refine ⟨?_, ?_, ?_, ?_⟩
  · intro link hlink
    have hright : link.right ∈ ps := by
      rw [← hrights]
      exact List.mem_map_of_mem hlink
    exact hps _ hright
  · rw [leftmost_chainFrom, hleftmost, hrights]
  · rw [hlength, hlinks, map_index_freshLinks, List.length_map]
  · rw [hlength]

/-- A created chain is a flat chain of the parts of all its conditions. -/
lemma isChainOf_createLogical (connective : Connective) (first : Boolean B)
    (rest : List (Boolean B)) (σ : Session) :
    IsChainOf connective σ.nextIndex
      (first.parts connective ++ rest.flatMap (parts connective))
      ((createLogical connective first rest).run σ).1
      ((createLogical connective first rest).run σ).2.nextIndex := by
  obtain ⟨hhead, hparts⟩ := splitHead_eq connective first
  obtain ⟨messages, hrun⟩ := run_createLogical connective first rest σ
  have hfirst := not_joinedBy_of_mem_parts connective first
  rw [hparts] at hfirst
  obtain ⟨hleftmost, hbehind⟩ := List.forall_mem_cons.mp hfirst
  have hrest : ∀ p ∈ rest.flatMap (parts connective), p.joinedBy connective = false := by
    intro p hp
    obtain ⟨s, -, hs⟩ := List.mem_flatMap.mp hp
    exact s.not_joinedBy_of_mem_parts connective p hs
  rw [hrun, hhead, hparts, List.cons_append]
  exact isChainOf_chainFrom hleftmost (List.forall_mem_append.mpr ⟨hbehind, hrest⟩) σ.nextIndex

/-- A created chain begins with the leftmost part of its first condition. -/
lemma leftmost_createLogical (connective : Connective) (first : Boolean B)
    (rest : List (Boolean B)) (σ : Session) :
    ((createLogical connective first rest).run σ).1.leftmost connective =
      first.leftmost connective := by
  have hchain := (isChainOf_createLogical connective first rest σ).operands_eq
  rw [(splitHead_eq connective first).2, List.cons_append] at hchain
  exact (List.cons.inj hchain).1.symm

end Boolean

/-! ### Sums and differences -/

namespace Numeric

variable {A B K : Type} {f : Format}

/-- The statement is a flat chain of the given operands, in order, where those behind the first one
have left their minus signs to the operators, and the operations on its spine have the identities
from `index` up to `last`. -/
structure IsChainOf (index : Nat) (operands : List (Numeric A B f)) (chain : Numeric A B f)
    (last : Nat) : Prop where
  flatSpine : chain.FlatSpine
  operands_eq : ∃ behind, operands = chain.leftmost :: behind ∧
    chain.spine.map Link.right = behind.map withoutMinus
  ids_eq : chain.spine.map (·.id.index) = List.range' index chain.spine.length
  last_eq : last = index + chain.spine.length

/-- Terms that need not be merged are attached as a flat chain. -/
lemma isChainOf_chainFrom {head : Numeric A B f} {ts : List (Sign × Numeric A B f)}
    {behind : List (Numeric A B f)} (hhead : head.isAdditive = false)
    (hts : ∀ t ∈ ts, t.2.isAdditive = false ∧ t.2.isNegativeLiteral = false)
    (hbehind : ts.map Prod.snd = behind.map withoutMinus) (index : Nat) :
    IsChainOf index (head :: behind) (chainFrom index head ts) (index + ts.length) := by
  obtain ⟨hspine, hleftmost, -⟩ := spine_of_not_isAdditive hhead
  have hlinks : (chainFrom index head ts).spine = freshLinks index ts := by
    rw [spine_chainFrom, hspine, List.nil_append]
  have hrights : (chainFrom index head ts).spine.map Link.right = ts.map Prod.snd := by
    rw [hlinks, map_right_freshLinks]
  have hlength : (chainFrom index head ts).spine.length = ts.length := by
    rw [hlinks, length_freshLinks]
  refine ⟨?_, ⟨behind, ?_, ?_⟩, ?_, ?_⟩
  · intro link hlink
    have hright : link.right ∈ ts.map Prod.snd := by
      rw [← hrights]
      exact List.mem_map_of_mem hlink
    obtain ⟨t, ht, heq⟩ := List.mem_map.mp hright
    rw [← heq]
    exact hts t ht
  · rw [leftmost_chainFrom, hleftmost]
  · rw [hrights, hbehind]
  · rw [hlength, hlinks, map_index_freshLinks]
  · rw [hlength]

/-- The terms of some statements are their summands behind signs. -/
lemma map_snd_flatMap_terms (sign : Sign) (ss : List (Numeric A B f)) :
    (ss.flatMap (terms sign)).map Prod.snd = (ss.flatMap summands).map withoutMinus := by
  induction ss with
  | nil => rfl
  | cons s rest ih =>
    rw [List.flatMap_cons, List.map_append, ih, map_snd_terms, List.flatMap_cons, List.map_append]

/-- What a statement is split into behind its leftmost operand need not be merged. -/
lemma not_mergeable_of_mem_splitHead (s : Numeric A B f) :
    ∀ t ∈ s.splitHead.2, t.2.isAdditive = false ∧ t.2.isNegativeLiteral = false := by
  induction s with
  | additive id sign left right ihl ihr =>
    rw [splitHead]
    exact List.forall_mem_append.mpr ⟨ihl, right.not_mergeable_of_mem_terms sign⟩
  | literal value => exact List.forall_mem_nil _
  | var v => exact List.forall_mem_nil _
  | scaled id scaling left right => exact List.forall_mem_nil _
  | round id mode operand => exact List.forall_mem_nil _
  | ternary id condition ifTrue otherwise => exact List.forall_mem_nil _

/-- A created chain is a flat chain of the summands of all its statements. -/
lemma isChainOf_createAdditive (sign : Sign) (first : Numeric A B f) (rest : List (Numeric A B f))
    (σ : Session) :
    IsChainOf σ.nextIndex (first.summands ++ rest.flatMap summands)
      ((createAdditive sign first rest).run σ).1
      ((createAdditive sign first rest).run σ).2.nextIndex := by
  obtain ⟨hhead, behind, hsummands, hterms⟩ := splitHead_eq first
  obtain ⟨messages, hrun⟩ := run_createAdditive sign first rest σ
  have hts : ∀ t ∈ first.splitHead.2 ++ rest.flatMap (terms sign),
      t.2.isAdditive = false ∧ t.2.isNegativeLiteral = false := by
    refine List.forall_mem_append.mpr ⟨first.not_mergeable_of_mem_splitHead, ?_⟩
    intro t ht
    obtain ⟨s, -, hs⟩ := List.mem_flatMap.mp ht
    exact s.not_mergeable_of_mem_terms sign t hs
  have hbehind : (first.splitHead.2 ++ rest.flatMap (terms sign)).map Prod.snd =
      (behind ++ rest.flatMap summands).map withoutMinus := by
    rw [List.map_append, hterms, map_snd_flatMap_terms, ← List.map_append]
  rw [hrun, hhead, hsummands, List.cons_append]
  exact isChainOf_chainFrom first.isAdditive_leftmost hts hbehind σ.nextIndex

/-- A created chain begins with the leftmost operand of its first statement. -/
lemma leftmost_createAdditive (sign : Sign) (first : Numeric A B f) (rest : List (Numeric A B f))
    (σ : Session) :
    ((createAdditive sign first rest).run σ).1.leftmost = first.leftmost := by
  obtain ⟨behind, hchain, -⟩ := (isChainOf_createAdditive sign first rest σ).operands_eq
  obtain ⟨-, others, hsummands, -⟩ := splitHead_eq first
  rw [hsummands, List.cons_append] at hchain
  exact (List.cons.inj hchain).1.symm

/-- The value of a chain comes from attaching the values of its terms one after the other. -/
lemma evaluate_chainFrom (I : Interpretation A B f K) (index : Nat) (head : Numeric A B f)
    (ts : List (Sign × Numeric A B f)) :
    (chainFrom index head ts).evaluate I =
      ts.foldl (fun x t => I.arithmetic.attach t.1 x (t.2.evaluate I)) (head.evaluate I) := by
  induction ts generalizing index head with
  | nil => rfl
  | cons t rest ih => rw [chainFrom, ih, evaluate_additive, List.foldl_cons]

/-- Wherever sums are exact, the value of a created chain comes from attaching the values of the
given statements one after the other. -/
lemma evaluate_createAdditive [AddCommGroup K] {I : Interpretation A B f K} (hI : I.ExactSums)
    (sign : Sign) (first : Numeric A B f) (rest : List (Numeric A B f)) (σ : Session) :
    ((createAdditive sign first rest).run σ).1.evaluate I =
      (rest.map (evaluate I)).foldl (I.arithmetic.attach sign) (first.evaluate I) := by
  have hnested := (rearranged_createAdditive sign first rest σ σ).evaluate_eq hI
  rw [hnested, run_foldlM_newAdditive, evaluate_chainFrom, List.foldl_map, List.foldl_map]

end Numeric

/-! ### All created chains -/

/-- Created chains are flat chains of all operands of the given statements. Chains of sums and
differences begin with the leftmost operand of the first statement and have the exact value of the
sum or difference of the given statements, taken from left to right. Chains of a connective begin
with the leftmost part of the first condition and are evaluated like the given conditions joined
from left to right, with the same reads. -/
theorem created_isChainOf_operands (A B : Type) (f : Format) :
    (∀ (sign : Sign) (first : Numeric A B f) (rest : List (Numeric A B f)) (σ : Session),
      let run := (Numeric.createAdditive sign first rest).run σ
      run.1.leftmost = first.leftmost ∧
        Numeric.IsChainOf σ.nextIndex (first.summands ++ rest.flatMap Numeric.summands) run.1
          run.2.nextIndex) ∧
    (∀ (K : Type) [AddCommGroup K] (I : Interpretation A B f K), I.ExactSums →
      ∀ (first : Numeric A B f) (rest : List (Numeric A B f)) (σ : Session),
        ((Numeric.createAdditive .plus first rest).run σ).1.evaluate I =
          (rest.map (Numeric.evaluate I)).foldl (· + ·) (first.evaluate I) ∧
        ((Numeric.createAdditive .minus first rest).run σ).1.evaluate I =
          (rest.map (Numeric.evaluate I)).foldl (· - ·) (first.evaluate I)) ∧
    ∀ (connective : Connective) (first : Boolean B) (rest : List (Boolean B)) (σ : Session),
      let run := (Boolean.createLogical connective first rest).run σ
      run.1.leftmost connective = first.leftmost connective ∧
        Boolean.IsChainOf connective σ.nextIndex
          (first.parts connective ++ rest.flatMap (Boolean.parts connective)) run.1
          run.2.nextIndex ∧
        ∀ (flag : B → Bool) (τ : Session), run.1.trace flag =
          ((rest.foldlM (Boolean.newJoined connective) first).run τ).1.trace flag := by
  refine ⟨?_, ?_, ?_⟩
  · intro sign first rest σ
    exact ⟨Numeric.leftmost_createAdditive sign first rest σ,
      Numeric.isChainOf_createAdditive sign first rest σ⟩
  · intro K _ I hI first rest σ
    have hadd : I.arithmetic.attach .plus = (· + ·) := funext₂ hI.add
    have hsubtract : I.arithmetic.attach .minus = (· - ·) := funext₂ hI.subtract
    rw [Numeric.evaluate_createAdditive hI, Numeric.evaluate_createAdditive hI, hadd, hsubtract]
    exact ⟨rfl, rfl⟩
  · intro connective first rest σ
    refine ⟨Boolean.leftmost_createLogical connective first rest σ,
      Boolean.isChainOf_createLogical connective first rest σ, ?_⟩
    intro flag τ
    exact (Boolean.rearranged_createLogical connective first rest σ τ).trace_eq flag

/-- A difference is subtracted from a difference that is nested on its right and contains a product
of sums. The chain has five operations, the product is left as it is, and two literals below zero
lose their minus signs. -/
theorem created_isChainOf_differences :
    let urgency := Quantity.urgency .double
    let impact := Quantity.impact .double
    let two : FiniteNumber .double := ⟨false, 0x4000000000000000, by decide⟩
    let product : Quantity .double := .scaled ⟨2⟩ .multiply (.additive ⟨0⟩ .plus urgency impact)
      (.additive ⟨1⟩ .plus impact (.literal two.negated))
    let first : Quantity .double := .additive ⟨4⟩ .minus (.literal two.negated)
      (.additive ⟨3⟩ .minus product (.literal two.negated))
    let second : Quantity .double := .additive ⟨5⟩ .minus (.literal two.negated) urgency
    let run := (Numeric.createAdditive .minus first [second, impact]).run ⟨6, []⟩
    let I : Interpretation (NumberSource .double) FlagSource .double ℚ :=
      ⟨.ofRing (fun x y => x / y) fun _ x => x.floor, FiniteNumber.exact,
        fun source => if source = .urgency then 1 / 3 else 1 / 7, fun _ => false⟩
    run.1.text = "-2 - ((urgency + impact) * (impact - 2)) - 2 + 2 + urgency - impact".toList ∧
      run.2.nextIndex = 11 ∧ run.1.leftmost = .literal two.negated ∧
        run.1.evaluate I = first.evaluate I - second.evaluate I - impact.evaluate I := by
  intro urgency impact two product first second run I
  have hI : I.ExactSums :=
    Interpretation.exactSums_ofRing _ _ _ _ FiniteNumber.exact_negated
  obtain ⟨hchain, hexact, -⟩ :=
    created_isChainOf_operands (NumberSource .double) FlagSource .double
  refine ⟨by decide +kernel, rfl, (hchain .minus first [second, impact] ⟨6, []⟩).1, ?_⟩
  exact (hexact ℚ I hI first [second, impact] ⟨6, []⟩).2

/-! ### Single statements -/

namespace Boolean

variable {B : Type}

/-- A flat chain on its own is put together again with new identities on its spine. -/
lemma run_createLogical_nil {connective : Connective} {s : Boolean B} (h : s.FlatSpine connective)
    (σ : Session) :
    ((createLogical connective s []).run σ).1 = s.renumbered connective σ.nextIndex ∧
      ((createLogical connective s []).run σ).2.nextIndex =
        σ.nextIndex + (s.spine connective).length := by
  obtain ⟨messages, hrun⟩ := run_createLogical connective s [] σ
  rw [hrun, List.flatMap_nil, List.append_nil]
  refine ⟨chainFrom_splitHead_of_flatSpine h σ.nextIndex, ?_⟩
  show σ.nextIndex + (s.splitHead connective).2.length = _
  rw [splitHead_of_flatSpine h, List.length_map]

/-- A condition on its own comes back as it is, and without an identity being taken, exactly if it
is not joined by the connective. -/
lemma createLogical_nil_eq_self_iff (connective : Connective) (s : Boolean B) (σ : Session) :
    ((createLogical connective s []).run σ).1 = s ∧
        ((createLogical connective s []).run σ).2.nextIndex = σ.nextIndex ↔
      s.joinedBy connective = false := by
  constructor
  · rintro ⟨-, hnext⟩
    obtain ⟨messages, hrun⟩ := run_createLogical connective s [] σ
    rw [hrun] at hnext
    -- No identity is taken, so there is nothing behind the leftmost part.
    have hbehind : (s.splitHead connective).2 = [] := by simpa using hnext
    exact splitHead_snd_eq_nil_iff.mp hbehind
  · intro hjoined
    obtain ⟨hspine, -, hrenumbered⟩ := spine_of_not_joinedBy hjoined
    obtain ⟨hchain, hnext⟩ := run_createLogical_nil (flatSpine_of_not_joinedBy hjoined) σ
    rw [hchain, hnext, hspine, hrenumbered]
    exact ⟨rfl, rfl⟩

end Boolean

namespace Numeric

variable {A B : Type} {f : Format}

/-- A flat chain on its own is put together again with new identities on its spine. -/
lemma run_createAdditive_nil {s : Numeric A B f} (h : s.FlatSpine) (sign : Sign) (σ : Session) :
    ((createAdditive sign s []).run σ).1 = s.renumbered σ.nextIndex ∧
      ((createAdditive sign s []).run σ).2.nextIndex = σ.nextIndex + s.spine.length := by
  obtain ⟨messages, hrun⟩ := run_createAdditive sign s [] σ
  rw [hrun, List.flatMap_nil, List.append_nil]
  refine ⟨chainFrom_splitHead_of_flatSpine h σ.nextIndex, ?_⟩
  show σ.nextIndex + s.splitHead.2.length = _
  rw [splitHead_of_flatSpine h, List.length_map]

/-- A statement on its own comes back as it is, and without an identity being taken, exactly if it
is neither a sum nor a difference. -/
lemma createAdditive_nil_eq_self_iff (sign : Sign) (s : Numeric A B f) (σ : Session) :
    ((createAdditive sign s []).run σ).1 = s ∧
        ((createAdditive sign s []).run σ).2.nextIndex = σ.nextIndex ↔
      s.isAdditive = false := by
  constructor
  · rintro ⟨-, hnext⟩
    obtain ⟨messages, hrun⟩ := run_createAdditive sign s [] σ
    rw [hrun] at hnext
    -- No identity is taken, so there is nothing behind the leftmost operand.
    have hbehind : s.splitHead.2 = [] := by simpa using hnext
    exact splitHead_snd_eq_nil_iff.mp hbehind
  · intro hadditive
    obtain ⟨hspine, -, hrenumbered⟩ := spine_of_not_isAdditive hadditive
    obtain ⟨hchain, hnext⟩ :=
      run_createAdditive_nil (flatSpine_of_not_isAdditive hadditive) sign σ
    rw [hchain, hnext, hspine, hrenumbered]
    exact ⟨rfl, rfl⟩

end Numeric

/-- A chain that is created from a single statement is the statement itself, with no identity taken,
exactly if the statement is no chain of the kind. A chain that is flat already keeps its operands
with all their identities, but each operation on its spine takes a new one. -/
theorem created_from_single (A B : Type) (f : Format) :
    (∀ (sign : Sign) (s : Numeric A B f) (σ : Session),
      let run := (Numeric.createAdditive sign s []).run σ
      (run.1 = s ∧ run.2.nextIndex = σ.nextIndex ↔ s.isAdditive = false) ∧
        (s.FlatSpine → run.1 = s.renumbered σ.nextIndex ∧
          run.2.nextIndex = σ.nextIndex + s.spine.length)) ∧
    ∀ (connective : Connective) (s : Boolean B) (σ : Session),
      let run := (Boolean.createLogical connective s []).run σ
      (run.1 = s ∧ run.2.nextIndex = σ.nextIndex ↔ s.joinedBy connective = false) ∧
        (s.FlatSpine connective → run.1 = s.renumbered connective σ.nextIndex ∧
          run.2.nextIndex = σ.nextIndex + (s.spine connective).length) := by
  constructor
  · intro sign s σ
    exact ⟨Numeric.createAdditive_nil_eq_self_iff sign s σ,
      fun hflat => Numeric.run_createAdditive_nil hflat sign σ⟩
  · intro connective s σ
    exact ⟨Boolean.createLogical_nil_eq_self_iff connective s σ,
      fun hflat => Boolean.run_createLogical_nil hflat σ⟩

/-- A product comes back as it is, but a flat difference and a flat conjunction that are on their
own get new identities from the innermost operation outwards. -/
theorem created_from_single_flat :
    let urgency := Quantity.urgency .double
    let impact := Quantity.impact .double
    let product : Quantity .double := .scaled ⟨0⟩ .multiply urgency impact
    let difference : Quantity .double :=
      .additive ⟨2⟩ .minus (.additive ⟨1⟩ .plus urgency impact) product
    let both : Condition := .joined ⟨3⟩ .and Condition.vip Condition.businessRelated
    ((Numeric.createAdditive .plus product []).run ⟨4, []⟩).1 = product ∧
      ((Numeric.createAdditive .plus difference []).run ⟨4, []⟩).1 =
        .additive ⟨5⟩ .minus (.additive ⟨4⟩ .plus urgency impact) product ∧
      ((Boolean.createLogical .and both []).run ⟨4, []⟩).1 =
        .joined ⟨4⟩ .and Condition.vip Condition.businessRelated := by
  intro urgency impact product difference both
  obtain ⟨hnumeric, hboolean⟩ := created_from_single (NumberSource .double) FlagSource .double
  have hsum : (Numeric.additive ⟨1⟩ .plus urgency impact).FlatSpine :=
    Numeric.flatSpine_additive_iff.mpr ⟨Numeric.flatSpine_of_not_isAdditive rfl, rfl, rfl⟩
  have hdifference : difference.FlatSpine :=
    Numeric.flatSpine_additive_iff.mpr ⟨hsum, rfl, rfl⟩
  have hboth : both.FlatSpine .and :=
    Boolean.flatSpine_joined_iff.mpr ⟨Boolean.flatSpine_of_not_joinedBy rfl, rfl⟩
  exact ⟨((hnumeric .plus product ⟨4, []⟩).1.mpr rfl).1,
    ((hnumeric .plus difference ⟨4, []⟩).2 hdifference).1,
    ((hboolean .and both ⟨4, []⟩).2 hboth).1⟩

/-- A sum of two variables is a flat chain, but the chain that is created from it alone is another
statement: the identity of the sum is not found in it. -/
theorem created_from_single_sum_ne_self :
    let s : Quantity .double :=
      .additive ⟨0⟩ .plus (Quantity.urgency .double) (Quantity.impact .double)
    let run := (Numeric.createAdditive .plus s []).run ⟨1, []⟩
    s.FlatSpine ∧ run.1 ≠ s ∧ run.2.nextIndex ≠ 1 ∧
      (Node.numeric s).find ⟨0⟩ = some (.numeric s) ∧ (Node.numeric run.1).find ⟨0⟩ = none := by
  intro s run
  have hflat : s.FlatSpine :=
    Numeric.flatSpine_additive_iff.mpr ⟨Numeric.flatSpine_of_not_isAdditive rfl, rfl, rfl⟩
  exact ⟨hflat, by decide +kernel, by decide, by decide +kernel, by decide +kernel⟩

end PriorityFormula
