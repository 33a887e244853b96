import Mathlib.Logic.Function.Iterate
import PriorityFormula.Proofs.Chain.Spine
import PriorityFormula.Proofs.Statement.Paths
import PriorityFormula.Proofs.Statement.Printed

/-!
# Where the terms of a statement stand

Going down from a statement through sums and differences, each path ends at an operand that is
neither. These operands are the terms of the statement, in the order of their paths. What decides
the sign of a term is its path alone: it flips the sign in front of the statement once for every
difference that it leaves to the right, and a literal below zero gives up its minus for one more
flip.

The terms are walked through twice, once to attach them to a chain and once to write them. Both
walks find the same terms with the same signs.
-/

namespace PriorityFormula

namespace Node

variable {A B : Type} {f : Format}

/-- The number of differences that a path leaves to their right operand. -/
def subtractionsOn (n : Node A B f) : List Nat → Nat
  | [] => 0
  | index :: path =>
    (if n.kind = .difference ∧ index = 1 then 1 else 0) +
      match n.get index with
      | .ok operand => operand.subtractionsOn path
      | .error _ => 0

/-- A path that goes on from an operand leaves the differences that it leaves from there, and
perhaps the root. -/
lemma subtractionsOn_cons {n operand : Node A B f} {index : Nat}
    (h : n.children[index]? = some operand) (path : List Nat) :
    n.subtractionsOn (index :: path) =
      (if n.kind = .difference ∧ index = 1 then 1 else 0) + operand.subtractionsOn path := by
  rw [subtractionsOn, get_eq_ok_iff.mpr h]

end Node

namespace Numeric

variable {A B : Type} {f : Format}

/-! ### Paths to terms -/

/-- A path leads from a statement through nothing but sums and differences to an operand that is
neither. -/
structure LeadsToTerm (t : Numeric A B f) (path : List Nat) (s : Numeric A B f) : Prop where
  reaches : (Node.numeric t).Reaches path (.numeric s)
  through : ∀ above below, path = above ++ below → below ≠ [] →
    ∃ u : Numeric A B f, (Node.numeric t).Reaches above (.numeric u) ∧ u.isAdditive = true
  ends : s.isAdditive = false

/-- The empty path leads to the statement itself. -/
lemma leadsToTerm_nil_iff {t s : Numeric A B f} :
    t.LeadsToTerm [] s ↔ t = s ∧ s.isAdditive = false := by
  constructor
  · rintro ⟨hreaches, _, hends⟩
    exact ⟨Node.numeric.inj (Node.reaches_nil_iff.mp hreaches), hends⟩
  · rintro ⟨rfl, hends⟩
    refine ⟨Node.reaches_nil_iff.mpr rfl, ?_, hends⟩
    intro above below hsplit hbelow
    exact absurd (List.append_eq_nil_iff.mp hsplit.symm).2 hbelow

/-- Every other path goes on from an operand of a sum or difference. -/
lemma leadsToTerm_cons_iff {t s : Numeric A B f} {index : Nat} {path : List Nat} :
    t.LeadsToTerm (index :: path) s ↔ t.isAdditive = true ∧
      ∃ operand : Numeric A B f, (Node.numeric t).children[index]? = some (.numeric operand) ∧
        operand.LeadsToTerm path s := by
  constructor
  · rintro ⟨hreaches, hthrough, hends⟩
    obtain ⟨u, hu, hadditive⟩ := hthrough [] (index :: path) rfl (List.cons_ne_nil _ _)
    obtain rfl := Node.numeric.inj (Node.reaches_nil_iff.mp hu)
    obtain ⟨child, hchild, hrest⟩ := Node.reaches_cons_iff.mp hreaches
    -- The operands of a sum or difference are numeric.
    obtain ⟨operand, rfl⟩ : ∃ operand : Numeric A B f, child = .numeric operand := by
      cases t with
      | additive id sign left right =>
        rcases List.mem_pair.mp (List.mem_of_getElem? hchild) with rfl | rfl
        · exact ⟨left, rfl⟩
        · exact ⟨right, rfl⟩
      | _ => cases hadditive
    refine ⟨hadditive, operand, hchild, hrest, ?_, hends⟩
    intro above below hsplit hbelow
    obtain ⟨u, hu, hu'⟩ := hthrough (index :: above) below (congrArg (index :: ·) hsplit) hbelow
    obtain ⟨child, hchild', hrest'⟩ := Node.reaches_cons_iff.mp hu
    cases Option.some.inj (hchild.symm.trans hchild')
    exact ⟨u, hrest', hu'⟩
  · rintro ⟨hadditive, operand, hchild, hreaches, hthrough, hends⟩
    refine ⟨Node.reaches_cons_iff.mpr ⟨_, hchild, hreaches⟩, ?_, hends⟩
    intro above below hsplit hbelow
    cases above with
    | nil => exact ⟨t, Node.reaches_nil_iff.mpr rfl, hadditive⟩
    | cons first above =>
      obtain ⟨rfl, hpath⟩ := List.cons.inj hsplit
      obtain ⟨u, hu, hu'⟩ := hthrough above below hpath hbelow
      exact ⟨u, Node.reaches_cons_iff.mpr ⟨_, hchild, hu⟩, hu'⟩

/-- From a sum or difference, a path to a term goes on from the left or from the right operand. -/
lemma leadsToTerm_additive_iff {id : Id} {sign : Sign} {left right s : Numeric A B f}
    {path : List Nat} :
    (additive id sign left right).LeadsToTerm path s ↔
      (∃ rest, left.LeadsToTerm rest s ∧ 0 :: rest = path) ∨
        ∃ rest, right.LeadsToTerm rest s ∧ 1 :: rest = path := by
  cases path with
  | nil =>
    rw [leadsToTerm_nil_iff]
    constructor
    · rintro ⟨rfl, hends⟩
      cases hends
    · rintro (⟨_, _, hpath⟩ | ⟨_, _, hpath⟩) <;> cases hpath
  | cons index path =>
    rw [leadsToTerm_cons_iff]
    constructor
    · rintro ⟨_, operand, hchild, hrest⟩
      match index with
      | 0 =>
        cases hchild
        exact .inl ⟨path, hrest, rfl⟩
      | 1 =>
        cases hchild
        exact .inr ⟨path, hrest, rfl⟩
      | index + 2 => cases hchild
    · rintro (⟨rest, hrest, hpath⟩ | ⟨rest, hrest, hpath⟩)
      · cases hpath
        exact ⟨rfl, left, rfl, hrest⟩
      · cases hpath
        exact ⟨rfl, right, rfl, hrest⟩

/-- From any other statement, only the empty path leads to a term. -/
lemma leadsToTerm_iff_of_not_isAdditive {t s : Numeric A B f} {path : List Nat}
    (h : t.isAdditive = false) : t.LeadsToTerm path s ↔ path = [] ∧ s = t := by
  cases path with
  | nil =>
    rw [leadsToTerm_nil_iff]
    constructor
    · rintro ⟨rfl, _⟩
      exact ⟨rfl, rfl⟩
    · rintro ⟨_, rfl⟩
      exact ⟨rfl, h⟩
  | cons index path =>
    rw [leadsToTerm_cons_iff, h]
    exact iff_of_false (fun hadditive => Bool.noConfusion hadditive.1)
      fun hpath => List.cons_ne_nil _ _ hpath.1

/-! ### The terms by their paths -/

/-- The operands that sums and differences make up a statement from, in order, with the paths that
lead to them. -/
def placedSummands : Numeric A B f → List (List Nat × Numeric A B f)
  | additive _ _ left right =>
    left.placedSummands.map (Prod.map (0 :: ·) id) ++
      right.placedSummands.map (Prod.map (1 :: ·) id)
  | literal value => [([], literal value)]
  | var v => [([], var v)]
  | scaled id scaling left right => [([], scaled id scaling left right)]
  | round id mode operand => [([], round id mode operand)]
  | ternary id condition ifTrue otherwise => [([], ternary id condition ifTrue otherwise)]

/-- A statement that is neither a sum nor a difference is its own only summand. -/
lemma placedSummands_of_not_isAdditive {t : Numeric A B f} (h : t.isAdditive = false) :
    t.placedSummands = [([], t)] := by
  cases t with
  | additive id sign left right => cases h
  | _ => rfl

/-- The summands are listed with exactly the paths that lead to terms. -/
lemma mem_placedSummands_iff {t s : Numeric A B f} {path : List Nat} :
    (path, s) ∈ t.placedSummands ↔ t.LeadsToTerm path s := by
  induction t generalizing path with
  | additive id sign left right ihl ihr =>
    rw [placedSummands, List.mem_append, leadsToTerm_additive_iff]
    simp only [List.mem_map, Prod.exists, Prod.map_apply, id_eq, Prod.mk.injEq, ihl, ihr,
      exists_eq_right_right]
  | _ =>
    rw [leadsToTerm_iff_of_not_isAdditive rfl, placedSummands_of_not_isAdditive rfl,
      List.mem_singleton, Prod.mk.injEq]

/-- The paths of the summands ascend. -/
lemma pairwise_placedSummands (t : Numeric A B f) :
    t.placedSummands.Pairwise fun p q => List.Lex (· < ·) p.1 q.1 := by
  induction t with
  | additive id sign left right ihl ihr =>
    rw [placedSummands, List.pairwise_append, List.pairwise_map, List.pairwise_map]
    refine ⟨ihl.imp List.Lex.cons, ihr.imp List.Lex.cons, ?_⟩
    intro p hp q hq
    obtain ⟨_, _, rfl⟩ := List.mem_map.mp hp
    obtain ⟨_, _, rfl⟩ := List.mem_map.mp hq
    exact .rel Nat.zero_lt_one
  | _ =>
    rw [placedSummands_of_not_isAdditive rfl]
    exact List.pairwise_singleton _ _

/-- The term that a statement is behind a sign: a literal below zero without its minus behind the
other sign, and everything else as it is. -/
def signed (sign : Sign) (s : Numeric A B f) : Sign × Numeric A B f :=
  (if s.isNegativeLiteral then sign.flipped else sign, s.withoutMinus)

/-- A statement that is neither a sum nor a difference has one term. -/
lemma terms_of_not_isAdditive {s : Numeric A B f} (h : s.isAdditive = false) (sign : Sign) :
    s.terms sign = [s.signed sign] := by
  cases s with
  | additive id inner left right => cases h
  | literal value =>
    rw [terms, signed, withoutMinus, isNegativeLiteral]
    split <;> rfl
  | _ => rfl

/-- A sign behind which a chain stands is flipped for a right operand exactly if the chain is a
difference. -/
lemma iterate_flipped_behind (id : Id) (sign inner : Sign) (left right : Numeric A B f)
    (path : List Nat) :
    Sign.flipped^[(Node.numeric right).subtractionsOn path] (sign.behind inner) =
      Sign.flipped^[(Node.numeric (additive id inner left right)).subtractionsOn (1 :: path)]
        sign := by
  have hright : (Node.numeric (additive id inner left right)).children[1]? =
      some (.numeric right) := rfl
  rw [Node.subtractionsOn_cons hright, Nat.add_comm, Function.iterate_add_apply]
  cases inner <;> rfl

/-- The terms of a statement are its summands behind signs, each of which is flipped as often as the
path to the summand leaves a difference to the right. -/
lemma terms_eq_map_placedSummands (t : Numeric A B f) (sign : Sign) :
    t.terms sign = t.placedSummands.map fun p =>
      p.2.signed (Sign.flipped^[(Node.numeric t).subtractionsOn p.1] sign) := by
  induction t generalizing sign with
  | additive id inner left right ihl ihr =>
    have hleft : (Node.numeric (additive id inner left right)).children[0]? =
        some (.numeric left) := rfl
    rw [terms, ihl, ihr, placedSummands, List.map_append, List.map_map, List.map_map]
    congr 1
    · apply List.map_congr_left
      intro p _
      show _ = p.2.signed (Sign.flipped^[(Node.numeric _).subtractionsOn (0 :: p.1)] sign)
      rw [Node.subtractionsOn_cons hleft, if_neg (fun h => Nat.zero_ne_one h.2), Nat.zero_add]
    · apply List.map_congr_left
      intro p _
      rw [iterate_flipped_behind id sign inner left right]
      rfl
  | _ => exact terms_of_not_isAdditive rfl sign

/-! ### The text of the terms -/

/-- A term as it is written: its operator and its text, which is in parentheses if it has more than
one operand. -/
def writtenTerm (t : Sign × Numeric A B f) : List Char :=
  t.1.operator.spaced ++ wrapIf (t.2.arity > 1) t.2.text

/-- What a statement adds to the text of a chain are its terms, one after the other. -/
lemma termText_eq_flatMap_terms (t : Numeric A B f) (sign : Sign) :
    t.termText sign = (t.terms sign).flatMap writtenTerm := by
  induction t generalizing sign with
  | additive id inner left right ihl ihr =>
    rw [terms, List.flatMap_append, ← ihl, ← ihr]
    rfl
  | literal value =>
    rw [termText, write, terms]
    split
    · exact (List.append_nil _).symm
    · exact (List.append_nil _).symm
  | _ =>
    rw [termText_eq rfl rfl, terms_of_not_isAdditive rfl, List.flatMap_singleton]
    rfl

/-- The terms of a statement are the operands that paths through sums and differences end at, each
once and from left to right. Each is behind the sign of the statement, flipped once for every
difference that its path leaves to the right, and once more for a literal below zero, which becomes
its opposite. The text of the terms consists of exactly these terms in the same order, each as its
operator and its text, in parentheses precisely if it has more than one operand. -/
theorem terms_eq_map_leadsToTerm (t : Numeric A B f) (sign : Sign) :
    (∃ places : List (List Nat × Numeric A B f),
      places.Pairwise (fun p q => List.Lex (· < ·) p.1 q.1) ∧
        (∀ path s, (path, s) ∈ places ↔ t.LeadsToTerm path s) ∧
          t.terms sign = places.map fun p =>
            p.2.signed (Sign.flipped^[(Node.numeric t).subtractionsOn p.1] sign)) ∧
      t.termText sign = (t.terms sign).flatMap writtenTerm :=
  ⟨⟨t.placedSummands, t.pairwise_placedSummands, fun _ _ => mem_placedSummands_iff,
    t.terms_eq_map_placedSummands sign⟩, t.termText_eq_flatMap_terms sign⟩

example :
    let two : FiniteNumber .double := ⟨false, 0x4000000000000000, by decide⟩
    let product : Quantity .double :=
      .scaled ⟨0⟩ .multiply (Quantity.urgency .double) (Quantity.impact .double)
    let t : Quantity .double := .additive ⟨2⟩ .minus (.literal two.negated)
      (.additive ⟨1⟩ .minus (Quantity.urgency .double) product)
    t.terms .minus = [(.plus, .literal two), (.plus, Quantity.urgency .double), (.minus, product)] ∧
      t.termText .minus = " + 2 + urgency - (urgency * impact)".toList := by
  decide +kernel

end Numeric

end PriorityFormula
