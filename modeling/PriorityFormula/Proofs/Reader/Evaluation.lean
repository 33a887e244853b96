import PriorityFormula.Proofs.Reader.Acceptance
import PriorityFormula.Proofs.Reader.Spelling

/-!
# The value of a formula

A text stands for a tree if it spells tokens that stand for the tree in the usual precedence. Words
are taken as what they are: no name has the spelling of a truth value. Every formula stands for
exactly one tree, and its value or fault is the one that this tree gives: reading the text,
evaluating operands as they come and applying pending operators as soon as the next one allows it
is the same as grouping everything first and evaluating from left to right then.
-/

namespace PriorityFormula.Reader

/-- A text stands for a tree. -/
def StandsFor (text : List Char) (tree : Tree) : Prop :=
  ∃ ts, Spelled ts text ∧ (∀ t ∈ ts, t.Unambiguous) ∧ Groups .expression ts tree

/-- A text stands for a tree if and only if it is read as an expression with that tree. -/
theorem standsFor_iff {text : List Char} {tree : Tree} :
    StandsFor text tree ↔ (read text).map Expression.tree = some tree := by
  constructor
  · rintro ⟨ts, hspelled, hunambiguous, hgroups⟩
    have hsame : ts.map Token.resolved = ts := by
      rw [List.map_congr_left fun t ht => (hunambiguous t ht).resolved_eq, List.map_id']
    have htokens : tokens true text = some (ts.map Token.resolved) :=
      hspelled.tokens_eq hgroups.derives.alternates
    rw [hsame] at htokens
    obtain ⟨e, he, rfl⟩ := hgroups.reads
    rw [he.read_eq htokens]
    rfl
  · intro h
    obtain ⟨e, hread, rfl⟩ := Option.map_eq_some_iff.mp h
    exact exists_groups_of_read hread

instance (text : List Char) (tree : Tree) : Decidable (StandsFor text tree) :=
  decidable_of_iff' _ standsFor_iff

/-- A text that spells a tree stands for it. -/
lemma Spells.standsFor {text : List Char} {tree : Tree} (h : Spells text tree) :
    StandsFor text tree := by
  obtain ⟨e, hread, rfl⟩ := h.exists_read_eq
  rw [standsFor_iff, hread, Option.map_some]

/-- A text that stands for a tree is a formula. -/
lemma StandsFor.isFormula {text : List Char} {tree : Tree} (h : StandsFor text tree) :
    IsFormula text := by
  obtain ⟨ts, hspelled, _, hgroups⟩ := h
  exact ⟨ts, hspelled, hgroups.derives⟩

/-- A formula stands for exactly one tree, and it has the value or the fault that this tree
gives. The wording of a fault tells which of three kinds it is. -/
theorem IsFormula.exists_tree_evaluateText_eq_iff {text : List Char} (h : IsFormula text) :
    (∃ tree, StandsFor text tree ∧ (∀ other, StandsFor text other → other = tree) ∧
      ∀ {K : Type} (scope : Scope K) (result : Except ReadFault (Value K)),
        evaluateText scope text = result ↔ tree.Gives scope result) ∧
    ∀ {K : Type} (scope : Scope K) (fault : ReadFault), evaluateText scope text = .error fault →
      fault.message? = some "Expected Number" ∨ fault.message? = some "Expected Boolean" ∨
        ∃ name, fault.message? = some ("Unbound variable " ++ name) := by
  obtain ⟨e, hread⟩ := h.exists_read_eq
  have htree : (read text).map Expression.tree = some e.tree := by rw [hread, Option.map_some]
  have hgives : ∀ {K : Type} (scope : Scope K) (result : Except ReadFault (Value K)),
      evaluateText scope text = result ↔ e.tree.Gives scope result := by
    intro K scope result
    rw [evaluateText_eq scope ⟨e, hread, rfl⟩, Tree.gives_iff]
  refine ⟨⟨e.tree, standsFor_iff.mpr htree, ?_, hgives⟩, ?_⟩
  · intro other hother
    rw [standsFor_iff, htree] at hother
    exact (Option.some.inj hother).symm
  · intro K scope fault hfault
    have hnot := ((hgives scope _).mp hfault).ne_malformed
    cases fault with
    | malformed => exact absurd rfl hnot
    | expectedNumber => exact .inl rfl
    | expectedBoolean => exact .inr (.inl rfl)
    | unbound name => exact .inr (.inr ⟨name, rfl⟩)

/-- A condition with operators of all four levels, two of which stand side by side. -/
theorem exists_tree_evaluateText_eq_iff_mixed :
    IsFormula "a || b && 1 - 2 - 3 * x ? y : -4".toList ∧
      ∀ {K : Type} (scope : Scope K) (result : Except ReadFault (Value K)),
        evaluateText scope "a || b && 1 - 2 - 3 * x ? y : -4".toList = result ↔
          (Tree.choice
            (.binary .or (.name ['a'])
              (.binary .and (.name ['b'])
                (.binary .subtract
                  (.binary .subtract (.number false ⟨1, 0⟩) (.number false ⟨2, 0⟩))
                  (.binary .multiply (.number false ⟨3, 0⟩) (.name ['x'])))))
            (.name ['y']) (.number true ⟨4, 0⟩)).Gives scope result := by
  have hname : ∀ c, isNameStart c = true → SpellsTerm [c] (.name [c]) := by
    intro c hc
    refine spellsTerm_name (by rw [isName, hc]; rfl) fun value h => ?_
    cases value <;> cases h
  have hdigit : ∀ negative c, c.isDigit = true →
      SpellsTerm (Token.numeral negative [c] []).text (.number negative (.ofNumeral [c] [])) := by
    intro negative c hc
    exact spellsTerm_numeral negative (List.cons_ne_nil _ _) (by simpa using hc) (by simp)
  have hproduct := @SpellsChain.binary .multiply _ _ _ _ ((hdigit false '3' rfl).spellsChain 4)
    ((hname 'x' rfl).spellsChain 5)
  have hdifference := @SpellsChain.binary .subtract _ _ _ _
    ((hdigit false '1' rfl).spellsChain 3) ((hdigit false '2' rfl).spellsChain 4)
  have hsum := @SpellsChain.binary .subtract _ _ _ _ hdifference hproduct
  have hcondition := @SpellsChain.binary .or _ _ _ _ ((hname 'a' rfl).spellsChain 1)
    (@SpellsChain.binary .and _ _ _ _ ((hname 'b' rfl).spellsChain 2) hsum)
  have hstands := (hcondition.choice (hname 'y' rfl).spells (hdigit true '4' rfl).spells).standsFor
  obtain ⟨⟨tree, _, hunique, hgives⟩, _⟩ := hstands.isFormula.exists_tree_evaluateText_eq_iff
  rw [← hunique _ hstands] at hgives
  exact ⟨hstands.isFormula, hgives⟩

end PriorityFormula.Reader
