import PriorityFormula.Proofs.Reader.Lexing
import PriorityFormula.Proofs.Reader.Tree

/-!
# Texts that spell a tree

A text spells a tree if it is read as an expression with that tree. Texts are put together as
formulas are printed: in parentheses, behind a function, with an operator or the marks of a choice
between them. What an operator may have on its sides is said by levels: a text spells a chain at a
level if all operators outside its parentheses bind at least as tightly as that level. To the left
of an operator a chain at its own level may stand, to its right only one at a higher level.
-/

namespace PriorityFormula.Reader

/-- A text spells a tree as a whole expression. -/
def Spells (text : List Char) (tree : Tree) : Prop :=
  ∃ ts e, Lexes true text ts false ∧ ReadsExpression ts e ∧ e.tree = tree

/-- A text spells a tree as an operand. -/
def SpellsTerm (text : List Char) (tree : Tree) : Prop :=
  ∃ ts t, Lexes true text ts false ∧ ReadsTerm ts t ∧ t.tree = tree

/-- A text spells a tree as a chain whose operators bind at least as tightly as a level. -/
def SpellsChain (level : Nat) (text : List Char) (tree : Tree) : Prop :=
  ∃ ts us head links, Lexes true text (ts ++ us) false ∧ ReadsTerm ts head ∧ ReadsLinks us links ∧
    links.BindsAtLeast level ∧ (Expression.chain head links).tree = tree

/-- A text that spells a tree is read as an expression with that tree. -/
lemma Spells.exists_read_eq {text : List Char} {tree : Tree} (h : Spells text tree) :
    ∃ e, read text = some e ∧ e.tree = tree := by
  obtain ⟨ts, e, hlexes, hreads, htree⟩ := h
  exact ⟨e, hreads.read_eq hlexes.tokens_eq_some, htree⟩

/-- A text spells a chain if it is cut into tokens that read as one. -/
lemma spellsChain_iff {level : Nat} {text : List Char} {tree : Tree} :
    SpellsChain level text tree ↔ ∃ ts, Lexes true text ts false ∧ ReadsChain level ts tree := by
  constructor
  · rintro ⟨ts, us, head, links, hlexes, hreads⟩
    exact ⟨ts ++ us, hlexes, ts, us, head, links, rfl, hreads⟩
  · rintro ⟨_, hlexes, ts, us, head, links, rfl, hreads⟩
    exact ⟨ts, us, head, links, hlexes, hreads⟩

/-- An operand is a chain at every level. -/
lemma SpellsTerm.spellsChain {text : List Char} {tree : Tree} (h : SpellsTerm text tree)
    (level : Nat) : SpellsChain level text tree := by
  obtain ⟨ts, t, hlexes, hreads, rfl⟩ := h
  exact spellsChain_iff.mpr ⟨ts, hlexes, hreads.readsChain level⟩

/-- A chain at a level is a chain at every lower level. -/
lemma SpellsChain.mono {level level' : Nat} {text : List Char} {tree : Tree}
    (h : SpellsChain level text tree) (hle : level' ≤ level) : SpellsChain level' text tree := by
  obtain ⟨ts, hlexes, hreads⟩ := spellsChain_iff.mp h
  exact spellsChain_iff.mpr ⟨ts, hlexes, hreads.mono hle⟩

/-- A chain is a whole expression. -/
lemma SpellsChain.spells {level : Nat} {text : List Char} {tree : Tree}
    (h : SpellsChain level text tree) : Spells text tree := by
  obtain ⟨ts, hlexes, hreads⟩ := spellsChain_iff.mp h
  obtain ⟨e, he, htree⟩ := hreads.exists_readsExpression
  exact ⟨ts, e, hlexes, he, htree⟩

/-- An operand is a whole expression. -/
lemma SpellsTerm.spells {text : List Char} {tree : Tree} (h : SpellsTerm text tree) :
    Spells text tree :=
  (h.spellsChain 0).spells

/-! ### Operands -/

/-- The text of a numeral spells that numeral. -/
lemma spellsTerm_numeral (negative : Bool) {whole fraction : List Char} (hne : whole ≠ [])
    (hwhole : ∀ c ∈ whole, c.isDigit = true) (hfraction : ∀ c ∈ fraction, c.isDigit = true) :
    SpellsTerm (Token.numeral negative whole fraction).text
      (.number negative (.ofNumeral whole fraction)) :=
  ⟨_, _, lexes_numeral negative hne hwhole hfraction, readTerm_numeral negative whole fraction, rfl⟩

/-- The text of a truth value spells that truth value. -/
lemma spellsTerm_truthText (value : Bool) :
    SpellsTerm (Boolean.truthText value) (.truth value) := by
  have hlexes := lexes_word (isName_truthText value)
  rw [ofWord_truthText] at hlexes
  exact ⟨_, _, hlexes, readTerm_truth value, rfl⟩

/-- The text of a name that is no truth value spells that name. -/
lemma spellsTerm_name {word : List Char} (h : isName word = true)
    (hne : ∀ value, word ≠ Boolean.truthText value) : SpellsTerm word (.name word) := by
  have hlexes := lexes_word h
  rw [ofWord_eq_name hne] at hlexes
  exact ⟨_, _, hlexes, readTerm_name word, rfl⟩

/-- A text in parentheses spells its tree as an operand. -/
lemma Spells.grouped {text : List Char} {tree : Tree} (h : Spells text tree) :
    SpellsTerm ('(' :: text ++ [')']) tree := by
  obtain ⟨ts, e, hlexes, hreads, htree⟩ := h
  exact ⟨_, _, hlexes.enclosed, hreads.grouped, htree⟩

/-- A function applied to a text spells the rounding of its tree. -/
lemma Spells.rounded {text : List Char} {tree : Tree} (h : Spells text tree) (mode : Rounding) :
    SpellsTerm (mode.function ++ '(' :: text ++ [')']) (.rounded mode tree) := by
  obtain ⟨ts, e, hlexes, hreads, htree⟩ := h
  refine ⟨_, _, hlexes.rounded mode, hreads.rounded mode, ?_⟩
  rw [Term.tree, htree]

/-! ### Operators and choices -/

/-- The text of an operator breaks off what stands in front of it. -/
lemma breaks_spaced_append (op : Operator) (text : List Char) :
    breaks (op.spaced ++ text) = true := rfl

/-- An operator joins a chain at its own level and one at a higher level. -/
lemma SpellsChain.binary {op : Operator} {s t : List Char} {left right : Tree}
    (hs : SpellsChain (bindingLevel op) s left)
    (ht : SpellsChain (bindingLevel op + 1) t right) :
    SpellsChain (bindingLevel op) (s ++ op.spaced ++ t) (.binary op left right) := by
  obtain ⟨ts, hlexes, hreads⟩ := spellsChain_iff.mp hs
  obtain ⟨us, hlexes', hreads'⟩ := spellsChain_iff.mp ht
  have hjoined := hlexes.append (hlexes'.behind_operator op) (breaks_spaced_append op t)
  rw [← List.append_assoc] at hjoined
  exact spellsChain_iff.mpr ⟨_, hjoined, hreads.binary hreads'⟩

/-- A chain and two expressions with the marks of a choice between them. -/
lemma SpellsChain.choice {level : Nat} {c s t : List Char} {condition ifTrue otherwise : Tree}
    (hc : SpellsChain level c condition) (hs : Spells s ifTrue) (ht : Spells t otherwise) :
    Spells (c ++ [' ', '?', ' '] ++ s ++ [' ', ':', ' '] ++ t)
      (.choice condition ifTrue otherwise) := by
  obtain ⟨ts, hlexes, hreads⟩ := spellsChain_iff.mp hc
  obtain ⟨us, e, hlexesIf, hreadsIf, rfl⟩ := hs
  obtain ⟨vs, e', hlexesElse, hreadsElse, rfl⟩ := ht
  obtain ⟨choice, hchoice, htree⟩ := hreads.exists_choice hreadsIf hreadsElse
  refine ⟨_, choice, ?_, hchoice, htree⟩
  have hcolon : Lexes false ([' ', ':', ' '] ++ t) (.colon :: vs) false :=
    hlexesElse.behind_mark (Or.inr ⟨rfl, rfl⟩)
  have hquestion : Lexes false ([' ', '?', ' '] ++ (s ++ ([' ', ':', ' '] ++ t)))
      (.question :: (us ++ .colon :: vs)) false :=
    (hlexesIf.append hcolon rfl).behind_mark (Or.inl ⟨rfl, rfl⟩)
  have hwhole := hlexes.append hquestion rfl
  simpa only [List.append_assoc] using hwhole

end PriorityFormula.Reader
