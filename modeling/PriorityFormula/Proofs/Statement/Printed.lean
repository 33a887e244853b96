import PriorityFormula.Proofs.Reader.Spelling
import PriorityFormula.Proofs.Statement.Tree

/-!
# What a printed statement spells

The text of a statement spells the tree of the regrouped statement. The induction says more: what
the text spells on its own, in the parentheses that an operand gets, as the head of a block, and
behind a chain that the block already leans on. The last of these carries the argument, since a
block that is nested to the right is printed without its grouping: it then goes on with the chain in
front of it, and the regrouped statement is just the one in which its operands were appended to that
chain.

Variables have to be told from truth values by their names, so none may be named like one.
-/

namespace PriorityFormula

open Reader

/-! ### Leaves -/

/-- The name is not the text of a truth value. -/
def Name.IsNoTruthValue (name : Name) : Prop :=
  name.text ≠ "true" ∧ name.text ≠ "false"

instance (name : Name) : Decidable name.IsNoTruthValue :=
  inferInstanceAs (Decidable (_ ∧ _))

/-- A name that is no truth value spells itself. -/
lemma Name.IsNoTruthValue.spellsTerm {name : Name} (h : name.IsNoTruthValue) :
    SpellsTerm name.text.toList (.name name.text.toList) := by
  refine spellsTerm_name name.isName_text ?_
  intro value heq
  cases value with
  | true => exact h.1 (String.toList_inj.mp heq)
  | false => exact h.2 (String.toList_inj.mp heq)

/-- The text of a literal is the spelling of its numeral. -/
lemma FiniteNumber.plain_eq_text {f : Format} (x : FiniteNumber f) :
    x.plain = (Token.numeral x.isNegative x.shortest.whole x.shortest.fraction).text := by
  rw [plain_eq, Token.text, Decimal.plain, List.append_assoc]
  cases x.shortest.fraction with
  | nil => simp
  | cons c rest => simp

/-- A literal spells its numeral. -/
lemma FiniteNumber.spellsTerm_plain {f : Format} (x : FiniteNumber f) :
    SpellsTerm x.plain (.number x.isNegative x.numeral) := by
  rw [plain_eq_text]
  exact spellsTerm_numeral x.isNegative x.shortest.whole_ne_nil
    (fun c => Decimal.isDigit_of_mem_whole) (fun c => Decimal.isDigit_of_mem_fraction)

/-! ### Conditions -/

namespace Boolean

variable {B : Type}

/-- The text of a condition as an operand of a connective. -/
def operandText (connective : Connective) (s : Boolean B) : List Char :=
  wrapIf (s.arity > 1 && !s.joinedBy connective) s.text

/-- What the text of a condition spells, by itself and in all places where it may be printed. -/
structure Printed (s : Boolean B) : Prop where
  /-- By itself, the text spells the regrouped condition. -/
  spells : Spells s.text s.regrouped.tree
  /-- In parentheses where it has several operands, it is an operand. -/
  wrapped : SpellsTerm (wrapIf (s.arity > 1) s.text) s.regrouped.tree
  /-- As first operand of a connective, it is a chain that the connective can continue. -/
  first (connective : Connective) :
    SpellsChain (bindingLevel connective.operator) (s.operandText connective) s.regrouped.tree
  /-- As a further operand, it continues the chain in front of it. -/
  behind (connective : Connective) (chain : Boolean B) (id : Id) (text : List Char) :
    SpellsChain (bindingLevel connective.operator) text chain.tree →
      SpellsChain (bindingLevel connective.operator)
        (text ++ connective.operator.spaced ++ s.operandText connective)
        (appendParts connective chain id s.regrouped).tree

/-- An operand of its own is put behind a chain as it is. -/
lemma spellsChain_joined {s : Boolean B} {t : List Char} (h : SpellsTerm t s.tree)
    (connective : Connective) (chain : Boolean B) (id : Id) (text : List Char)
    (hchain : SpellsChain (bindingLevel connective.operator) text chain.tree) :
    SpellsChain (bindingLevel connective.operator) (text ++ connective.operator.spaced ++ t)
      (joined id connective chain s).tree :=
  hchain.binary (h.spellsChain _)

/-- A condition that is not joined by a connective is printed as an operand of its own. -/
lemma operandText_of_joinedBy_eq_false {s : Boolean B} {connective : Connective}
    (h : s.joinedBy connective = false) :
    s.operandText connective = wrapIf (s.arity > 1) s.text := by
  rw [operandText, h, Bool.not_false, Bool.and_true]

/-- A condition joined by a connective is printed without parentheses as an operand of it. -/
lemma operandText_of_joinedBy {s : Boolean B} {connective : Connective}
    (h : s.joinedBy connective = true) : s.operandText connective = s.text := by
  rw [operandText, h, Bool.not_true, Bool.and_false]
  rfl

/-- What is spelled by itself and in parentheses is also spelled beside the connectives that do not
join it. -/
lemma Printed.of_wrapped {s : Boolean B} (hspells : Spells s.text s.regrouped.tree)
    (hwrapped : SpellsTerm (wrapIf (s.arity > 1) s.text) s.regrouped.tree)
    (hjoined : ∀ connective, s.joinedBy connective = false) : s.Printed where
  spells := hspells
  wrapped := hwrapped
  first connective := by
    rw [operandText_of_joinedBy_eq_false (hjoined connective)]
    exact hwrapped.spellsChain _
  behind connective chain id text hchain := by
    have hregrouped : s.regrouped.joinedBy connective = false := by
      rw [joinedBy_regrouped, hjoined]
    rw [operandText_of_joinedBy_eq_false (hjoined connective),
      appendParts_of_joinedBy_eq_false hregrouped]
    exact spellsChain_joined hwrapped connective chain id text hchain

/-- As a condition or branch of a choice, the text is an operand. -/
lemma Printed.spellsTerm {s : Boolean B} (h : s.Printed) :
    SpellsTerm (wrapIf s.isCompound s.text) s.regrouped.tree := by
  cases s with
  | literal value => exact h.wrapped
  | var v => exact h.wrapped
  | joined id connective left right => exact h.wrapped
  | ternary id condition ifTrue otherwise => exact h.wrapped

/-- A joined condition continues the chain of its operands. -/
lemma Printed.of_joined {left right : Boolean B} (hl : left.Printed) (hr : right.Printed) (id : Id)
    (connective : Connective) : (joined id connective left right).Printed := by
  have hchain : SpellsChain (bindingLevel connective.operator)
      (joined id connective left right).text (joined id connective left right).regrouped.tree :=
    hr.behind connective left.regrouped id _ (hl.first connective)
  have hwrapped : SpellsTerm (wrapIf ((joined id connective left right).arity > 1)
      (joined id connective left right).text)
      (joined id connective left right).regrouped.tree := hchain.spells.grouped
  refine ⟨hchain.spells, hwrapped, ?_, ?_⟩
  · intro own
    cases hjoined : (joined id connective left right).joinedBy own with
    | false =>
      rw [operandText_of_joinedBy_eq_false hjoined]
      exact hwrapped.spellsChain _
    | true =>
      have hown : connective = own := by simpa [joinedBy] using hjoined
      rw [operandText_of_joinedBy hjoined, ← hown]
      exact hchain
  · intro own chain id' text htext
    cases hjoined : (joined id connective left right).joinedBy own with
    | false =>
      have hregrouped : (joined id connective left right).regrouped.joinedBy own = false := by
        rw [joinedBy_regrouped, hjoined]
      rw [operandText_of_joinedBy_eq_false hjoined, appendParts_of_joinedBy_eq_false hregrouped]
      exact spellsChain_joined hwrapped own chain id' text htext
    | true =>
      have hown : connective = own := by simpa [joinedBy] using hjoined
      subst hown
      have hboth := hr.behind connective _ id _ (hl.behind connective chain id' text htext)
      have htexts : (joined id connective left right).text =
          left.operandText connective ++ connective.operator.spaced ++
            right.operandText connective := rfl
      rw [operandText_of_joinedBy hjoined, regrouped, appendParts_appendParts, htexts]
      simpa only [List.append_assoc] using hboth

/-- A choice between conditions is printed with its condition and first branch as operands. -/
lemma Printed.of_ternary {condition ifTrue otherwise : Boolean B} (hc : condition.Printed)
    (ht : ifTrue.Printed) (ho : otherwise.Printed) (id : Id) :
    (ternary id condition ifTrue otherwise).Printed := by
  have hspells := (hc.spellsTerm.spellsChain 0).choice ht.spellsTerm.spells ho.spells
  exact Printed.of_wrapped hspells hspells.grouped fun _ => rfl

/-- The text of a condition spells the regrouped condition. -/
theorem printed (s : Boolean B) (h : ∀ v ∈ s.allVariables, v.name.IsNoTruthValue) : s.Printed := by
  induction s with
  | literal value =>
    have hterm := spellsTerm_truthText value
    exact Printed.of_wrapped hterm.spells hterm fun _ => rfl
  | var v =>
    have hterm := (h v (List.mem_singleton_self v)).spellsTerm
    exact Printed.of_wrapped hterm.spells hterm fun _ => rfl
  | joined id connective left right ihl ihr =>
    obtain ⟨hleft, hright⟩ := List.forall_mem_append.mp h
    exact Printed.of_joined (ihl hleft) (ihr hright) id connective
  | ternary id condition ifTrue otherwise ihc iht iho =>
    obtain ⟨hselection, hotherwise⟩ := List.forall_mem_append.mp h
    obtain ⟨hcondition, hifTrue⟩ := List.forall_mem_append.mp hselection
    exact Printed.of_ternary (ihc hcondition) (iht hifTrue) (iho hotherwise) id

end Boolean

/-! ### Numeric statements -/

namespace Numeric

variable {A B : Type} {f : Format}

/-- The text of a statement as a factor. -/
def factorText (scaling : Scaling) (s : Numeric A B f) : List Char :=
  wrapIf (s.arity > 1 && !s.scaledBy scaling) s.text

/-- What the text of a statement spells, by itself and in all places where it may be printed. -/
structure Printed (s : Numeric A B f) : Prop where
  /-- By itself, the text spells the regrouped statement. -/
  spells : Spells s.text s.regrouped.tree
  /-- In parentheses where it has several operands, it is an operand. -/
  wrapped : SpellsTerm (wrapIf (s.arity > 1) s.text) s.regrouped.tree
  /-- As first term, it is a chain that signs can continue. -/
  head : SpellsChain (bindingLevel .add) (wrapIf s.isTernary s.text) s.regrouped.tree
  /-- As a further term, it continues the chain in front of it. -/
  term (sign : Sign) (chain : Numeric A B f) (id : Id) (text : List Char) :
    SpellsChain (bindingLevel .add) text chain.tree →
      SpellsChain (bindingLevel .add) (text ++ s.termText sign)
        (appendTerms chain id sign s.regrouped).tree
  /-- As first factor, it is a chain that scalings can continue. -/
  factor (scaling : Scaling) :
    SpellsChain (bindingLevel .multiply) (s.factorText scaling) s.regrouped.tree
  /-- As a further factor, it continues the chain in front of it. -/
  furtherFactor (scaling : Scaling) (chain : Numeric A B f) (id : Id) (text : List Char) :
    SpellsChain (bindingLevel .multiply) text chain.tree →
      SpellsChain (bindingLevel .multiply)
        (text ++ scaling.operator.spaced ++ s.factorText scaling)
        (appendFactors scaling chain id s.regrouped).tree

/-- An operand of its own is put behind a chain of terms as it is. -/
lemma spellsChain_additive {s : Numeric A B f} {t : List Char} (h : SpellsTerm t s.tree)
    (sign : Sign) (chain : Numeric A B f) (id : Id) (text : List Char)
    (hchain : SpellsChain (bindingLevel .add) text chain.tree) :
    SpellsChain (bindingLevel .add) (text ++ (sign.operator.spaced ++ t))
      (additive id sign chain s).tree := by
  rw [← List.append_assoc]
  cases sign with
  | plus => exact hchain.binary (h.spellsChain _)
  | minus =>
    have hlevel : SpellsChain (bindingLevel .subtract) text chain.tree := hchain
    exact hlevel.binary (h.spellsChain _)

/-- An operand of its own is put behind a chain of factors as it is. -/
lemma spellsChain_scaled {s : Numeric A B f} {t : List Char} (h : SpellsTerm t s.tree)
    (scaling : Scaling) (chain : Numeric A B f) (id : Id) (text : List Char)
    (hchain : SpellsChain (bindingLevel .multiply) text chain.tree) :
    SpellsChain (bindingLevel .multiply) (text ++ scaling.operator.spaced ++ t)
      (scaled id scaling chain s).tree := by
  cases scaling with
  | multiply => exact hchain.binary (h.spellsChain _)
  | divide =>
    have hlevel : SpellsChain (bindingLevel .divide) text chain.tree := hchain
    exact hlevel.binary (h.spellsChain _)

/-- A statement that is neither a sum, nor a difference, nor a literal below zero is printed as a
term behind its sign. -/
lemma termText_eq {s : Numeric A B f} (hadditive : s.isAdditive = false)
    (hnegative : s.isNegativeLiteral = false) (sign : Sign) :
    s.termText sign = sign.operator.spaced ++ wrapIf (s.arity > 1) s.text := by
  cases s with
  | literal value =>
    have hvalue : ¬ value.isNegative = true := by simpa [isNegativeLiteral] using hnegative
    rw [termText, write, if_neg hvalue]
    rfl
  | var v => rfl
  | additive id inner left right => cases hadditive
  | scaled id scaling left right => rfl
  | round id mode operand => rfl
  | ternary id condition ifTrue otherwise => rfl

/-- Such a statement is a term of its own. -/
lemma spellsChain_termText {s : Numeric A B f} (hadditive : s.isAdditive = false)
    (hnegative : s.isNegativeLiteral = false)
    (hwrapped : SpellsTerm (wrapIf (s.arity > 1) s.text) s.regrouped.tree) (sign : Sign)
    (chain : Numeric A B f) (id : Id) (text : List Char)
    (hchain : SpellsChain (bindingLevel .add) text chain.tree) :
    SpellsChain (bindingLevel .add) (text ++ s.termText sign)
      (appendTerms chain id sign s.regrouped).tree := by
  obtain ⟨hadditive', hnegative', _⟩ := s.regrouped_root
  rw [termText_eq hadditive hnegative, appendTerms_eq_additive (hadditive'.trans hadditive)
    (hnegative'.trans hnegative)]
  exact spellsChain_additive hwrapped sign chain id text hchain

/-- A statement that is not scaled in the same way is printed as an operand of its own. -/
lemma factorText_of_scaledBy_eq_false {s : Numeric A B f} {scaling : Scaling}
    (h : s.scaledBy scaling = false) : s.factorText scaling = wrapIf (s.arity > 1) s.text := by
  rw [factorText, h, Bool.not_false, Bool.and_true]

/-- A statement that is scaled in the same way is printed without parentheses as a factor. -/
lemma factorText_of_scaledBy {s : Numeric A B f} {scaling : Scaling}
    (h : s.scaledBy scaling = true) : s.factorText scaling = s.text := by
  rw [factorText, h, Bool.not_true, Bool.and_false]
  rfl

/-- A statement that is not scaled in the same way is a factor of its own. -/
lemma spellsChain_factorText {s : Numeric A B f} {scaling : Scaling}
    (hscaled : s.scaledBy scaling = false)
    (hwrapped : SpellsTerm (wrapIf (s.arity > 1) s.text) s.regrouped.tree)
    (chain : Numeric A B f) (id : Id) (text : List Char)
    (hchain : SpellsChain (bindingLevel .multiply) text chain.tree) :
    SpellsChain (bindingLevel .multiply) (text ++ scaling.operator.spaced ++ s.factorText scaling)
      (appendFactors scaling chain id s.regrouped).tree := by
  have hregrouped : s.regrouped.scaledBy scaling = false := by
    rw [s.regrouped_root.2.2, hscaled]
  rw [factorText_of_scaledBy_eq_false hscaled, appendFactors_of_scaledBy_eq_false hregrouped]
  exact spellsChain_scaled hwrapped scaling chain id text hchain

/-- What is not scaled is a factor of its own. -/
lemma Printed.of_wrapped {s : Numeric A B f} (hspells : Spells s.text s.regrouped.tree)
    (hwrapped : SpellsTerm (wrapIf (s.arity > 1) s.text) s.regrouped.tree)
    (hhead : SpellsChain (bindingLevel .add) (wrapIf s.isTernary s.text) s.regrouped.tree)
    (hterm : ∀ sign chain id text, SpellsChain (bindingLevel .add) text chain.tree →
      SpellsChain (bindingLevel .add) (text ++ s.termText sign)
        (appendTerms chain id sign s.regrouped).tree)
    (hscaled : ∀ scaling, s.scaledBy scaling = false) : s.Printed where
  spells := hspells
  wrapped := hwrapped
  head := hhead
  term := hterm
  factor scaling := by
    rw [factorText_of_scaledBy_eq_false (hscaled scaling)]
    exact hwrapped.spellsChain _
  furtherFactor scaling chain id text hchain :=
    spellsChain_factorText (hscaled scaling) hwrapped chain id text hchain

/-- As a branch of a choice, the text is an operand. -/
lemma Printed.spellsTerm {s : Numeric A B f} (h : s.Printed) :
    SpellsTerm (wrapIf s.isCompound s.text) s.regrouped.tree := by
  cases s with
  | literal value => exact h.wrapped
  | var v => exact h.wrapped
  | additive id sign left right => exact h.wrapped
  | scaled id scaling left right => exact h.wrapped
  | round id mode operand => exact h.spells.grouped
  | ternary id condition ifTrue otherwise => exact h.wrapped

/-- A literal below zero is printed behind the other sign as its opposite. -/
lemma printed_literal (value : FiniteNumber f) : (literal value : Numeric A B f).Printed := by
  have hterm := value.spellsTerm_plain
  refine Printed.of_wrapped hterm.spells hterm (hterm.spellsChain _) ?_ fun _ => rfl
  intro sign chain id text hchain
  cases hvalue : value.isNegative with
  | false =>
    have hnegative : (literal value : Numeric A B f).isNegativeLiteral = false := hvalue
    exact spellsChain_termText rfl hnegative hterm sign chain id text hchain
  | true =>
    rw [termText, write, if_pos hvalue, regrouped, appendTerms, if_pos hvalue]
    exact spellsChain_additive value.negated.spellsTerm_plain sign.flipped chain id text hchain

/-- A sum or difference continues the chain of its terms. -/
lemma Printed.of_additive {left right : Numeric A B f} (hl : left.Printed) (hr : right.Printed)
    (id : Id) (sign : Sign) : (additive id sign left right).Printed := by
  have hchain : SpellsChain (bindingLevel .add) (additive id sign left right).text
      (additive id sign left right).regrouped.tree :=
    hr.term sign left.regrouped id _ hl.head
  refine Printed.of_wrapped hchain.spells hchain.spells.grouped hchain ?_ fun _ => rfl
  intro outer chain id' text htext
  have hboth := hr.term (outer.behind sign) _ id _ (hl.term outer chain id' text htext)
  rw [List.append_assoc] at hboth
  rw [regrouped, appendTerms_appendTerms]
  exact hboth

/-- A product or quotient continues the chain of its factors. -/
lemma Printed.of_scaled {left right : Numeric A B f} (hl : left.Printed) (hr : right.Printed)
    (id : Id) (scaling : Scaling) : (scaled id scaling left right).Printed := by
  have hchain : SpellsChain (bindingLevel .multiply) (scaled id scaling left right).text
      (scaled id scaling left right).regrouped.tree :=
    hr.furtherFactor scaling left.regrouped id _ (hl.factor scaling)
  have hwrapped : SpellsTerm (wrapIf ((scaled id scaling left right).arity > 1)
      (scaled id scaling left right).text) (scaled id scaling left right).regrouped.tree :=
    hchain.spells.grouped
  refine ⟨hchain.spells, hwrapped, hchain.mono (Nat.le_succ _), ?_, ?_, ?_⟩
  · exact spellsChain_termText rfl rfl hwrapped
  · intro own
    cases hscaled : (scaled id scaling left right).scaledBy own with
    | false =>
      rw [factorText_of_scaledBy_eq_false hscaled]
      exact hwrapped.spellsChain _
    | true =>
      rw [factorText_of_scaledBy hscaled]
      exact hchain
  · intro own chain id' text htext
    cases hscaled : (scaled id scaling left right).scaledBy own with
    | false => exact spellsChain_factorText hscaled hwrapped chain id' text htext
    | true =>
      have hown : scaling = own := by simpa [scaledBy] using hscaled
      subst hown
      have hboth :=
        hr.furtherFactor scaling _ id _ (hl.furtherFactor scaling chain id' text htext)
      have htexts : (scaled id scaling left right).text =
          left.factorText scaling ++ scaling.operator.spaced ++ right.factorText scaling := rfl
      rw [factorText_of_scaledBy hscaled, regrouped, appendFactors_appendFactors, htexts]
      simpa only [List.append_assoc] using hboth

/-- A rounding is printed as an application of its function, which is an operand. -/
lemma Printed.of_round {operand : Numeric A B f} (h : operand.Printed) (id : Id)
    (mode : Rounding) : (round id mode operand : Numeric A B f).Printed := by
  have hterm := h.spells.rounded mode
  exact Printed.of_wrapped hterm.spells hterm (hterm.spellsChain _)
    (spellsChain_termText rfl rfl hterm) fun _ => rfl

/-- A choice between numbers is printed with its condition and first branch as operands. -/
lemma Printed.of_ternary {condition : Boolean B} {ifTrue otherwise : Numeric A B f}
    (hc : condition.Printed) (ht : ifTrue.Printed) (ho : otherwise.Printed) (id : Id) :
    (ternary id condition ifTrue otherwise).Printed := by
  have hspells := (hc.spellsTerm.spellsChain 0).choice ht.spellsTerm.spells ho.spells
  exact Printed.of_wrapped hspells hspells.grouped (hspells.grouped.spellsChain _)
    (spellsChain_termText rfl rfl hspells.grouped) fun _ => rfl

/-- The text of a numeric statement spells the regrouped statement. -/
theorem printed (s : Numeric A B f) (h : ∀ v ∈ s.allVariables, v.name.IsNoTruthValue) :
    s.Printed := by
  induction s with
  | literal value => exact printed_literal value
  | var v =>
    have hterm := (h (.number v) (List.mem_singleton_self _)).spellsTerm
    exact Printed.of_wrapped hterm.spells hterm (hterm.spellsChain _)
      (spellsChain_termText rfl rfl hterm) fun _ => rfl
  | additive id sign left right ihl ihr =>
    obtain ⟨hleft, hright⟩ := List.forall_mem_append.mp h
    exact Printed.of_additive (ihl hleft) (ihr hright) id sign
  | scaled id scaling left right ihl ihr =>
    obtain ⟨hleft, hright⟩ := List.forall_mem_append.mp h
    exact Printed.of_scaled (ihl hleft) (ihr hright) id scaling
  | round id mode operand ih => exact Printed.of_round (ih h) id mode
  | ternary id condition ifTrue otherwise iht iho =>
    obtain ⟨hselection, hotherwise⟩ := List.forall_mem_append.mp h
    obtain ⟨hflags, hifTrue⟩ := List.forall_mem_append.mp hselection
    have hcondition := condition.printed fun v hv => hflags (.flag v) (List.mem_map_of_mem hv)
    exact Printed.of_ternary hcondition (iht hifTrue) (iho hotherwise) id

end Numeric

/-- The text of a statement is read as an expression with the tree of the regrouped statement. -/
theorem Node.exists_read_text_eq {A B : Type} {f : Format} (s : Node A B f)
    (h : ∀ v ∈ s.allVariables, v.name.IsNoTruthValue) :
    ∃ e, read s.text = some e ∧ e.tree = s.regrouped.tree := by
  cases s with
  | numeric s => exact (s.printed h).spells.exists_read_eq
  | boolean s =>
    have hnames : ∀ v ∈ s.allVariables, v.name.IsNoTruthValue := fun v hv =>
      h (.flag v) (List.mem_map_of_mem hv)
    exact (s.printed hnames).spells.exists_read_eq

end PriorityFormula
