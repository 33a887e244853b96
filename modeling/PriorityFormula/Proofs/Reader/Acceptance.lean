import PriorityFormula.Proofs.Reader.Meaning
import PriorityFormula.Proofs.Reader.Precedence
import PriorityFormula.Proofs.Reader.Tokenization

/-!
# The reader accepts exactly the formulas

A text is read as an expression if and only if it is a formula. The reader commits to a token as
soon as it has cut it off, takes as many links as there are, and never goes back; the grammar leaves
all of this open. So on the one hand every derivation is followed by a reading: the tokens of a
formula are those that the reader finds, except that it takes a name `true` for the truth value, and
tokens that a rule derives read as what the rule stands for. On the other hand the tokens that an
expression is read off stand for its tree, and so the grammar derives them.

Since evaluation finds other faults only, a text is malformed if and only if it is no formula.
-/

namespace PriorityFormula.Reader

/-! ### What is derived is read -/

/-- Tokens read as what a rule stands for. -/
def Rule.Reads : Rule → List Token → Prop
  | .expression, ts => ∃ e, ReadsExpression ts e
  | .chain, ts => ∃ us vs t l, ts = us ++ vs ∧ ReadsTerm us t ∧ ReadsLinks vs l
  | .links, ts => ∃ l, ReadsLinks ts l
  | .term, ts => ∃ t, ReadsTerm ts t

/-- A word reads as an operand. -/
lemma exists_readsTerm_of_isWord {t : Token} (h : t.isWord = true) : ∃ u, ReadsTerm [t] u := by
  cases t with
  | numeral negative whole fraction => exact ⟨_, readTerm_numeral negative whole fraction⟩
  | truth value => exact ⟨_, readTerm_truth value⟩
  | name text => exact ⟨_, readTerm_name text⟩
  | function _ | operator _ | opening | closing | question | colon => cases h

/-- Tokens that a rule derives read as what the rule stands for. -/
theorem Derives.reads {rule : Rule} {ts : List Token} (h : Derives rule ts) : rule.Reads ts := by
  induction h with
  | chainOnly _ ih =>
    obtain ⟨us, vs, t, l, rfl, ht, hl⟩ := ih
    exact ⟨_, ht.chain hl⟩
  | choice _ _ _ ihCondition ihIfTrue ihOtherwise =>
    obtain ⟨us, vs, t, l, rfl, ht, hl⟩ := ihCondition
    obtain ⟨e, he⟩ := ihIfTrue
    obtain ⟨e', he'⟩ := ihOtherwise
    exact ⟨_, ht.choice hl he he'⟩
  | chain _ _ ihHead ihLinks =>
    obtain ⟨t, ht⟩ := ihHead
    obtain ⟨l, hl⟩ := ihLinks
    exact ⟨_, _, t, l, rfl, ht, hl⟩
  | noLinks => exact ⟨.done, readsLinks_nil⟩
  | link op _ _ ihTerm ihRest =>
    obtain ⟨t, ht⟩ := ihTerm
    obtain ⟨l, hl⟩ := ihRest
    exact ⟨_, ht.link hl op⟩
  | word h => exact exists_readsTerm_of_isWord h
  | rounded mode _ ih =>
    obtain ⟨e, he⟩ := ih
    exact ⟨_, he.rounded mode⟩
  | grouped _ ih =>
    obtain ⟨e, he⟩ := ih
    exact ⟨_, he.grouped⟩

/-- A word that is found as another token is still a word. -/
lemma isWord_resolved {t : Token} (h : t.isWord = true) : t.resolved.isWord = true := by
  cases t with
  | name text =>
    rw [Token.resolved]
    rcases ofWord_cases text with ⟨_, _, heq⟩ | ⟨_, heq⟩ <;> rw [heq] <;> rfl
  | numeral _ _ _ | truth _ => rfl
  | function _ | operator _ | opening | closing | question | colon => cases h

/-- Only a word is found as another token. -/
lemma resolved_eq_self {t : Token} (h : t.isWord = false) : t.resolved = t := by
  cases t with
  | name text => cases h
  | numeral _ _ _ | truth _ | function _ | operator _ | opening | closing | question | colon => rfl

/-- A formula is read as an expression. -/
lemma IsFormula.exists_read_eq {text : List Char} (h : IsFormula text) :
    ∃ e, read text = some e := by
  obtain ⟨ts, hspelled, hderives⟩ := h
  have htokens : tokens true text = some (ts.map Token.resolved) :=
    hspelled.tokens_eq hderives.alternates
  obtain ⟨e, he⟩ := (hderives.map (fun _ => isWord_resolved) fun _ => resolved_eq_self).reads
  exact ⟨e, he.read_eq htokens⟩

/-! ### What is read is derived -/

/-- Links go on behind links. -/
lemma Derives.links_append {ts us : List Token} (hts : Derives .links ts)
    (hus : Derives .links us) : Derives .links (ts ++ us) := by
  generalize hrule : Rule.links = rule at hts
  induction hts with
  | noLinks => exact hus
  | link op hterm _ _ ih =>
    rw [List.append_assoc]
    exact .link op hterm (ih hrule)
  | _ => cases hrule

/-- An operator joins two chains to one. -/
lemma Derives.chain_append {ts us : List Token} (hts : Derives .chain ts) (hus : Derives .chain us)
    (op : Operator) : Derives .chain (ts ++ .operator op :: us) := by
  cases hts with
  | chain hhead hlinks =>
    cases hus with
    | chain hhead' hlinks' =>
      rw [List.append_assoc]
      exact .chain hhead (hlinks.links_append (.link op hhead' hlinks'))

/-- An operand is a chain. -/
lemma Derives.chain_of_term {ts : List Token} (h : Derives .term ts) : Derives .chain ts := by
  have hchain := Derives.chain h .noLinks
  rw [List.append_nil] at hchain
  exact hchain

/-- The rule for the tokens at a level of precedence. -/
def Level.rule : Level → Rule
  | .expression => .expression
  | .disjunction | .conjunction | .sum | .product => .chain
  | .operand => .term

/-- Tokens that stand for a tree are derived. -/
theorem Groups.derives {level : Level} {ts : List Token} {tree : Tree} (h : Groups level ts tree) :
    Derives level.rule ts := by
  induction h with
  | number _ _ _ | truth _ | name _ => exact .word rfl
  | rounded mode _ ih => exact .rounded mode ih
  | grouped _ ih => exact .grouped ih
  | binary op _ _ ihLeft ihRight =>
    cases op with
    | or | and | add | subtract => exact ihLeft.chain_append ihRight _
    | multiply | divide => exact ihLeft.chain_append ihRight.chain_of_term _
  | choice _ _ _ ihCondition ihIfTrue ihOtherwise => exact .choice ihCondition ihIfTrue ihOtherwise
  | @loosen level _ _ _ ih =>
    cases level with
    | expression => exact .chainOnly ih
    | disjunction | conjunction | sum => exact ih
    | product => exact ih.chain_of_term
    | operand => exact ih

/-- The text of an expression spells tokens, each with a spelling of its own, that stand for the
tree of the expression. -/
theorem exists_groups_of_read {text : List Char} {e : Expression} (h : read text = some e) :
    ∃ ts, Spelled ts text ∧ (∀ t ∈ ts, t.Unambiguous) ∧ Groups .expression ts e.tree := by
  obtain ⟨ts, htokens, hread⟩ := exists_tokens_of_read h
  obtain ⟨hspelled, hunambiguous⟩ := spelled_of_tokens htokens
  obtain ⟨us, rfl, hgroups⟩ := e.groups hread
  rw [List.append_nil] at hspelled hunambiguous
  exact ⟨us, hspelled, hunambiguous, hgroups⟩

/-- A text is a formula if and only if it is read as an expression. -/
theorem isFormula_iff_exists_read {text : List Char} :
    IsFormula text ↔ ∃ e, read text = some e := by
  refine ⟨IsFormula.exists_read_eq, ?_⟩
  rintro ⟨e, hread⟩
  obtain ⟨ts, hspelled, _, hgroups⟩ := exists_groups_of_read hread
  exact ⟨ts, hspelled, hgroups.derives⟩

instance (text : List Char) : Decidable (IsFormula text) :=
  decidable_of_iff ((read text).isSome = true)
    (Option.isSome_iff_exists.trans isFormula_iff_exists_read.symm)

/-! ### Malformed texts -/

/-- A text is malformed if and only if it is no formula. -/
theorem evaluateText_eq_malformed_iff {K : Type} (scope : Scope K) (text : List Char) :
    evaluateText scope text = .error .malformed ↔ ¬ IsFormula text := by
  rw [isFormula_iff_exists_read, evaluateText]
  cases hread : read text with
  | none => simp
  | some e =>
    have hvalue : e.evaluate scope ≠ .error .malformed := by
      rw [e.evaluate_eq]
      exact (e.tree.gives_evaluate scope).ne_malformed
    simpa using hvalue

end PriorityFormula.Reader
