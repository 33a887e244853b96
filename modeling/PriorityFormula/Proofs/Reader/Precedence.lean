import PriorityFormula.Proofs.Reader.Grammar
import PriorityFormula.Proofs.Reader.Tree

/-!
# The usual precedence

`Groups` is the grammar of formulas once more, now split into the levels of the usual precedence and
with the tree that each list of tokens stands for:

    expression  = disjunction [ "?" expression ":" expression ]
    disjunction = [ disjunction "||" ] conjunction
    conjunction = [ conjunction "&&" ] sum
    sum         = [ sum ("+" | "-") ] product
    product     = [ product ("*" | "/") ] operand

The left operand of an operator is at the operator's own level, which makes operators of one level
group to the left, and the right operand is at the next tighter level. The last branch of a choice
may be a choice.

Reading tokens as an expression gives an expression whose tree they stand for, and tokens that stand
for a tree read as an expression with that tree. The first half follows the chain while it is
grouped: the tokens read so far are those of the pending left operands, each with its operator, and
those of the current operand.
-/

namespace PriorityFormula.Reader

/-- The levels of precedence, from the loosest to the tightest. -/
inductive Level where
  | expression
  | disjunction
  | conjunction
  | sum
  | product
  | operand

/-- The next tighter level; none is tighter than that of operands. -/
def Level.tighter : Level → Level
  | .expression => .disjunction
  | .disjunction => .conjunction
  | .conjunction => .sum
  | .sum => .product
  | .product => .operand
  | .operand => .operand

/-- The level at which an operator joins its operands. -/
def levelOf : Operator → Level
  | .or => .disjunction
  | .and => .conjunction
  | .add | .subtract => .sum
  | .multiply | .divide => .product

/-- Tokens stand for a tree at a level. -/
inductive Groups : Level → List Token → Tree → Prop
  | number (negative : Bool) (whole fraction : List Char) :
      Groups .operand [.numeral negative whole fraction]
        (.number negative (.ofNumeral whole fraction))
  | truth (value : Bool) : Groups .operand [.truth value] (.truth value)
  | name (text : List Char) : Groups .operand [.name text] (.name text)
  | rounded (mode : Rounding) {ts : List Token} {inner : Tree} (group : Groups .expression ts inner) :
      Groups .operand (.function mode :: .opening :: ts ++ [.closing]) (.rounded mode inner)
  | grouped {ts : List Token} {inner : Tree} (group : Groups .expression ts inner) :
      Groups .operand (.opening :: ts ++ [.closing]) inner
  | binary (op : Operator) {ts us : List Token} {left right : Tree}
      (leftGroup : Groups (levelOf op) ts left) (rightGroup : Groups (levelOf op).tighter us right) :
      Groups (levelOf op) (ts ++ .operator op :: us) (.binary op left right)
  | choice {ts us vs : List Token} {condition ifTrue otherwise : Tree}
      (conditionGroup : Groups .disjunction ts condition)
      (ifTrueGroup : Groups .expression us ifTrue)
      (otherwiseGroup : Groups .expression vs otherwise) :
      Groups .expression (ts ++ .question :: (us ++ .colon :: vs))
        (.choice condition ifTrue otherwise)
  | loosen {level : Level} {ts : List Token} {tree : Tree} (group : Groups level.tighter ts tree) :
      Groups level ts tree

/-! ### Levels by number -/

/-- How many levels are looser. -/
def Level.rank : Level → Nat
  | .expression => 0
  | .disjunction => 1
  | .conjunction => 2
  | .sum => 3
  | .product => 4
  | .operand => 5

/-- Operators bind as tightly as the usual precedence has it. -/
lemma bindingLevel_eq_rank (op : Operator) : bindingLevel op = (levelOf op).rank := by
  cases op <;> rfl

/-- The operands on the right of an operator are at the level behind that of the operator. -/
lemma rank_tighter_levelOf (op : Operator) :
    (levelOf op).tighter.rank = bindingLevel op + 1 := by
  cases op <;> rfl

/-- Every operator binds more tightly than the marks of a choice and less tightly than the inside
of an operand. -/
lemma bindingLevel_bounds (op : Operator) : 1 ≤ bindingLevel op ∧ bindingLevel op < 5 := by
  cases op <;> decide

/-- Levels with the same number are the same. -/
lemma Level.rank_injective {level level' : Level} (h : level.rank = level'.rank) :
    level = level' := by
  cases level <;> cases level' <;> first | rfl | cases h

/-- The next tighter level has the next number. -/
lemma Level.rank_tighter {level : Level} (h : level.rank < 5) :
    level.tighter.rank = level.rank + 1 := by
  cases level with
  | operand => exact absurd h (Nat.lt_irrefl 5)
  | expression | disjunction | conjunction | sum | product => rfl

/-- Nothing is tighter than an operand. -/
lemma Level.rank_le (level : Level) : level.rank ≤ 5 := by
  cases level <;> decide

/-- What stands for a tree at a level does so at every looser level. -/
lemma Groups.mono {level looser : Level} {ts : List Token} {tree : Tree} (h : Groups level ts tree)
    (hle : looser.rank ≤ level.rank) : Groups looser ts tree := by
  obtain ⟨n, hn⟩ := Nat.exists_eq_add_of_le hle
  induction n generalizing looser with
  | zero =>
    rw [← Level.rank_injective hn]
    exact h
  | succ n ih =>
    have hbound := level.rank_le
    have hnext : looser.tighter.rank = looser.rank + 1 := Level.rank_tighter (by omega)
    exact .loosen (ih (by omega) (by omega))

/-! ### Tokens that stand for a tree read as it -/

/-- Tokens read as a tree at a level: as an expression or, at a tighter level, as a chain. -/
def Level.Reads : Level → List Token → Tree → Prop
  | .expression, ts, tree => ∃ e, ReadsExpression ts e ∧ e.tree = tree
  | level, ts, tree => ReadsChain level.rank ts tree

/-- What reads as a tree at the next tighter level reads as it at a level. -/
lemma Level.Reads.loosen {level : Level} {ts : List Token} {tree : Tree}
    (h : level.tighter.Reads ts tree) : level.Reads ts tree := by
  cases level with
  | expression => exact ReadsChain.exists_readsExpression h
  | disjunction | conjunction | sum | product => exact ReadsChain.mono h (by decide)
  | operand => exact h

/-- Tokens that stand for a tree read as that tree. -/
theorem Groups.reads {level : Level} {ts : List Token} {tree : Tree} (h : Groups level ts tree) :
    level.Reads ts tree := by
  induction h with
  | number negative whole fraction =>
    have hreads : ReadsTerm [.numeral negative whole fraction]
        (.number negative (.ofNumeral whole fraction)) :=
      readTerm_numeral negative whole fraction
    exact hreads.readsChain 5
  | truth value =>
    have hreads : ReadsTerm [.truth value] (.truth value) := readTerm_truth value
    exact hreads.readsChain 5
  | name text =>
    have hreads : ReadsTerm [.name text] (.name text) := readTerm_name text
    exact hreads.readsChain 5
  | rounded mode _ ih =>
    obtain ⟨e, he, rfl⟩ := ih
    exact (he.rounded mode).readsChain 5
  | grouped _ ih =>
    obtain ⟨e, he, rfl⟩ := ih
    exact he.grouped.readsChain 5
  | binary op _ _ ihLeft ihRight => cases op <;> exact ReadsChain.binary ihLeft ihRight
  | choice _ _ _ ihCondition ihIfTrue ihOtherwise =>
    obtain ⟨e, he, rfl⟩ := ihIfTrue
    obtain ⟨e', he', rfl⟩ := ihOtherwise
    exact ReadsChain.exists_choice ihCondition he he'
  | loosen _ ih => exact ih.loosen

/-! ### What is read stands for its tree -/

/-- Tokens stand for pending left operands, innermost first, each with its operator behind it. Each
operator binds more tightly than the one that is pending outside of it. -/
def GroupsPending : List (Tree × Operator) → List Token → Prop
  | [], ts => ts = []
  | (left, op) :: pending, ts =>
    ∃ us vs, ts = us ++ (vs ++ [.operator op]) ∧ GroupsPending pending us ∧
      Groups (levelOf op) vs left ∧ LooserThan (bindingLevel op) pending

/-- Tokens stand for a grouping whose current operand is at a level. -/
def Grouping.Covers (g : Grouping) (level : Level) (ts : List Token) : Prop :=
  ∃ us vs, ts = us ++ vs ∧ GroupsPending g.pending us ∧ Groups level vs g.current ∧
    LooserThan level.rank g.pending

/-- Settling down to a level makes the current operand one at that level. -/
lemma Grouping.Covers.settled {level target : Level} {pending : List (Tree × Operator)}
    {current : Tree} {ts : List Token} (h : (Grouping.mk pending current).Covers level ts)
    (hle : target.rank ≤ level.rank) :
    (Grouping.settled target.rank pending current).Covers target ts := by
  induction pending generalizing level current with
  | nil =>
    obtain ⟨us, vs, hts, hpending, hcurrent, _⟩ := h
    exact ⟨us, vs, hts, hpending, hcurrent.mono hle, fun entry hentry => nomatch hentry⟩
  | cons entry pending ih =>
    obtain ⟨left, op⟩ := entry
    obtain ⟨_, vs, rfl, ⟨us, ws, rfl, hpending, hleft, houter⟩, hcurrent, hlooser⟩ := h
    have hop : bindingLevel op < level.rank := hlooser (left, op) rfl
    rw [Grouping.settled]
    split
    · next htarget =>
      -- The operator takes the current operand, which leaves an operand at the operator's own level
      -- in front of operators that bind more loosely still.
      have hright : Groups (levelOf op).tighter vs current :=
        hcurrent.mono (by rw [rank_tighter_levelOf]; exact hop)
      rw [bindingLevel_eq_rank] at htarget houter
      refine ih ⟨us, ws ++ .operator op :: vs, ?_, hpending, .binary op hleft hright, houter⟩ htarget
      simp only [List.append_assoc, List.cons_append, List.nil_append]
    · next htarget =>
      exact ⟨_, vs, rfl, ⟨us, ws, rfl, hpending, hleft, houter⟩, hcurrent.mono hle,
        fun entry hentry => by cases hentry; exact Nat.lt_of_not_le htarget⟩

/-- An operand is a grouping with nothing pending. -/
lemma Groups.covers {ts : List Token} {tree : Tree} (h : Groups .operand ts tree) :
    (Grouping.mk [] tree).Covers .operand ts :=
  ⟨[], ts, rfl, rfl, h, fun _ hentry => nomatch hentry⟩

/-- A grouping goes on with an operator and the operand behind it. -/
lemma Grouping.Covers.extended {g : Grouping} {ts us : List Token} {operand : Tree}
    (h : g.Covers .operand ts) (op : Operator) (hoperand : Groups .operand us operand) :
    (g.extended op operand).Covers .operand (ts ++ .operator op :: us) := by
  have hsettled : (Grouping.settled (levelOf op).rank g.pending g.current).Covers (levelOf op) ts :=
    h.settled (levelOf op).rank_le
  rw [← bindingLevel_eq_rank] at hsettled
  obtain ⟨before, vs, rfl, hpending, hcurrent, hlooser⟩ := hsettled
  rw [← bindingLevel_eq_rank] at hlooser
  refine ⟨before ++ (vs ++ [.operator op]), us, by simp, ⟨before, vs, rfl, hpending, hcurrent,
    hlooser⟩, hoperand, ?_⟩
  intro entry hentry
  cases hentry
  exact (bindingLevel_bounds op).2

/-- Where a chain ends, its tokens stand for its tree. -/
lemma Grouping.Covers.tree {g : Grouping} {ts : List Token} (h : g.Covers .operand ts) :
    Groups .disjunction ts g.tree := by
  have hsettled : (Grouping.settled Level.disjunction.rank g.pending g.current).Covers
      .disjunction ts := h.settled (Level.rank_le _)
  have hall : PendingAtLeast 1 g.pending := fun entry _ => (bindingLevel_bounds entry.2).1
  have htree : Grouping.settled 1 g.pending g.current = ⟨[], g.tree⟩ :=
    Grouping.settled_eq_of_atLeast hall g.current
  rw [Level.rank, htree] at hsettled
  obtain ⟨us, vs, rfl, rfl, htree, _⟩ := hsettled
  exact htree

mutual

/-- The tokens that an operand is read off stand for its tree. -/
lemma Term.groups : ∀ (t : Term) {ts rest : List Token}, readTerm ts = some (t, rest) →
    ∃ us, ts = us ++ rest ∧ Groups .operand us t.tree
  | .number negative magnitude, ts, rest, h => by
    cases termAtFront_of_readTerm h with
    | numeral negative whole fraction => exact ⟨[_], rfl, .number negative whole fraction⟩
  | .truth value, ts, rest, h => by
    cases termAtFront_of_readTerm h with
    | truth => exact ⟨[_], rfl, .truth value⟩
  | .name text, ts, rest, h => by
    cases termAtFront_of_readTerm h with
    | name => exact ⟨[_], rfl, .name text⟩
  | .rounded mode inner, ts, rest, h => by
    cases termAtFront_of_readTerm h with
    | rounded _ hinner =>
      obtain ⟨us, rfl, hus⟩ := inner.groups hinner
      exact ⟨.function mode :: .opening :: us ++ [.closing], by simp, .rounded mode hus⟩
  | .grouped inner, ts, rest, h => by
    cases termAtFront_of_readTerm h with
    | grouped hinner =>
      obtain ⟨us, rfl, hus⟩ := inner.groups hinner
      exact ⟨.opening :: us ++ [.closing], by simp, .grouped hus⟩

/-- The tokens that links are read off continue those of the grouping in front of them. -/
lemma Links.groups : ∀ (l : Links) {ts rest : List Token}, readLinks ts = some (l, rest) →
    ∀ {g : Grouping} {before : List Token}, g.Covers .operand before →
      ∃ us, ts = us ++ rest ∧ (l.grouping g).Covers .operand (before ++ us)
  | .done, ts, rest, h, g, before, hg => by
    rcases readLinks_cases h with ⟨_, rfl⟩ | ⟨_, _, _, _, _, hlink, _⟩
    · refine ⟨[], rfl, ?_⟩
      rw [Links.grouping, List.append_nil]
      exact hg
    · cases hlink
  | .link op t further, ts, rest, h, g, before, hg => by
    rcases readLinks_cases h with ⟨hdone, _⟩ | ⟨_, _, _, us, vs, hlink, rfl, hterm, hfurther⟩
    · cases hdone
    · cases hlink
      obtain ⟨ws, rfl, hws⟩ := t.groups hterm
      obtain ⟨xs, rfl, hxs⟩ := further.groups hfurther (hg.extended op hws)
      refine ⟨.operator op :: ws ++ xs, by simp, ?_⟩
      rw [Links.grouping]
      simpa using hxs

/-- The tokens that an expression is read off stand for its tree. -/
lemma Expression.groups : ∀ (e : Expression) {ts rest : List Token},
    readExpression ts = some (e, rest) → ∃ us, ts = us ++ rest ∧ Groups .expression us e.tree
  | .chain head links, ts, rest, h => by
    obtain ⟨_, _, us, vs, hhead, hlinks, ⟨heq, rfl⟩ | ⟨_, _, _, _, heq, _⟩⟩ :=
      readExpression_cases h
    · cases heq
      obtain ⟨ws, rfl, hws⟩ := head.groups hhead
      obtain ⟨xs, rfl, hxs⟩ := links.groups hlinks hws.covers
      exact ⟨ws ++ xs, (List.append_assoc ..).symm, .loosen hxs.tree⟩
    · cases heq
  | .choice head links ifTrue otherwise, ts, rest, h => by
    obtain ⟨_, _, us, vs, hhead, hlinks, ⟨heq, _⟩ | ⟨_, _, _, _, heq, rfl, hifTrue, hotherwise⟩⟩ :=
      readExpression_cases h
    · cases heq
    · cases heq
      obtain ⟨ws, rfl, hws⟩ := head.groups hhead
      obtain ⟨xs, rfl, hxs⟩ := links.groups hlinks hws.covers
      obtain ⟨ys, rfl, hys⟩ := ifTrue.groups hifTrue
      obtain ⟨zs, rfl, hzs⟩ := otherwise.groups hotherwise
      exact ⟨ws ++ xs ++ .question :: (ys ++ .colon :: zs), by simp, .choice hxs.tree hys hzs⟩

end

end PriorityFormula.Reader
