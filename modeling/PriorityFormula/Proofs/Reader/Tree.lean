import PriorityFormula.Proofs.Reader.Parsing
import PriorityFormula.Reader.Evaluate

/-!
# The tree of an expression

An expression as it is read is still flat: its chains mix operators of all levels. Its tree says how
the operators group their operands, by the same rule by which a chain is evaluated while it is read,
but without evaluating anything. Evaluating the tree by plain recursion, left before right, gives
what evaluating the expression gives, faults included.

How a chain groups can be read off the levels of its operators: where the operators on the left bind
at least as tightly as the one in the middle and those on the right more tightly, the one in the
middle joins the trees of both sides.
-/

namespace PriorityFormula.Reader

/-- A formula as its operators group it. -/
inductive Tree where
  | number (negative : Bool) (magnitude : Decimal)
  | truth (value : Bool)
  | name (text : List Char)
  | rounded (mode : Rounding) (inner : Tree)
  | binary (op : Operator) (left right : Tree)
  | choice (condition ifTrue otherwise : Tree)
  deriving DecidableEq

/-- The value of a tree. Both operands of an operator are evaluated, the left one first, before it
is applied; of a choice only the condition and the selected branch are. -/
def Tree.evaluate {K : Type} (scope : Scope K) : Tree → Except ReadFault (Value K)
  | .number negative magnitude => .ok (.number (scope.numeral negative magnitude))
  | .truth value => .ok (.truth value)
  | .name text =>
    match scope.lookup (String.ofList text) with
    | some value => .ok value
    | none => .error (.unbound (String.ofList text))
  | .rounded mode inner => do
    let value ← inner.evaluate scope
    return .number (scope.arithmetic.round mode (← value.toNumber))
  | .binary op left right => do
    let x ← left.evaluate scope
    let y ← right.evaluate scope
    Value.apply scope.arithmetic op x y
  | .choice condition ifTrue otherwise => do
    let value ← condition.evaluate scope
    if ← value.toTruth then ifTrue.evaluate scope else otherwise.evaluate scope

/-! ### Grouping a chain -/

/-- A chain that has been grouped up to some operand: the operators that still wait for the end of
their right operand, innermost first, each with its left operand, and the operand grouped last. -/
structure Grouping where
  pending : List (Tree × Operator)
  current : Tree

namespace Grouping

/-- Lets the pending operators take the current operand, down to the first one that binds more
loosely than `level`. -/
def settled (level : Nat) : List (Tree × Operator) → Tree → Grouping
  | [], current => ⟨[], current⟩
  | (left, op) :: pending, current =>
    if level ≤ bindingLevel op then settled level pending (.binary op left current)
    else ⟨(left, op) :: pending, current⟩

/-- Goes on with an operator and its right operand. -/
def extended (g : Grouping) (op : Operator) (operand : Tree) : Grouping :=
  let before := settled (bindingLevel op) g.pending g.current
  ⟨(before.current, op) :: before.pending, operand⟩

/-- The tree of a chain that ends here. -/
def tree (g : Grouping) : Tree :=
  (settled 0 g.pending g.current).current

end Grouping

mutual

/-- The tree of an operand. -/
def Term.tree : Term → Tree
  | .number negative magnitude => .number negative magnitude
  | .truth value => .truth value
  | .name text => .name text
  | .rounded mode inner => .rounded mode inner.tree
  | .grouped inner => inner.tree

/-- The grouping of a chain behind its links. -/
def Links.grouping : Links → Grouping → Grouping
  | .done, g => g
  | .link op term rest, g => rest.grouping (g.extended op term.tree)

/-- The tree of an expression. -/
def Expression.tree : Expression → Tree
  | .chain head links => (links.grouping ⟨[], head.tree⟩).tree
  | .choice head links ifTrue otherwise =>
    .choice (links.grouping ⟨[], head.tree⟩).tree ifTrue.tree otherwise.tree

end

/-! ### Evaluating an expression is evaluating its tree -/

section Evaluate

variable {K : Type} (scope : Scope K)

/-- The values of pending operands, from the outermost and thus leftmost one on. -/
def evaluatePending : List (Tree × Operator) → Except ReadFault (List (Value K × Operator))
  | [] => .ok []
  | (left, op) :: pending => do
    let values ← evaluatePending pending
    let value ← left.evaluate scope
    return (value, op) :: values

/-- The values of all operands of a grouping, from left to right. -/
def Grouping.evaluate (g : Grouping) :
    Except ReadFault (List (Value K × Operator) × Value K) := do
  let values ← evaluatePending scope g.pending
  let value ← g.current.evaluate scope
  return (values, value)

/-- Settling pending values is the same before and after evaluation. -/
lemma evaluate_bind_settle (level : Nat) (pending : List (Tree × Operator)) (current : Tree) :
    ((Grouping.mk pending current).evaluate scope >>= fun values =>
      settle (Value.apply scope.arithmetic) level values.1 values.2) =
        (Grouping.settled level pending current).evaluate scope := by
  induction pending generalizing current with
  | nil =>
    simp only [Grouping.settled, Grouping.evaluate, evaluatePending]
    cases current.evaluate scope <;> rfl
  | cons entry pending ih =>
    obtain ⟨left, op⟩ := entry
    rw [Grouping.settled]
    split
    · next hlevel =>
      rw [← ih]
      simp only [Grouping.evaluate, evaluatePending, Tree.evaluate]
      cases evaluatePending scope pending with
      | error fault => rfl
      | ok values =>
        cases left.evaluate scope with
        | error fault => rfl
        | ok x =>
          cases current.evaluate scope with
          | error fault => rfl
          | ok y =>
            show settle _ level ((x, op) :: values) y = _
            rw [settle, if_pos hlevel]
            show _ = Value.apply scope.arithmetic op x y >>= (fun value => pure (values, value)) >>=
              fun values => settle (Value.apply scope.arithmetic) level values.1 values.2
            cases Value.apply scope.arithmetic op x y <;> rfl
    · next hlevel =>
      simp only [Grouping.evaluate, evaluatePending]
      cases evaluatePending scope pending with
      | error fault => rfl
      | ok values =>
        cases left.evaluate scope with
        | error fault => rfl
        | ok x =>
          cases current.evaluate scope with
          | error fault => rfl
          | ok y =>
            show settle _ level ((x, op) :: values) y = _
            rw [settle, if_neg hlevel]
            rfl

/-- Nothing is left pending at the lowest level. -/
lemma pending_settled_zero (pending : List (Tree × Operator)) (current : Tree) :
    (Grouping.settled 0 pending current).pending = [] := by
  induction pending generalizing current with
  | nil => rfl
  | cons entry pending ih =>
    rw [Grouping.settled, if_pos (Nat.zero_le _)]
    exact ih _

/-- Settling all values gives the value of the tree. -/
lemma evaluate_bind_settle_zero (g : Grouping) :
    (g.evaluate scope >>= fun values =>
      settle (Value.apply scope.arithmetic) 0 values.1 values.2 >>= fun result =>
        pure result.2) = g.tree.evaluate scope := by
  rw [← bind_assoc, evaluate_bind_settle scope 0 g.pending g.current, Grouping.evaluate,
    pending_settled_zero, evaluatePending, Grouping.tree]
  cases (Grouping.settled 0 g.pending g.current).current.evaluate scope <;> rfl

mutual

/-- Evaluating an operand is evaluating its tree. -/
lemma Term.evaluate_eq : ∀ t : Term, t.evaluate scope = t.tree.evaluate scope
  | .number _ _ => rfl
  | .truth _ => rfl
  | .name text => by
    cases hvalue : scope.lookup (String.ofList text) <;>
      simp only [Term.evaluate, Term.tree, Tree.evaluate, hvalue]
  | .rounded mode inner => by
    rw [Term.evaluate, Term.tree, Tree.evaluate, inner.evaluate_eq]
  | .grouped inner => by rw [Term.evaluate, Term.tree, inner.evaluate_eq]

/-- Evaluating links behind the values of a grouping is evaluating the tree of the whole chain. -/
lemma Links.evaluate_eq : ∀ (l : Links) (g : Grouping),
    (g.evaluate scope >>= fun values => l.evaluate scope values.1 values.2) =
      (l.grouping g).tree.evaluate scope
  | .done, g => by
    rw [Links.grouping, ← evaluate_bind_settle_zero]
    simp only [Links.evaluate]
  | .link op term rest, g => by
    have hsettle := evaluate_bind_settle scope (bindingLevel op) g.pending g.current
    have hstep : (g.evaluate scope >>= fun values => (Links.link op term rest).evaluate scope
        values.1 values.2) =
        ((g.evaluate scope >>= fun values =>
          settle (Value.apply scope.arithmetic) (bindingLevel op) values.1 values.2) >>=
            fun settled => term.evaluate scope >>= fun operand =>
              rest.evaluate scope ((settled.2, op) :: settled.1) operand) := by
      simp only [Links.evaluate, bind_assoc]
    rw [Links.grouping, ← rest.evaluate_eq, hstep, hsettle, term.evaluate_eq]
    simp only [Grouping.evaluate, Grouping.extended, evaluatePending, bind_assoc, pure_bind]

/-- Evaluating an expression is evaluating its tree. -/
lemma Expression.evaluate_eq : ∀ e : Expression, e.evaluate scope = e.tree.evaluate scope
  | .chain head links => by
    rw [Expression.evaluate, Expression.tree, ← links.evaluate_eq, head.evaluate_eq]
    simp only [Grouping.evaluate, evaluatePending]
    cases head.tree.evaluate scope <;> rfl
  | .choice head links ifTrue otherwise => by
    rw [Expression.evaluate, Expression.tree, Tree.evaluate, ← links.evaluate_eq,
      head.evaluate_eq, ifTrue.evaluate_eq, otherwise.evaluate_eq]
    simp only [Grouping.evaluate, evaluatePending]
    cases head.tree.evaluate scope <;> rfl

end

/-- A text has the value of the tree that it is read as. -/
lemma evaluateText_eq {text : List Char} {tree : Tree} (h : ∃ e, read text = some e ∧ e.tree = tree) :
    evaluateText scope text = tree.evaluate scope := by
  obtain ⟨e, hread, rfl⟩ := h
  rw [evaluateText, hread]
  exact e.evaluate_eq scope

end Evaluate

/-! ### How a chain groups -/

/-- All operators of links bind at least as tightly as a level. -/
def Links.BindsAtLeast (level : Nat) : Links → Prop
  | .done => True
  | .link op _ rest => level ≤ bindingLevel op ∧ rest.BindsAtLeast level

/-- All pending operators bind at least as tightly as a level. -/
def PendingAtLeast (level : Nat) (pending : List (Tree × Operator)) : Prop :=
  ∀ entry ∈ pending, level ≤ bindingLevel entry.2

/-- The innermost pending operator, if there is one, binds more loosely than a level. -/
def LooserThan (level : Nat) (pending : List (Tree × Operator)) : Prop :=
  ∀ entry ∈ pending.head?, bindingLevel entry.2 < level

/-- Links bind at least as tightly as any lower level. -/
lemma Links.BindsAtLeast.mono {level level' : Nat} (hle : level' ≤ level) :
    ∀ {l : Links}, l.BindsAtLeast level → l.BindsAtLeast level'
  | .done, _ => trivial
  | .link _ _ _, ⟨hop, hrest⟩ => ⟨Nat.le_trans hle hop, hrest.mono hle⟩

/-- Joined links bind at least as tightly as a level if both parts do. -/
lemma Links.BindsAtLeast.append {level : Nat} :
    ∀ {l m : Links}, l.BindsAtLeast level → m.BindsAtLeast level →
      (l.append m).BindsAtLeast level
  | .done, _, _, hm => hm
  | .link _ _ _, _, ⟨hop, hrest⟩, hm => ⟨hop, hrest.append hm⟩

/-- The grouping behind joined links goes through both parts. -/
lemma Links.grouping_append :
    ∀ (l m : Links) (g : Grouping), (l.append m).grouping g = m.grouping (l.grouping g)
  | .done, m, g => by rw [Links.append, Links.grouping]
  | .link op term rest, m, g => by
    rw [Links.append, Links.grouping, Links.grouping, rest.grouping_append m]

namespace Grouping

/-- A grouping with further operators pending outside. -/
def within (g : Grouping) (outer : List (Tree × Operator)) : Grouping :=
  ⟨g.pending ++ outer, g.current⟩

/-- Settling does not reach operators that bind more loosely. -/
lemma settled_within {level : Nat} {outer : List (Tree × Operator)}
    (houter : LooserThan level outer) (pending : List (Tree × Operator)) (current : Tree) :
    settled level (pending ++ outer) current = (settled level pending current).within outer := by
  induction pending generalizing current with
  | nil =>
    cases outer with
    | nil => rfl
    | cons entry outer =>
      obtain ⟨left, op⟩ := entry
      have hlooser : ¬ level ≤ bindingLevel op := Nat.not_le_of_lt (houter (left, op) rfl)
      rw [List.nil_append, settled, settled, if_neg hlooser]
      rfl
  | cons entry pending ih =>
    obtain ⟨left, op⟩ := entry
    rw [List.cons_append, settled, settled]
    split
    · exact ih _
    · rfl

/-- Settling leaves pending operators only where there were some. -/
lemma pendingAtLeast_settled {level level' : Nat} {pending : List (Tree × Operator)}
    (h : PendingAtLeast level pending) (current : Tree) :
    PendingAtLeast level (settled level' pending current).pending := by
  induction pending generalizing current with
  | nil => exact h
  | cons entry pending ih =>
    obtain ⟨left, op⟩ := entry
    rw [settled]
    split
    · exact ih (fun entry hentry => h entry (List.mem_cons_of_mem _ hentry)) _
    · exact h

/-- Where all pending operators bind at least as tightly as a level, settling down to that level
settles them all. -/
lemma settled_eq_of_atLeast {level : Nat} {pending : List (Tree × Operator)}
    (h : PendingAtLeast level pending) (current : Tree) :
    settled level pending current = ⟨[], tree ⟨pending, current⟩⟩ := by
  induction pending generalizing current with
  | nil => rfl
  | cons entry pending ih =>
    obtain ⟨left, op⟩ := entry
    have hop : level ≤ bindingLevel op := h _ (List.mem_cons_self ..)
    rw [settled, if_pos hop, ih fun entry hentry => h entry (List.mem_cons_of_mem _ hentry)]
    simp only [tree, settled, if_pos (Nat.zero_le _)]

/-- An operator that is pending outside joins its left operand with the tree of all within. -/
lemma tree_within (g : Grouping) (left : Tree) (op : Operator) :
    (g.within [(left, op)]).tree = .binary op left g.tree := by
  have hall : ∀ (pending : List (Tree × Operator)) (current : Tree),
      (settled 0 (pending ++ [(left, op)]) current).current =
        .binary op left (settled 0 pending current).current := by
    intro pending
    induction pending with
    | nil => intro current; rfl
    | cons entry pending ih =>
      intro current
      simp only [List.cons_append, settled, if_pos (Nat.zero_le _)]
      exact ih _
  exact hall g.pending g.current

end Grouping

/-- Links that bind tightly do not reach operators that are pending outside and bind more
loosely. -/
lemma Links.grouping_within {level : Nat} {outer : List (Tree × Operator)}
    (houter : LooserThan level outer) :
    ∀ {l : Links}, l.BindsAtLeast level → ∀ g : Grouping,
      l.grouping (g.within outer) = (l.grouping g).within outer
  | .done, _, g => by rw [Links.grouping, Links.grouping]
  | .link op term rest, ⟨hop, hrest⟩, g => by
    have hstep : (g.within outer).extended op term.tree =
        (g.extended op term.tree).within outer := by
      have hlooser : LooserThan (bindingLevel op) outer := fun entry hentry =>
        Nat.lt_of_lt_of_le (houter entry hentry) hop
      simp only [Grouping.extended, Grouping.within, Grouping.settled_within hlooser,
        List.cons_append]
    rw [Links.grouping, Links.grouping, hstep, grouping_within houter hrest]

/-- Behind links that bind tightly all pending operators do. -/
lemma Links.pendingAtLeast_grouping {level : Nat} :
    ∀ {l : Links}, l.BindsAtLeast level → ∀ {g : Grouping}, PendingAtLeast level g.pending →
      PendingAtLeast level (l.grouping g).pending
  | .done, _, g, hg => by
    rw [Links.grouping]
    exact hg
  | .link op term rest, ⟨hop, hrest⟩, g, hg => by
    rw [Links.grouping]
    refine pendingAtLeast_grouping hrest ?_
    intro entry hentry
    rcases List.mem_cons.mp hentry with rfl | hmem
    · exact hop
    · exact Grouping.pendingAtLeast_settled hg _ entry hmem

/-- An operator joins the trees on both sides of it if those on its left bind at least as tightly
and those on its right more tightly. -/
theorem tree_append_link {op : Operator} {l m : Links} (hl : l.BindsAtLeast (bindingLevel op))
    (hm : m.BindsAtLeast (bindingLevel op + 1)) (head term : Term) :
    (Expression.chain head (l.append (.link op term m))).tree =
      .binary op (Expression.chain head l).tree (Expression.chain term m).tree := by
  simp only [Expression.tree]
  generalize hbefore : l.grouping ⟨[], head.tree⟩ = before
  have hpending : PendingAtLeast (bindingLevel op) before.pending := by
    rw [← hbefore]
    exact Links.pendingAtLeast_grouping hl fun entry hentry => nomatch hentry
  have hextended : before.extended op term.tree =
      (Grouping.mk [] term.tree).within [(before.tree, op)] := by
    rw [Grouping.extended, Grouping.settled_eq_of_atLeast hpending]
    rfl
  have hlooser : LooserThan (bindingLevel op + 1) [(before.tree, op)] := by
    intro entry hentry
    cases hentry
    exact Nat.lt_succ_self _
  rw [Links.grouping_append, Links.grouping, hbefore, hextended,
    Links.grouping_within hlooser hm, Grouping.tree_within]

/-! ### Tokens that read as a chain -/

/-- Tokens read as a chain with a tree if its operators bind at least as tightly as a level. -/
def ReadsChain (level : Nat) (ts : List Token) (tree : Tree) : Prop :=
  ∃ us vs head links, ts = us ++ vs ∧ ReadsTerm us head ∧ ReadsLinks vs links ∧
    links.BindsAtLeast level ∧ (Expression.chain head links).tree = tree

/-- An operand reads as a chain at every level. -/
lemma ReadsTerm.readsChain {ts : List Token} {t : Term} (h : ReadsTerm ts t) (level : Nat) :
    ReadsChain level ts t.tree := by
  refine ⟨ts, [], t, .done, (List.append_nil ts).symm, h, readsLinks_nil, trivial, ?_⟩
  rw [Expression.tree, Links.grouping]
  rfl

namespace ReadsChain

variable {level : Nat} {ts us vs : List Token} {tree left right : Tree}

/-- A chain at a level is a chain at every lower level. -/
lemma mono (h : ReadsChain level ts tree) {level' : Nat} (hle : level' ≤ level) :
    ReadsChain level' ts tree := by
  obtain ⟨us, vs, head, links, hts, hhead, hlinks, hlevel, htree⟩ := h
  exact ⟨us, vs, head, links, hts, hhead, hlinks, hlevel.mono hle, htree⟩

/-- A chain reads as a whole expression. -/
lemma exists_readsExpression (h : ReadsChain level ts tree) :
    ∃ e, ReadsExpression ts e ∧ e.tree = tree := by
  obtain ⟨us, vs, head, links, rfl, hhead, hlinks, _, htree⟩ := h
  exact ⟨_, hhead.chain hlinks, htree⟩

/-- An operator joins a chain at its own level and one at a higher level. -/
lemma binary {op : Operator} (hleft : ReadsChain (bindingLevel op) ts left)
    (hright : ReadsChain (bindingLevel op + 1) us right) :
    ReadsChain (bindingLevel op) (ts ++ .operator op :: us) (.binary op left right) := by
  obtain ⟨ts₁, ts₂, head, links, rfl, hhead, hlinks, hlevel, rfl⟩ := hleft
  obtain ⟨us₁, us₂, head', links', rfl, hhead', hlinks', hlevel', rfl⟩ := hright
  refine ⟨ts₁, ts₂ ++ (.operator op :: us₁ ++ us₂), head, links.append (.link op head' links'),
    List.append_assoc .., hhead, hlinks.append (hhead'.link hlinks' op), ?_, ?_⟩
  · exact hlevel.append ⟨Nat.le_refl _, hlevel'.mono (Nat.le_succ _)⟩
  · exact tree_append_link hlevel hlevel' head head'

/-- A chain and two expressions with the marks of a choice between them read as a choice. -/
lemma exists_choice {condition : Tree} {e e' : Expression} (hchain : ReadsChain level ts condition)
    (he : ReadsExpression us e) (he' : ReadsExpression vs e') :
    ∃ choice, ReadsExpression (ts ++ .question :: (us ++ .colon :: vs)) choice ∧
      choice.tree = .choice condition e.tree e'.tree := by
  obtain ⟨ts₁, ts₂, head, links, rfl, hhead, hlinks, _, rfl⟩ := hchain
  refine ⟨_, hhead.choice hlinks he he', ?_⟩
  rw [Expression.tree, Expression.tree]

end ReadsChain

end PriorityFormula.Reader
