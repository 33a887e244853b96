import Mathlib.Tactic.Lemma
import PriorityFormula.Reader.Expression

/-!
# Reading tokens as expressions

What the readers of terms, links and expressions do is said here without the bookkeeping that makes
them end: `readTerm`, `readLinks` and `readExpression` give what was read and what is left. From
their equations follows how readings are put together. A list of tokens reads as a term in front of
any tokens, as links in front of further links, and as an expression in front of tokens that do not
continue one.
-/

namespace PriorityFormula.Reader

/-- An operand at the front of a list of tokens, and what is left behind it. -/
def readTerm (ts : List Token) : Option (Term × List Token) :=
  (term ts).map fun cut => (cut.piece, cut.rest)

/-- The links at the front of a list of tokens, and what is left behind them. -/
def readLinks (ts : List Token) : Option (Links × List Token) :=
  (links ts).map fun linked => (linked.links, linked.rest)

/-- An expression at the front of a list of tokens, and what is left behind it. -/
def readExpression (ts : List Token) : Option (Expression × List Token) :=
  (expression ts).map fun cut => (cut.piece, cut.rest)

/-- What is left behind a token that a list has to begin with. -/
def behind (token : Token) (ts : List Token) : Option (List Token) :=
  (dropToken token ts).map fun cut => cut.rest

/-! ### The equations of the readers -/

/-- A token that stands in front is dropped. -/
lemma behind_cons (token : Token) (ts : List Token) : behind token (token :: ts) = some ts := by
  rw [behind, dropToken, if_pos rfl]
  rfl

/-- A token that does not stand in front is not dropped. -/
lemma behind_eq_none {token : Token} {ts : List Token} (h : ts.head? ≠ some token) :
    behind token ts = none := by
  cases ts with
  | nil => rfl
  | cons t ts =>
    have hne : t ≠ token := fun heq => h (by rw [heq]; rfl)
    rw [behind, dropToken, if_neg hne]
    rfl

/-- An expression and a closing parenthesis at the front of a list of tokens. -/
def readEnclosed (ts : List Token) : Option (Expression × List Token) :=
  (readExpression ts).bind fun inner =>
    (behind .closing inner.2).map fun rest => (inner.1, rest)

/-- The reader of enclosed expressions reads an expression and a closing parenthesis. -/
lemma map_enclosed (ts : List Token) :
    (enclosed ts).map (fun cut => (cut.piece, cut.rest)) = readEnclosed ts := by
  rw [enclosed, readEnclosed, readExpression]
  cases expression ts with
  | none => rfl
  | some inner =>
    simp only [Option.map_some, Option.bind_some, behind]
    cases dropToken .closing inner.rest <;> rfl

/-- A numeral is an operand. -/
lemma readTerm_numeral (negative : Bool) (whole fraction : List Char) (ts : List Token) :
    readTerm (.numeral negative whole fraction :: ts) =
      some (.number negative (.ofNumeral whole fraction), ts) := by
  rw [readTerm, term]
  rfl

/-- A truth value is an operand. -/
lemma readTerm_truth (value : Bool) (ts : List Token) :
    readTerm (.truth value :: ts) = some (.truth value, ts) := by
  rw [readTerm, term]
  rfl

/-- A name is an operand. -/
lemma readTerm_name (text : List Char) (ts : List Token) :
    readTerm (.name text :: ts) = some (.name text, ts) := by
  rw [readTerm, term]
  rfl

/-- A function with an enclosed expression is an operand. -/
lemma readTerm_function (mode : Rounding) (ts : List Token) :
    readTerm (.function mode :: .opening :: ts) =
      (readEnclosed ts).map fun inner => (.rounded mode inner.1, inner.2) := by
  rw [readTerm, term, ← map_enclosed]
  cases enclosed ts <;> rfl

/-- An enclosed expression is an operand. -/
lemma readTerm_opening (ts : List Token) :
    readTerm (.opening :: ts) = (readEnclosed ts).map fun inner => (.grouped inner.1, inner.2) := by
  rw [readTerm, term, ← map_enclosed]
  cases enclosed ts <;> rfl

/-- An operator asks for an operand and is followed by further links. -/
lemma readLinks_operator (op : Operator) (ts : List Token) :
    readLinks (.operator op :: ts) =
      (readTerm ts).bind fun operand =>
        (readLinks operand.2).map fun rest => (.link op operand.1 rest.1, rest.2) := by
  rw [readLinks, links, readTerm]
  cases term ts with
  | none => rfl
  | some operand =>
    simp only [Option.map_some, Option.bind_some, readLinks]
    cases links operand.rest <;> rfl

/-- Without an operator there are no further links. -/
lemma readLinks_done {ts : List Token} (h : ∀ op, ts.head? ≠ some (.operator op)) :
    readLinks ts = some (.done, ts) := by
  rw [readLinks, links]
  · rfl
  · intro op r heq
    exact h op (by rw [heq]; rfl)

/-- An expression is a chain, or a choice if a question mark follows the chain. -/
lemma readExpression_eq (ts : List Token) :
    readExpression ts =
      (readTerm ts).bind fun head => (readLinks head.2).bind fun linked =>
        match behind .question linked.2 with
        | none => some (.chain head.1 linked.1, linked.2)
        | some rest => (readExpression rest).bind fun ifTrue =>
          (behind .colon ifTrue.2).bind fun rest => (readExpression rest).map fun otherwise =>
            (.choice head.1 linked.1 ifTrue.1 otherwise.1, otherwise.2) := by
  rw [readExpression, expression, readTerm]
  cases term ts with
  | none => rfl
  | some head =>
    simp only [Option.map_some, Option.bind_some, readLinks]
    cases links head.rest with
    | none => rfl
    | some linked =>
      simp only [Option.map_some, Option.bind_some, behind]
      cases dropToken .question linked.rest with
      | none => rfl
      | some question =>
        simp only [Option.map_some, readExpression]
        cases expression question.rest with
        | none => rfl
        | some ifTrue =>
          simp only [Option.map_some, Option.bind_some]
          cases dropToken .colon ifTrue.rest with
          | none => rfl
          | some colon =>
            simp only [Option.map_some, Option.bind_some]
            cases expression colon.rest <;> rfl

/-! ### Putting readings together -/

/-- Links followed by further links. -/
def Links.append : Links → Links → Links
  | .done, further => further
  | .link op term rest, further => .link op term (rest.append further)

/-- Tokens that do not continue an expression. -/
def ends : List Token → Bool
  | .operator _ :: _ | .question :: _ => false
  | _ => true

/-- Tokens that read as an operand, whatever follows. -/
def ReadsTerm (ts : List Token) (t : Term) : Prop :=
  ∀ rest, readTerm (ts ++ rest) = some (t, rest)

/-- Tokens that read as links in front of those that follow. -/
def ReadsLinks (ts : List Token) (l : Links) : Prop :=
  ∀ rest, readLinks (ts ++ rest) = (readLinks rest).map fun further =>
    (l.append further.1, further.2)

/-- Tokens that read as an expression in front of tokens that do not continue it. -/
def ReadsExpression (ts : List Token) (e : Expression) : Prop :=
  ∀ rest, ends rest = true → readExpression (ts ++ rest) = some (e, rest)

/-- Where an expression ends, no operator follows. -/
lemma head_ne_operator_of_ends {ts : List Token} (h : ends ts = true) (op : Operator) :
    ts.head? ≠ some (.operator op) := by
  intro hhead
  cases ts with
  | nil => cases hhead
  | cons t ts =>
    cases hhead
    cases h

/-- Where an expression ends, no question mark follows. -/
lemma head_ne_question_of_ends {ts : List Token} (h : ends ts = true) :
    ts.head? ≠ some .question := by
  intro hhead
  cases ts with
  | nil => cases hhead
  | cons t ts =>
    cases hhead
    cases h

/-- Links in front of no further links stay as they are. -/
lemma Links.append_done : ∀ l : Links, l.append .done = l
  | .done => rfl
  | .link op term rest => by rw [Links.append, rest.append_done]

/-- Links are joined associatively. -/
lemma Links.append_assoc : ∀ l m n : Links, (l.append m).append n = l.append (m.append n)
  | .done, m, n => rfl
  | .link op term rest, m, n => by
    rw [Links.append, Links.append, Links.append, rest.append_assoc m n]

/-- No tokens read as no links. -/
lemma readsLinks_nil : ReadsLinks [] .done := by
  intro rest
  rw [List.nil_append]
  cases readLinks rest <;> rfl

/-- Links read one after the other. -/
lemma ReadsLinks.append {ts us : List Token} {l m : Links} (hl : ReadsLinks ts l)
    (hm : ReadsLinks us m) : ReadsLinks (ts ++ us) (l.append m) := by
  intro rest
  rw [List.append_assoc, hl, hm, Option.map_map]
  congr 1
  funext further
  simp only [Function.comp, Links.append_assoc]

/-- An operator with its operand reads as a link. -/
lemma ReadsTerm.link {ts us : List Token} {t : Term} {l : Links} (ht : ReadsTerm ts t)
    (hl : ReadsLinks us l) (op : Operator) :
    ReadsLinks (.operator op :: ts ++ us) (.link op t l) := by
  intro rest
  rw [List.append_assoc, List.cons_append, readLinks_operator, ht, Option.bind_some, hl,
    Option.map_map]
  rfl

/-- Links read completely where no operator follows. -/
lemma ReadsLinks.eq_some {ts : List Token} {l : Links} (hl : ReadsLinks ts l)
    (rest : List Token) (h : ∀ op, rest.head? ≠ some (.operator op)) :
    readLinks (ts ++ rest) = some (l, rest) := by
  rw [hl, readLinks_done h, Option.map_some, Links.append_done]

/-- An operand with its links reads as a chain. -/
lemma ReadsTerm.chain {ts us : List Token} {t : Term} {l : Links} (ht : ReadsTerm ts t)
    (hl : ReadsLinks us l) : ReadsExpression (ts ++ us) (.chain t l) := by
  intro rest hrest
  rw [List.append_assoc, readExpression_eq, ht, Option.bind_some,
    hl.eq_some rest (head_ne_operator_of_ends hrest), Option.bind_some]
  simp only [behind_eq_none (head_ne_question_of_ends hrest)]

/-- A chain, a question mark and two expressions with a colon between them read as a choice. -/
lemma ReadsTerm.choice {ts us vs ws : List Token} {t : Term} {l : Links} {e e' : Expression}
    (ht : ReadsTerm ts t) (hl : ReadsLinks us l) (he : ReadsExpression vs e)
    (he' : ReadsExpression ws e') :
    ReadsExpression (ts ++ us ++ .question :: (vs ++ .colon :: ws)) (.choice t l e e') := by
  intro rest hrest
  have hlinks := hl.eq_some (.question :: (vs ++ .colon :: (ws ++ rest)))
    (fun op heq => by cases heq)
  have htokens : ts ++ us ++ .question :: (vs ++ .colon :: ws) ++ rest =
      ts ++ (us ++ .question :: (vs ++ .colon :: (ws ++ rest))) := by
    simp only [List.append_assoc, List.cons_append]
  rw [htokens, readExpression_eq, ht, Option.bind_some, hlinks, Option.bind_some]
  simp only [behind_cons]
  rw [he _ rfl, Option.bind_some, behind_cons, Option.bind_some, he' rest hrest]
  rfl

/-- An expression in parentheses is read up to the closing one. -/
lemma ReadsExpression.readEnclosed_eq {ts : List Token} {e : Expression}
    (he : ReadsExpression ts e) (rest : List Token) :
    readEnclosed (ts ++ .closing :: rest) = some (e, rest) := by
  rw [readEnclosed, he _ rfl, Option.bind_some, behind_cons, Option.map_some]

/-- An expression in parentheses reads as an operand. -/
lemma ReadsExpression.grouped {ts : List Token} {e : Expression} (he : ReadsExpression ts e) :
    ReadsTerm (.opening :: ts ++ [.closing]) (.grouped e) := by
  intro rest
  rw [List.append_assoc, List.cons_append, readTerm_opening, List.singleton_append,
    he.readEnclosed_eq]
  rfl

/-- A function applied to an expression reads as an operand. -/
lemma ReadsExpression.rounded {ts : List Token} {e : Expression} (he : ReadsExpression ts e)
    (mode : Rounding) :
    ReadsTerm (.function mode :: .opening :: ts ++ [.closing]) (.rounded mode e) := by
  intro rest
  rw [List.append_assoc, List.cons_append, List.cons_append, readTerm_function,
    List.singleton_append, he.readEnclosed_eq]
  rfl

/-- A text whose tokens read as an expression is that expression. -/
lemma ReadsExpression.read_eq {text : List Char} {ts : List Token} {e : Expression}
    (he : ReadsExpression ts e) (htokens : tokens true text = some ts) : read text = some e := by
  have hwhole := he [] rfl
  rw [List.append_nil, readExpression] at hwhole
  rw [read, htokens]
  cases hcut : expression ts with
  | none => rw [hcut] at hwhole; cases hwhole
  | some cut =>
    rw [hcut, Option.map_some, Option.some.injEq, Prod.mk.injEq] at hwhole
    simp only [hcut, hwhole.2, List.isEmpty_nil, if_true, hwhole.1]

/-! ### Taking readings apart -/

/-- A token that is dropped stood in front. -/
lemma eq_cons_of_behind {token : Token} {ts rest : List Token}
    (h : behind token ts = some rest) : ts = token :: rest := by
  by_cases hhead : ts.head? = some token
  · obtain ⟨us, rfl⟩ := List.head?_eq_some_iff.mp hhead
    rw [behind_cons] at h
    cases h
    rfl
  · rw [behind_eq_none hhead] at h
    cases h

/-- An enclosed expression is read in front of a closing parenthesis. -/
lemma readExpression_of_readEnclosed {ts rest : List Token} {e : Expression}
    (h : readEnclosed ts = some (e, rest)) :
    readExpression ts = some (e, .closing :: rest) := by
  obtain ⟨⟨inner, us⟩, hinner, hrest⟩ := Option.bind_eq_some_iff.mp h
  obtain ⟨vs, hvs, heq⟩ := Option.map_eq_some_iff.mp hrest
  cases heq
  have hrest := eq_cons_of_behind hvs
  dsimp only at hrest
  rw [hinner, hrest]

/-- The ways in which an operand can stand at the front of a list of tokens. -/
inductive TermAtFront : List Token → Term → List Token → Prop
  | numeral (negative : Bool) (whole fraction : List Char) (rest : List Token) :
      TermAtFront (.numeral negative whole fraction :: rest)
        (.number negative (.ofNumeral whole fraction)) rest
  | truth (value : Bool) (rest : List Token) :
      TermAtFront (.truth value :: rest) (.truth value) rest
  | name (text : List Char) (rest : List Token) : TermAtFront (.name text :: rest) (.name text) rest
  | rounded (mode : Rounding) {ts rest : List Token} {inner : Expression}
      (read : readExpression ts = some (inner, .closing :: rest)) :
      TermAtFront (.function mode :: .opening :: ts) (.rounded mode inner) rest
  | grouped {ts rest : List Token} {inner : Expression}
      (read : readExpression ts = some (inner, .closing :: rest)) :
      TermAtFront (.opening :: ts) (.grouped inner) rest

/-- An operand that is read stands at the front in one of these ways. -/
lemma termAtFront_of_readTerm {ts rest : List Token} {t : Term}
    (h : readTerm ts = some (t, rest)) : TermAtFront ts t rest := by
  have hread := h
  rw [readTerm, term.eq_def] at h
  split at h
  · cases h
    exact .numeral ..
  · cases h
    exact .truth ..
  · cases h
    exact .name ..
  · rw [readTerm_function] at hread
    obtain ⟨inner, hinner, heq⟩ := Option.map_eq_some_iff.mp hread
    cases heq
    exact .rounded _ (readExpression_of_readEnclosed hinner)
  · rw [readTerm_opening] at hread
    obtain ⟨inner, hinner, heq⟩ := Option.map_eq_some_iff.mp hread
    cases heq
    exact .grouped (readExpression_of_readEnclosed hinner)
  · cases h

/-- Links that are read are none, or they begin with an operator and its operand. -/
lemma readLinks_cases {ts rest : List Token} {l : Links} (h : readLinks ts = some (l, rest)) :
    l = .done ∧ ts = rest ∨
      ∃ op t further us vs, l = .link op t further ∧ ts = .operator op :: us ∧
        readTerm us = some (t, vs) ∧ readLinks vs = some (further, rest) := by
  by_cases hoperator : ∃ op, ts.head? = some (.operator op)
  · obtain ⟨op, hop⟩ := hoperator
    obtain ⟨us, rfl⟩ := List.head?_eq_some_iff.mp hop
    rw [readLinks_operator] at h
    obtain ⟨⟨t, vs⟩, hterm, hrest⟩ := Option.bind_eq_some_iff.mp h
    obtain ⟨⟨further, ws⟩, hfurther, heq⟩ := Option.map_eq_some_iff.mp hrest
    cases heq
    exact .inr ⟨op, t, further, us, vs, rfl, rfl, hterm, hfurther⟩
  · rw [readLinks_done fun op hop => hoperator ⟨op, hop⟩] at h
    cases h
    exact .inl ⟨rfl, rfl⟩

/-- An expression that is read is an operand with its links, alone or as the condition of a
choice. -/
lemma readExpression_cases {ts rest : List Token} {e : Expression}
    (h : readExpression ts = some (e, rest)) :
    ∃ head links us vs, readTerm ts = some (head, us) ∧ readLinks us = some (links, vs) ∧
      (e = .chain head links ∧ vs = rest ∨
        ∃ ifTrue otherwise ws xs, e = .choice head links ifTrue otherwise ∧
          vs = .question :: ws ∧ readExpression ws = some (ifTrue, .colon :: xs) ∧
          readExpression xs = some (otherwise, rest)) := by
  rw [readExpression_eq] at h
  obtain ⟨⟨head, us⟩, hhead, hchain⟩ := Option.bind_eq_some_iff.mp h
  obtain ⟨⟨links, vs⟩, hlinks, hend⟩ := Option.bind_eq_some_iff.mp hchain
  refine ⟨head, links, us, vs, hhead, hlinks, ?_⟩
  dsimp only at hend
  split at hend
  · cases hend
    exact .inl ⟨rfl, rfl⟩
  · next ws hquestion =>
    obtain ⟨⟨ifTrue, xs⟩, hifTrue, hcolon⟩ := Option.bind_eq_some_iff.mp hend
    obtain ⟨ys, hys, hlast⟩ := Option.bind_eq_some_iff.mp hcolon
    obtain ⟨⟨otherwise, zs⟩, hotherwise, heq⟩ := Option.map_eq_some_iff.mp hlast
    cases heq
    have hxs := eq_cons_of_behind hys
    dsimp only at hxs
    rw [hxs] at hifTrue
    exact .inr ⟨ifTrue, otherwise, ws, ys, rfl, eq_cons_of_behind hquestion, hifTrue, hotherwise⟩

/-- The text that an expression is read off is cut into tokens of which the expression takes
all. -/
lemma exists_tokens_of_read {text : List Char} {e : Expression} (h : read text = some e) :
    ∃ ts, tokens true text = some ts ∧ readExpression ts = some (e, []) := by
  rw [read] at h
  split at h
  · cases h
  · next ts hts =>
    refine ⟨ts, hts, ?_⟩
    rw [readExpression]
    split at h
    · cases h
    · next cut hcut =>
      obtain ⟨hempty, hpiece⟩ := Option.ite_none_right_eq_some.mp h
      rw [hcut, Option.map_some, Option.some.inj hpiece, List.isEmpty_iff.mp hempty]

end PriorityFormula.Reader
