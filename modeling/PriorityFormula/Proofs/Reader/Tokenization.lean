import PriorityFormula.Proofs.Reader.Grammar
import PriorityFormula.Proofs.Reader.Lexing

/-!
# Cutting up is inverse to spelling

Cutting a text into tokens finds tokens that the text spells, and it finds the tokens that a text
spells if they stand in their places. Only where a name has the spelling of a truth value the token
found is another one: that truth value.
-/

namespace PriorityFormula.Reader

/-- What a token is found as: a name with the spelling of a truth value is that truth value. -/
def Token.resolved : Token → Token
  | .name text => .ofWord text
  | t => t

/-- A token with a spelling of its own: it is no name with the spelling of a truth value. -/
def Token.Unambiguous : Token → Prop
  | .name text => ∀ value, text ≠ Boolean.truthText value
  | _ => True

/-- A token with a spelling of its own is found again. -/
lemma Token.Unambiguous.resolved_eq {t : Token} (h : t.Unambiguous) : t.resolved = t := by
  cases t with
  | name text => exact ofWord_eq_name h
  | numeral _ _ _ | truth _ | function _ | operator _ | opening | closing | question | colon => rfl

/-! ### The tokens that a text spells are found -/

/-- Spaces in front of a text do not matter. -/
lemma tokens_spaces (due : Bool) (spaces : Nat) (s : List Char) :
    tokens due (List.replicate spaces ' ' ++ s) = tokens due s := by
  induction spaces with
  | zero => rfl
  | succ spaces ih => rw [List.replicate_succ, List.cons_append, tokens_space, ih]

/-- A token in its place is found at the front of a text, a word if the text behind it breaks it
off. -/
lemma tokens_text_append {t : Token} {rest : List Char} (hwellFormed : t.WellFormed)
    (hbreaks : t.isWord = true → breaks rest = true) :
    tokens t.beginsOperand (t.text ++ rest) =
      (tokens t.awaitsOperand rest).map (t.resolved :: ·) := by
  cases t with
  | numeral negative whole fraction =>
    obtain ⟨hne, hwhole, hfraction⟩ := hwellFormed
    exact lexes_numeral negative hne hwhole hfraction rest (hbreaks rfl)
  | truth value =>
    have hlexes := lexes_word (isName_truthText value) rest (hbreaks rfl)
    rw [ofWord_truthText] at hlexes
    exact hlexes
  | name text => exact lexes_word hwellFormed rest (hbreaks rfl)
  | function mode =>
    have hcut := cutOff_function mode rest
    cases mode <;> exact tokens_of_cutOff (by decide) hcut
  | operator op =>
    have hcut := cutOff_operator op rest
    cases op <;> exact tokens_of_cutOff (by decide) hcut
  | opening | closing | question | colon => exact tokens_of_cutOff (by decide) rfl

/-- A text breaks off a word in front of it if its first token cannot stand where an operand is
due. -/
lemma Spelled.breaks_eq_true {ts : List Token} {text : List Char} (h : Spelled ts text)
    {due : Bool} (halternates : Alternates false ts due) : breaks text = true := by
  cases h with
  | nil spaces => cases spaces <;> rfl
  | @cons spaces t ts rest _ _ _ =>
    cases spaces with
    | succ spaces => rfl
    | zero =>
      have hplace : t.beginsOperand = false := halternates.1
      cases t with
      | operator op => cases op <;> rfl
      | closing | question | colon => rfl
      | numeral _ _ _ | truth _ | name _ | function _ | opening => cases hplace

/-- No operand is due behind a word. -/
lemma awaitsOperand_of_isWord {t : Token} (h : t.isWord = true) : t.awaitsOperand = false := by
  cases t with
  | numeral _ _ _ | truth _ | name _ => rfl
  | function _ | operator _ | opening | closing | question | colon => cases h

/-- Tokens in their places are found in a text that spells them. -/
theorem Spelled.tokens_eq {ts : List Token} {text : List Char} (h : Spelled ts text)
    {due due' : Bool} (halternates : Alternates due ts due') :
    tokens due text = some (ts.map Token.resolved) := by
  induction h generalizing due with
  | nil spaces =>
    rw [← List.append_nil (List.replicate _ _), tokens_spaces, tokens_nil]
    rfl
  | @cons spaces t ts rest hwellFormed _ htail ih =>
    obtain ⟨hplace, hrest⟩ := halternates
    -- Behind a word no operand is due, so its spelling cannot run on into that of the next token.
    have hbreaks : t.isWord = true → breaks rest = true := by
      intro hword
      rw [awaitsOperand_of_isWord hword] at hrest
      exact htail.breaks_eq_true hrest
    rw [← hplace, tokens_spaces, tokens_text_append hwellFormed hbreaks, ih hrest]
    rfl

/-! ### The tokens that are found are spelled -/

/-- The digits behind a point stand in front of what is left. -/
lemma pointAndDigits_append_dropFraction (s : List Char) :
    pointAndDigits (fractionDigits s) ++ dropFraction s = s := by
  unfold fractionDigits dropFraction pointAndDigits
  split
  · next r =>
    split
    · rfl
    · rw [List.cons_append, List.takeWhile_append_dropWhile]
  · rfl

/-- The digits behind a point are digits. -/
lemma isDigit_of_mem_fractionDigits {s : List Char} {c : Char} (h : c ∈ fractionDigits s) :
    c.isDigit = true := by
  unfold fractionDigits at h
  split at h
  · exact List.all_eq_true.mp List.all_takeWhile c h
  · cases h

/-- A numeral that is cut off is spelled in front of what is left. -/
lemma cutNumeral_eq_some {negative : Bool} {s : List Char} {cut : Cut Token s}
    (h : cutNumeral negative s = some cut) :
    cut.piece.WellFormed ∧ cut.piece.Unambiguous ∧
      (if negative then ['-'] else []) ++ s = cut.piece.text ++ cut.rest := by
  cases s with
  | nil => cases h
  | cons c s =>
    rw [cutNumeral, Option.ite_none_right_eq_some] at h
    obtain ⟨hdigit, hcut⟩ := h
    cases hcut
    refine ⟨⟨List.cons_ne_nil _ _, ?_, fun d hd => isDigit_of_mem_fractionDigits hd⟩, trivial, ?_⟩
    · intro d hd
      rcases List.mem_cons.mp hd with rfl | hmem
      · exact hdigit
      · exact List.all_eq_true.mp List.all_takeWhile d hmem
    · have hbehind := pointAndDigits_append_dropFraction (s.dropWhile Char.isDigit)
      rw [pointAndDigits] at hbehind
      simp only [Token.text, List.append_assoc, List.cons_append, hbehind,
        List.takeWhile_append_dropWhile]

/-- The token of a word has that word as its spelling. -/
lemma text_ofWord (word : List Char) : (Token.ofWord word).text = word := by
  rcases ofWord_cases word with ⟨_, hword, heq⟩ | ⟨_, heq⟩
  · rw [heq, hword]
    rfl
  · rw [heq]
    rfl

/-- The token of a word is well-formed. -/
lemma wellFormed_ofWord {word : List Char} (h : isName word = true) :
    (Token.ofWord word).WellFormed := by
  rcases ofWord_cases word with ⟨_, _, heq⟩ | ⟨_, heq⟩
  · rw [heq]
    trivial
  · rw [heq]
    exact h

/-- The token of a word has a spelling of its own. -/
lemma unambiguous_ofWord (word : List Char) : (Token.ofWord word).Unambiguous := by
  rcases ofWord_cases word with ⟨_, _, heq⟩ | ⟨hne, heq⟩
  · rw [heq]
    trivial
  · rw [heq]
    exact hne

/-- A word that is cut off is spelled in front of what is left. -/
lemma cutWord_eq_some {s : List Char} {cut : Cut Token s} (h : cutWord s = some cut) :
    cut.piece.WellFormed ∧ cut.piece.Unambiguous ∧ s = cut.piece.text ++ cut.rest := by
  cases s with
  | nil => cases h
  | cons c s =>
    rw [cutWord, Option.ite_none_right_eq_some] at h
    obtain ⟨hstart, hcut⟩ := h
    cases hcut
    have hname : isName (c :: s.takeWhile isNameChar) = true := by
      rw [isName, hstart, List.all_takeWhile]
      rfl
    refine ⟨wellFormed_ofWord hname, unambiguous_ofWord _, ?_⟩
    show c :: s = (Token.ofWord (c :: s.takeWhile isNameChar)).text ++ s.dropWhile isNameChar
    rw [text_ofWord, List.cons_append, List.takeWhile_append_dropWhile]

/-- A function that is cut off is spelled in front of what is left. -/
lemma cutFunction_eq_some {s : List Char} {cut : Cut Token s} (h : cutFunction s = some cut) :
    cut.piece.WellFormed ∧ cut.piece.Unambiguous ∧ s = cut.piece.text ++ cut.rest := by
  unfold cutFunction at h
  split at h
  · next mode hmode =>
    dsimp only at h
    split at h
    · cases h
      have hfound := List.find?_some hmode
      have hfront : mode.function <+: s := List.isPrefixOf_iff_prefix.mp hfound
      exact ⟨trivial, trivial, (List.prefix_iff_eq_append.mp hfront).symm⟩
    · cases h
  · cases h

/-- A token that is cut off is spelled in front of what is left. -/
lemma cutToken_eq_some {due : Bool} {s : List Char} {cut : Cut Token s}
    (h : cutToken due s = some cut) :
    cut.piece.WellFormed ∧ cut.piece.Unambiguous ∧ s = cut.piece.text ++ cut.rest := by
  cases due with
  | true =>
    replace h : cutOperand s = some cut := h
    unfold cutOperand at h
    split at h
    · cases h
      exact ⟨trivial, trivial, rfl⟩
    · next r =>
      obtain ⟨numeral, hnumeral, rfl⟩ := Option.map_eq_some_iff.mp h
      exact cutNumeral_eq_some hnumeral
    · rcases Option.or_eq_some_iff.mp h with hfirst | ⟨_, hword⟩
      · rcases Option.or_eq_some_iff.mp hfirst with hfunction | ⟨_, hnumeral⟩
        · exact cutFunction_eq_some hfunction
        · exact cutNumeral_eq_some hnumeral
      · exact cutWord_eq_some hword
  | false =>
    replace h : cutOperator s = some cut := h
    unfold cutOperator at h
    split at h
    case h_10 => cases h
    all_goals
      cases h
      exact ⟨trivial, trivial, rfl⟩

/-- What is cut off behind an operand does not begin with a character of a name. -/
lemma not_isNameChar_of_cutOperator {s : List Char} {cut : Cut Token s}
    (h : cutOperator s = some cut) : ∀ c ∈ s.head?, isNameChar c = false := by
  unfold cutOperator at h
  split at h
  case h_10 => cases h
  all_goals
    intro c hc
    cases hc
    decide

/-- A text that can be cut up behind an operand does not begin with a character of a name. -/
lemma not_isNameChar_of_tokens {s : List Char} {ts : List Token} (h : tokens false s = some ts) :
    ∀ c ∈ s.head?, isNameChar c = false := by
  cases s with
  | nil => exact fun c hc => nomatch hc
  | cons d s =>
    by_cases hspace : d = ' '
    · intro c hc
      cases hc
      rw [hspace]
      decide
    · have hdrop : dropSpaces (d :: s) = d :: s :=
        List.dropWhile_cons_of_neg (by simpa using hspace)
      rw [tokens_eq, hdrop, if_neg (by simp)] at h
      obtain ⟨_, hcutOff, _⟩ := Option.bind_eq_some_iff.mp h
      obtain ⟨cut, hcut, _⟩ := Option.map_eq_some_iff.mp hcutOff
      exact not_isNameChar_of_cutOperator hcut

/-- A text is what is left behind its leading spaces with those spaces in front. -/
lemma exists_spaces_append (s : List Char) :
    ∃ spaces, s = List.replicate spaces ' ' ++ dropSpaces s := by
  refine ⟨(s.takeWhile (· == ' ')).length, ?_⟩
  have hspaces : s.takeWhile (· == ' ') =
      List.replicate (s.takeWhile (· == ' ')).length ' ' :=
    List.eq_replicate_of_mem fun c hc =>
      beq_iff_eq.mp (List.all_eq_true.mp List.all_takeWhile c hc)
  rw [← hspaces, dropSpaces, List.takeWhile_append_dropWhile]

/-- A text spells the tokens that are found in it, and each has a spelling of its own. -/
theorem spelled_of_tokens {due : Bool} {text : List Char} {ts : List Token}
    (h : tokens due text = some ts) : Spelled ts text ∧ ∀ t ∈ ts, t.Unambiguous := by
  induction due, text using tokens.induct generalizing ts with
  | case1 due s hempty =>
    rw [tokens, if_pos hempty] at h
    cases h
    obtain ⟨spaces, hs⟩ := exists_spaces_append s
    rw [List.isEmpty_iff.mp hempty, List.append_nil] at hs
    rw [hs]
    exact ⟨.nil spaces, List.forall_mem_nil _⟩
  | case2 due s hne hnone =>
    rw [tokens, if_neg hne, hnone] at h
    cases h
  | case3 due s hne cut hcut hshorter ih =>
    rw [tokens, if_neg hne, hcut] at h
    obtain ⟨us, hus, rfl⟩ := Option.map_eq_some_iff.mp h
    obtain ⟨hspelled, hunambiguous⟩ := ih hus
    obtain ⟨hwellFormed, hpiece, hfront⟩ := cutToken_eq_some hcut
    obtain ⟨spaces, hs⟩ := exists_spaces_append s
    -- A numeral is cut off where its digits end, even in front of a letter. What tells that it ends
    -- there is that the rest can be cut up.
    have hends : cut.piece.isWord = true → ∀ c ∈ cut.rest.head?, isNameChar c = false := by
      intro hword
      rw [awaitsOperand_of_isWord hword] at hus
      exact not_isNameChar_of_tokens hus
    have hwhole := Spelled.cons spaces hwellFormed hends hspelled
    rw [← hfront, ← hs] at hwhole
    exact ⟨hwhole, List.forall_mem_cons.mpr ⟨hpiece, hunambiguous⟩⟩

end PriorityFormula.Reader
