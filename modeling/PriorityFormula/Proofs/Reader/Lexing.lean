import PriorityFormula.Proofs.Preliminaries
import PriorityFormula.Reader.Token

/-!
# Cutting a text into tokens

The spelling of a token is cut off as that token wherever the text behind it does not continue it.
`Lexes due text ts due'` says that a text is cut into the tokens `ts` if an operand is due in front
of it (`due`), and whether one is due behind it (`due'`); texts are then put together from smaller
ones. The text behind an operand has to break it off: it may not begin with a character that could
still belong to a name or a numeral.
-/

namespace PriorityFormula.Reader

/-! ### Characters -/

/-- A digit can stand inside a name. -/
lemma isNameChar_of_isDigit {c : Char} (h : c.isDigit = true) : isNameChar c = true := by
  simp [isNameChar, Char.isAlphanum, h]

/-- What can start a name can stand inside a name. -/
lemma isNameChar_of_isNameStart {c : Char} (h : isNameStart c = true) : isNameChar c = true := by
  rw [isNameStart, Bool.or_eq_true] at h
  rw [isNameChar, Char.isAlphanum, Bool.or_eq_true, Bool.or_eq_true]
  rcases h with halpha | hunderscore
  · exact Or.inl (Or.inl halpha)
  · exact Or.inr hunderscore

/-- No digit can start a name. -/
lemma isDigit_eq_false_of_isNameStart {c : Char} (h : isNameStart c = true) :
    c.isDigit = false := by
  rw [isNameStart, Bool.or_eq_true, beq_iff_eq] at h
  rcases h with halpha | rfl
  · unfold Char.isAlpha Char.isUpper Char.isLower at halpha
    unfold Char.isDigit
    simp only [Bool.or_eq_true, Bool.and_eq_true, decide_eq_true_eq,
      UInt32.le_iff_toNat_le] at halpha
    simp only [Bool.and_eq_false_iff, decide_eq_false_iff_not, UInt32.le_iff_toNat_le]
    right
    have hnine : '9'.val.toNat = 57 := rfl
    have hupper : 'A'.val.toNat = 65 := rfl
    have hlower : 'a'.val.toNat = 97 := rfl
    omega
  · rfl

/-- Whether a text breaks off a name or a numeral in front of it. -/
def breaks : List Char → Bool
  | [] => true
  | c :: _ => !isNameChar c && c != '.'

/-- A text breaks off what stands in front of it if its parts do. -/
lemma breaks_append {s t : List Char} (hs : breaks s = true) (ht : breaks t = true) :
    breaks (s ++ t) = true := by
  cases s with
  | nil => exact ht
  | cons c s => exact hs

/-- A text that breaks off has no name character in front. -/
lemma not_isNameChar_of_breaks {c : Char} {s : List Char} (h : breaks (c :: s) = true) :
    isNameChar c = false := by
  simp only [breaks, Bool.and_eq_true, Bool.not_eq_true'] at h
  exact h.1

/-- A text that breaks off has no point in front. -/
lemma ne_point_of_breaks {c : Char} {s : List Char} (h : breaks (c :: s) = true) : c ≠ '.' := by
  simp only [breaks, Bool.and_eq_true, bne_iff_ne] at h
  exact h.2

/-- No name character stands in front of a text that breaks off. -/
lemma not_isNameChar_of_mem_head {rest : List Char} (h : breaks rest = true) :
    ∀ c ∈ rest.head?, ¬ isNameChar c = true := by
  intro c hc
  cases rest with
  | nil => cases hc
  | cons d rest =>
    cases hc
    rw [not_isNameChar_of_breaks h]
    exact Bool.false_ne_true

/-- A run of digits ends where the text behind it breaks off. -/
lemma digits_append_of_breaks {s rest : List Char} (hs : ∀ c ∈ s, c.isDigit = true)
    (hrest : breaks rest = true) :
    (s ++ rest).takeWhile Char.isDigit = s ∧ (s ++ rest).dropWhile Char.isDigit = rest :=
  takeWhile_dropWhile_append hs fun c hc hdigit =>
    not_isNameChar_of_mem_head hrest c hc (isNameChar_of_isDigit hdigit)

/-! ### Cutting off one token -/

/-- The token at the front of a text and what is left behind it. -/
def cutOff (due : Bool) (s : List Char) : Option (Token × List Char) :=
  (cutToken due s).map fun cut => (cut.piece, cut.rest)

/-- Cutting up a text cuts off one token and goes on behind it. -/
lemma tokens_eq (due : Bool) (s : List Char) :
    tokens due s = if (dropSpaces s).isEmpty then some [] else
      (cutOff due (dropSpaces s)).bind fun cut =>
        (tokens cut.1.awaitsOperand cut.2).map (cut.1 :: ·) := by
  rw [tokens, cutOff]
  split
  · rfl
  · cases cutToken due (dropSpaces s) <;> rfl

/-- A space in front of a text does not matter. -/
lemma tokens_space (due : Bool) (s : List Char) : tokens due (' ' :: s) = tokens due s := by
  have hdrop : dropSpaces (' ' :: s) = dropSpaces s := rfl
  rw [tokens_eq, hdrop, ← tokens_eq]

/-- Nothing is left of the empty text. -/
lemma tokens_nil (due : Bool) : tokens due [] = some [] := by
  rw [tokens_eq]
  rfl

/-- A token that is cut off comes first. -/
lemma tokens_of_cutOff {due : Bool} {c : Char} {s rest : List Char} {token : Token}
    (hspace : c ≠ ' ') (hcut : cutOff due (c :: s) = some (token, rest)) :
    tokens due (c :: s) = (tokens token.awaitsOperand rest).map (token :: ·) := by
  have hdrop : dropSpaces (c :: s) = c :: s :=
    List.dropWhile_cons_of_neg (by simpa using hspace)
  rw [tokens_eq, hdrop, hcut]
  rfl

/-- An operator is cut off behind an operand. -/
lemma cutOff_operator (op : Operator) (rest : List Char) :
    cutOff false (op.symbol ++ rest) = some (.operator op, rest) := by
  cases op <;> rfl

/-- The name of a rounding function is cut off where an operand is due. -/
lemma cutOff_function (mode : Rounding) (rest : List Char) :
    cutOff true (mode.function ++ rest) = some (.function mode, rest) := by
  have hlt : ∀ n, rest.length < rest.length + (n + 1) := fun n => by omega
  cases mode <;>
    simp [cutOff, cutToken, cutOperand, cutFunction, Rounding.function, Rounding.all,
      Nat.add_assoc, hlt]

/-- Where an operand is due, anything but a parenthesis and a minus is a function, a numeral or a
word. -/
lemma cutOperand_cons {c : Char} {s : List Char} (hopening : c ≠ '(') (hminus : c ≠ '-') :
    cutOperand (c :: s) =
      ((cutFunction (c :: s)).or (cutNumeral false (c :: s))).or (cutWord (c :: s)) := by
  rw [cutOperand]
  · intro r heq
    exact hopening (List.cons.inj heq).1
  · intro r heq
    exact hminus (List.cons.inj heq).1

/-- No function is cut off a text that does not begin with one. -/
lemma cutFunction_eq_none {s : List Char}
    (h : ∀ mode : Rounding, ¬ mode.function <+: s) : cutFunction s = none := by
  have hfind : (Rounding.all.find? fun mode => mode.function.isPrefixOf s) = none := by
    rw [List.find?_eq_none]
    intro mode _
    rw [List.isPrefixOf_iff_prefix]
    exact h mode
  rw [cutFunction, hfind]

/-! ### Numerals -/

/-- What a numeral shows behind its whole digits. -/
def pointAndDigits (fraction : List Char) : List Char :=
  if fraction.isEmpty then [] else '.' :: fraction

/-- The digits behind a point are found again. -/
lemma fraction_append_of_breaks {fraction rest : List Char}
    (hfraction : ∀ c ∈ fraction, c.isDigit = true) (hrest : breaks rest = true) :
    fractionDigits (pointAndDigits fraction ++ rest) = fraction ∧
      dropFraction (pointAndDigits fraction ++ rest) = rest := by
  have hrun := digits_append_of_breaks hfraction hrest
  cases fraction with
  | nil =>
    cases rest with
    | nil => exact ⟨rfl, rfl⟩
    | cons c rest =>
      have hpoint := ne_point_of_breaks hrest
      constructor
      · simp [pointAndDigits, fractionDigits, hpoint]
      · simp [pointAndDigits, dropFraction, hpoint]
  | cons d fraction =>
    constructor
    · exact hrun.1
    · show (if ((d :: fraction ++ rest).takeWhile Char.isDigit).isEmpty then _ else
        (d :: fraction ++ rest).dropWhile Char.isDigit) = rest
      rw [hrun.1, hrun.2]
      rfl

/-- The digits of a numeral are found again in front of a text that breaks off. -/
lemma cutNumeral_append (negative : Bool) {whole fraction rest : List Char} (hne : whole ≠ [])
    (hwhole : ∀ c ∈ whole, c.isDigit = true) (hfraction : ∀ c ∈ fraction, c.isDigit = true)
    (hrest : breaks rest = true) :
    (cutNumeral negative (whole ++ (pointAndDigits fraction ++ rest))).map
      (fun cut => (cut.piece, cut.rest)) = some (.numeral negative whole fraction, rest) := by
  obtain ⟨hdigits, hbehind⟩ := fraction_append_of_breaks hfraction hrest
  have hpoint : ∀ c ∈ (pointAndDigits fraction ++ rest).head?, ¬ c.isDigit = true := by
    intro c hc hdigit
    cases fraction with
    | nil => exact not_isNameChar_of_mem_head hrest c hc (isNameChar_of_isDigit hdigit)
    | cons d fraction =>
      cases hc
      exact absurd hdigit (by decide)
  have hrun := takeWhile_dropWhile_append hwhole hpoint
  cases whole with
  | nil => exact absurd rfl hne
  | cons c whole =>
    have hc : c.isDigit = true := hwhole c (List.mem_cons_self ..)
    rw [List.cons_append, List.takeWhile_cons_of_pos hc, List.dropWhile_cons_of_pos hc] at hrun
    rw [List.cons_append, cutNumeral, if_pos hc]
    simp only [Option.map_some, (List.cons.inj hrun.1).2, hrun.2, hdigits, hbehind]

/-- A numeral is cut off where an operand is due and the text behind it breaks off. -/
lemma cutOff_numeral (negative : Bool) {whole fraction rest : List Char} (hne : whole ≠ [])
    (hwhole : ∀ c ∈ whole, c.isDigit = true) (hfraction : ∀ c ∈ fraction, c.isDigit = true)
    (hrest : breaks rest = true) :
    cutOff true ((Token.numeral negative whole fraction).text ++ rest) =
      some (.numeral negative whole fraction, rest) := by
  have hcut := cutNumeral_append negative hne hwhole hfraction hrest
  have htext : (Token.numeral negative whole fraction).text ++ rest =
      (if negative then ['-'] else []) ++ (whole ++ (pointAndDigits fraction ++ rest)) := by
    simp only [Token.text, pointAndDigits, List.append_assoc]
  rw [htext]
  cases negative with
  | true =>
    show ((cutNumeral true _).map _).map _ = _
    rw [Option.map_map]
    exact hcut
  | false =>
    show (cutOperand (whole ++ (pointAndDigits fraction ++ rest))).map _ = _
    cases whole with
    | nil => exact absurd rfl hne
    | cons c whole =>
      have hc : c.isDigit = true := hwhole c (List.mem_cons_self ..)
      have hopening : c ≠ '(' := by rintro rfl; exact absurd hc (by decide)
      have hminus : c ≠ '-' := by rintro rfl; exact absurd hc (by decide)
      have hletter : c ≠ 'M' := by rintro rfl; exact absurd hc (by decide)
      have hfunction : cutFunction (c :: (whole ++ (pointAndDigits fraction ++ rest))) = none := by
        apply cutFunction_eq_none
        rintro mode ⟨t, ht⟩
        cases mode <;> exact hletter (List.cons.inj ht).1.symm
      rw [List.cons_append, cutOperand_cons hopening hminus, hfunction, Option.none_or]
      rw [List.cons_append] at hcut
      cases hnumeral : cutNumeral false (c :: (whole ++ (pointAndDigits fraction ++ rest))) with
      | none => rw [hnumeral] at hcut; cases hcut
      | some cut => rw [hnumeral] at hcut; exact hcut

/-! ### Words -/

/-- The token that a word is: a truth value or a name. -/
def Token.ofWord (word : List Char) : Token :=
  if word = Boolean.truthText true then .truth true
  else if word = Boolean.truthText false then .truth false
  else .name word

/-- The text of a truth value is read as that truth value. -/
lemma ofWord_truthText (value : Bool) : Token.ofWord (Boolean.truthText value) = .truth value := by
  cases value <;> rfl

/-- Any other word is a name. -/
lemma ofWord_eq_name {word : List Char} (h : ∀ value, word ≠ Boolean.truthText value) :
    Token.ofWord word = .name word := by
  rw [Token.ofWord, if_neg (h true), if_neg (h false)]

/-- A word is a truth value or a name. -/
lemma ofWord_cases (word : List Char) :
    (∃ value, word = Boolean.truthText value ∧ Token.ofWord word = .truth value) ∨
      (∀ value, word ≠ Boolean.truthText value) ∧ Token.ofWord word = .name word := by
  by_cases h : ∃ value, word = Boolean.truthText value
  · obtain ⟨value, rfl⟩ := h
    exact .inl ⟨value, rfl, ofWord_truthText value⟩
  · have hne : ∀ value, word ≠ Boolean.truthText value := fun value heq => h ⟨value, heq⟩
    exact .inr ⟨hne, ofWord_eq_name hne⟩

/-- The text of a truth value has the form of a name. -/
lemma isName_truthText (value : Bool) : isName (Boolean.truthText value) = true := by
  cases value <;> decide

/-- Every character of a name can stand inside a name. -/
lemma isNameChar_of_mem {word : List Char} (h : isName word = true) :
    ∀ c ∈ word, isNameChar c = true := by
  intro c hc
  cases word with
  | nil => cases hc
  | cons d word =>
    rw [isName, Bool.and_eq_true, List.all_eq_true] at h
    rcases List.mem_cons.mp hc with rfl | hmem
    · exact isNameChar_of_isNameStart h.1
    · exact h.2 c hmem

/-- No function begins a word, since a function has a point behind its first letters. -/
lemma not_function_prefix_word {word rest : List Char} (h : isName word = true)
    (hrest : breaks rest = true) (mode : Rounding) : ¬ mode.function <+: word ++ rest := by
  rintro ⟨t, ht⟩
  have hbehind := (takeWhile_dropWhile_append (isNameChar_of_mem h)
    (not_isNameChar_of_mem_head hrest)).2
  have hpoint : ∃ r, (mode.function ++ t).dropWhile isNameChar = '.' :: r := by
    cases mode <;> exact ⟨_, rfl⟩
  obtain ⟨r, hr⟩ := hpoint
  rw [ht, hbehind] at hr
  rw [hr] at hrest
  exact ne_point_of_breaks hrest rfl

/-- A word is cut off where an operand is due and the text behind it breaks off. -/
lemma cutOff_word {word rest : List Char} (h : isName word = true) (hrest : breaks rest = true) :
    cutOff true (word ++ rest) = some (.ofWord word, rest) := by
  have hfunction : cutFunction (word ++ rest) = none :=
    cutFunction_eq_none (not_function_prefix_word h hrest)
  have hrun := takeWhile_dropWhile_append (isNameChar_of_mem h)
    (not_isNameChar_of_mem_head hrest)
  cases word with
  | nil => exact absurd h (by decide)
  | cons c word =>
    rw [isName, Bool.and_eq_true] at h
    have hopening : c ≠ '(' := by rintro rfl; exact absurd h.1 (by decide)
    have hminus : c ≠ '-' := by rintro rfl; exact absurd h.1 (by decide)
    have hdigit : ¬ c.isDigit = true := by
      rw [isDigit_eq_false_of_isNameStart h.1]
      exact Bool.false_ne_true
    have hchar : isNameChar c = true := isNameChar_of_isNameStart h.1
    rw [List.cons_append] at hfunction hrun ⊢
    rw [List.takeWhile_cons_of_pos hchar, List.dropWhile_cons_of_pos hchar] at hrun
    show (cutOperand (c :: (word ++ rest))).map _ = _
    rw [cutOperand_cons hopening hminus, hfunction, cutNumeral, if_neg hdigit, cutWord,
      if_pos h.1]
    simp only [Option.none_or, Option.map_some, hrun.1, hrun.2]
    rfl

/-! ### Cutting up longer texts -/

/-- A text is cut into the tokens `ts` in front of every text that breaks it off. An operand is due
at its beginning if `due` holds, and at its end if `due'` does. -/
def Lexes (due : Bool) (text : List Char) (ts : List Token) (due' : Bool) : Prop :=
  ∀ rest, breaks rest = true → tokens due (text ++ rest) = (tokens due' rest).map (ts ++ ·)

/-- A text that ends behind an operand is cut up as a whole. -/
lemma Lexes.tokens_eq_some {due due' : Bool} {text : List Char} {ts : List Token}
    (h : Lexes due text ts due') : tokens due text = some ts := by
  have hwhole := h [] rfl
  rw [tokens_nil, List.append_nil, Option.map_some, List.append_nil] at hwhole
  exact hwhole

/-- Texts are cut up one after the other. -/
lemma Lexes.append {due due' due'' : Bool} {s t : List Char} {ss ts : List Token}
    (hs : Lexes due s ss due') (ht : Lexes due' t ts due'') (hbreaks : breaks t = true) :
    Lexes due (s ++ t) (ss ++ ts) due'' := by
  intro rest hrest
  rw [List.append_assoc, hs _ (breaks_append hbreaks hrest), ht rest hrest, Option.map_map]
  congr 1
  funext us
  exact (List.append_assoc ..).symm

/-- The text of a numeral is that numeral. -/
lemma lexes_numeral (negative : Bool) {whole fraction : List Char} (hne : whole ≠ [])
    (hwhole : ∀ c ∈ whole, c.isDigit = true) (hfraction : ∀ c ∈ fraction, c.isDigit = true) :
    Lexes true (Token.numeral negative whole fraction).text [.numeral negative whole fraction]
      false := by
  intro rest hrest
  have hcut := cutOff_numeral negative hne hwhole hfraction hrest
  have hfirst : ∃ c s, (Token.numeral negative whole fraction).text = c :: s ∧ c ≠ ' ' := by
    cases negative with
    | true => exact ⟨'-', _, rfl, by decide⟩
    | false =>
      cases whole with
      | nil => exact absurd rfl hne
      | cons c whole =>
        refine ⟨c, _, rfl, ?_⟩
        rintro rfl
        exact absurd (hwhole ' ' (List.mem_cons_self ..)) (by decide)
  obtain ⟨c, s, htext, hspace⟩ := hfirst
  rw [htext, List.cons_append] at hcut ⊢
  exact tokens_of_cutOff hspace hcut

/-- The text of a word is the token of that word. -/
lemma lexes_word {word : List Char} (h : isName word = true) :
    Lexes true word [.ofWord word] false := by
  intro rest hrest
  have hcut := cutOff_word h hrest
  have hoperand : (Token.ofWord word).awaitsOperand = false := by
    rcases ofWord_cases word with ⟨_, _, heq⟩ | ⟨_, heq⟩ <;> rw [heq] <;> rfl
  cases word with
  | nil => exact absurd h (by decide)
  | cons c word =>
    have hspace : c ≠ ' ' := by
      rintro rfl
      rw [isName, Bool.and_eq_true] at h
      exact absurd h.1 (by decide)
    rw [List.cons_append] at hcut ⊢
    rw [tokens_of_cutOff hspace hcut, hoperand]
    rfl

/-- A text in parentheses. -/
lemma Lexes.enclosed {text : List Char} {ts : List Token} (h : Lexes true text ts false) :
    Lexes true ('(' :: text ++ [')']) (.opening :: ts ++ [.closing]) false := by
  intro rest hrest
  have hopening : ∀ s, tokens true ('(' :: s) = (tokens true s).map (.opening :: ·) :=
    fun s => tokens_of_cutOff (by decide) rfl
  have hclosing : ∀ s, tokens false (')' :: s) = (tokens false s).map (.closing :: ·) :=
    fun s => tokens_of_cutOff (by decide) rfl
  rw [List.cons_append, List.cons_append, List.append_assoc, hopening, h _ rfl,
    List.singleton_append, hclosing, Option.map_map, Option.map_map]
  congr 1
  funext us
  simp

/-- A text that a rounding function is applied to. -/
lemma Lexes.rounded {text : List Char} {ts : List Token} (h : Lexes true text ts false)
    (mode : Rounding) :
    Lexes true (mode.function ++ '(' :: text ++ [')'])
      (.function mode :: .opening :: ts ++ [.closing]) false := by
  intro rest hrest
  have hfunction : ∀ s, tokens true (mode.function ++ s) =
      (tokens true s).map (.function mode :: ·) := by
    intro s
    have hcut := cutOff_function mode s
    cases mode <;> exact tokens_of_cutOff (by decide) hcut
  rw [List.append_assoc, List.append_assoc, hfunction]
  have hinner := h.enclosed rest hrest
  rw [List.append_assoc] at hinner
  rw [hinner, Option.map_map]
  rfl

/-- A text behind an operator with a space on either side. -/
lemma Lexes.behind_operator {due : Bool} {text : List Char} {ts : List Token}
    (h : Lexes true text ts due) (op : Operator) :
    Lexes false (op.spaced ++ text) (.operator op :: ts) due := by
  intro rest hrest
  have hoperator : ∀ s,
      tokens false (op.spaced ++ s) = (tokens true s).map (.operator op :: ·) := by
    intro s
    have hcut := cutOff_operator op (' ' :: s)
    rw [← tokens_space true s]
    cases op <;> exact (tokens_space false _).trans (tokens_of_cutOff (by decide) hcut)
  rw [List.append_assoc, hoperator, h rest hrest, Option.map_map]
  rfl

/-- A text behind a question mark or a colon with a space on either side. -/
lemma Lexes.behind_mark {due : Bool} {text : List Char} {ts : List Token} {c : Char}
    {token : Token} (h : Lexes true text ts due)
    (hmark : c = '?' ∧ token = .question ∨ c = ':' ∧ token = .colon) :
    Lexes false ([' ', c, ' '] ++ text) (token :: ts) due := by
  intro rest hrest
  have htoken : ∀ s, tokens false (' ' :: c :: ' ' :: s) = (tokens true s).map (token :: ·) := by
    intro s
    rw [tokens_space, ← tokens_space true s]
    rcases hmark with ⟨rfl, rfl⟩ | ⟨rfl, rfl⟩
    · exact tokens_of_cutOff (by decide) rfl
    · exact tokens_of_cutOff (by decide) rfl
  show tokens false (' ' :: c :: ' ' :: (text ++ rest)) = _
  rw [htoken, h rest hrest, Option.map_map]
  rfl

end PriorityFormula.Reader
