import PriorityFormula.Proofs.Reader.Evaluation
import PriorityFormula.Proofs.Statement.Printed

/-!
# Names

There are two definitions of a name: `isName` says which texts can name a variable, and the reader
finds names in the text of a formula, next to numerals, truth values and functions. They agree but
for the spellings of the two truth values. A whole text is reported as an unbound name if and only
if it can name a variable and is no truth value, and so no other variables than those named like a
truth value are misread.
-/

namespace PriorityFormula

/-! ### The names in a formula -/

namespace Reader

/-- The names in a tree, from left to right. -/
def Tree.names : Tree → List (List Char)
  | .number .. | .truth _ => []
  | .name text => [text]
  | .rounded _ inner => inner.names
  | .binary _ left right => left.names ++ right.names
  | .choice condition ifTrue otherwise => condition.names ++ (ifTrue.names ++ otherwise.names)

/-- The names in a tree are among the tokens that stand for it. -/
lemma Groups.name_mem {level : Level} {ts : List Token} {tree : Tree} (h : Groups level ts tree)
    {text : List Char} (hmem : text ∈ tree.names) : .name text ∈ ts := by
  induction h with
  | number _ _ _ | truth _ => cases hmem
  | name text' =>
    obtain rfl := List.mem_singleton.mp hmem
    exact List.mem_singleton_self _
  | rounded mode _ ih | grouped _ ih => simp [ih hmem]
  | binary op _ _ ihLeft ihRight =>
    rcases List.mem_append.mp hmem with hleft | hright
    · simp [ihLeft hleft]
    · simp [ihRight hright]
  | choice _ _ _ ihCondition ihIfTrue ihOtherwise =>
    rcases List.mem_append.mp hmem with hcondition | hbranch
    · simp [ihCondition hcondition]
    · rcases List.mem_append.mp hbranch with hifTrue | hotherwise
      · simp [ihIfTrue hifTrue]
      · simp [ihOtherwise hotherwise]
  | loosen _ ih => exact ih hmem

/-- The tokens that a text spells are well formed. -/
lemma Spelled.wellFormed {ts : List Token} {text : List Char} (h : Spelled ts text) :
    ∀ t ∈ ts, t.WellFormed := by
  induction h with
  | nil spaces => exact List.forall_mem_nil _
  | cons spaces wellFormed _ _ ih => exact List.forall_mem_cons.mpr ⟨wellFormed, ih⟩

/-- A name in a formula has the form of a name and is no truth value. -/
lemma StandsFor.isName_of_mem_names {text name : List Char} {tree : Tree}
    (h : StandsFor text tree) (hmem : name ∈ tree.names) :
    isName name = true ∧ ∀ value, name ≠ Boolean.truthText value := by
  obtain ⟨ts, hspelled, hunambiguous, hgroups⟩ := h
  have htoken : .name name ∈ ts := hgroups.name_mem hmem
  exact ⟨hspelled.wellFormed _ htoken, hunambiguous _ htoken⟩

section Reports

variable {K : Type}

/-- Only a name in the tree is reported as unbound. -/
lemma Tree.Gives.mem_names {scope : Scope K} {tree : Tree} {name : String}
    (h : tree.Gives scope (.error (.unbound name))) : name.toList ∈ tree.names := by
  generalize hresult : Except.error (ReadFault.unbound name) = result at h
  induction h with
  | number _ _ | truth _ | bound _ | rounded _ _ _ | roundedNoNumber _ _ _
  | conditionNoTruth _ _ _ _ => cases hresult
  | unbound _ =>
    cases hresult
    rw [String.toList_ofList]
    exact List.mem_singleton_self _
  | binary _ _ hcombines _ _ =>
    -- An operator combines values, so its own faults name nothing.
    cases hcombines <;> cases hresult
  | roundedFault _ _ ih => exact ih hresult
  | leftFault _ _ _ ih | conditionFault _ _ _ ih => exact List.mem_append_left _ (ih hresult)
  | rightFault _ _ _ _ ih => exact List.mem_append_right _ (ih hresult)
  | ifTrue _ _ _ _ ih =>
    exact List.mem_append_right _ (List.mem_append_left _ (ih hresult))
  | otherwise _ _ _ _ ih =>
    exact List.mem_append_right _ (List.mem_append_right _ (ih hresult))

/-- Evaluating a text fails with a message. -/
def Reports (scope : Scope K) (text : List Char) (message : String) : Prop :=
  ∃ fault, evaluateText scope text = .error fault ∧ fault.message? = some message

/-- The wording of a fault that names an unbound variable tells the variable. -/
lemma ReadFault.eq_unbound_of_message? {fault : ReadFault} {name : String}
    (h : fault.message? = some ("Unbound variable " ++ name)) : fault = .unbound name := by
  cases fault with
  | malformed => cases h
  | expectedNumber | expectedBoolean =>
    have htext := congrArg String.toList (Option.some.inj h)
    simp [String.toList_append] at htext
  | unbound other =>
    have htext := congrArg String.toList (Option.some.inj h)
    rw [String.toList_append, String.toList_append, List.append_cancel_left_eq] at htext
    rw [String.toList_inj.mp htext]

/-- A name is reported as unbound only if it has the form of a name and is no truth value. -/
lemma Reports.isName {scope : Scope K} {text : List Char} {name : String}
    (h : Reports scope text ("Unbound variable " ++ name)) :
    isName name.toList = true ∧ ∀ value, name.toList ≠ Boolean.truthText value := by
  obtain ⟨fault, hfault, hmessage⟩ := h
  obtain rfl := ReadFault.eq_unbound_of_message? hmessage
  cases hread : read text with
  | none =>
    rw [evaluateText, hread] at hfault
    cases hfault
  | some e =>
    rw [evaluateText_eq scope ⟨e, hread, rfl⟩] at hfault
    have hstands : StandsFor text e.tree := exists_groups_of_read hread
    exact hstands.isName_of_mem_names (Tree.gives_iff.mpr hfault).mem_names

/-- The same meaning with other values for names. -/
def Scope.withLookup (scope : Scope K) (lookup : String → Option (Value K)) : Scope K :=
  { scope with lookup }

/-- A name that no value is known for is reported as unbound, the whole of it. -/
lemma reports_of_isNoTruthValue {scope : Scope K} {name : Name} (h : name.IsNoTruthValue)
    (hlookup : scope.lookup name.text = none) :
    Reports scope name.text.toList ("Unbound variable " ++ name.text) := by
  refine ⟨.unbound name.text, ?_, rfl⟩
  rw [evaluateText_eq scope h.spellsTerm.spells.exists_read_eq]
  simp only [Tree.evaluate, String.ofList_toList, hlookup]

end Reports

end Reader

open Reader (Scope Value Reports evaluateText)

/-! ### Variables that are read back -/

section ReadsBack

variable {A B K : Type}

/-- The statement that a variable is. -/
def Access.node (f : Format) : Access A B → Node A B f
  | number v => .numeric (.var v)
  | flag v => .boolean (.var v)

/-- In every context the text of a variable has the value of the variable, when its name stands for
that value. -/
def Access.ReadsBack (f : Format) (scope : Scope K) (v : Access A B) : Prop :=
  ∀ (I : Interpretation A B f K) (lookup : String → Option (Value K)),
    lookup v.name.text = some ((v.node f).evaluate I) →
      evaluateText (scope.withLookup lookup) (v.node f).text = .ok ((v.node f).evaluate I)

lemma Access.text_node (f : Format) (v : Access A B) :
    (v.node f).text = v.name.text.toList := by
  cases v <;> rfl

/-- A variable that is not named like a truth value is read back. -/
lemma Access.readsBack_of_isNoTruthValue {f : Format} {scope : Scope K} {v : Access A B}
    (h : v.name.IsNoTruthValue) : v.ReadsBack f scope := by
  intro I lookup hlookup
  rw [text_node, Reader.evaluateText_eq _ h.spellsTerm.spells.exists_read_eq]
  exact Reader.evaluate_name hlookup

/-- A variable that is named like a truth value is read as that value, and so not always as the
variable. -/
lemma Access.not_readsBack_of_text_eq {f : Format} {scope : Scope K} {v : Access A B}
    {value : Bool} (h : v.name.text.toList = Boolean.truthText value) : ¬ v.ReadsBack f scope := by
  intro hreads
  -- Here a number is anything, and a flag gives the other truth value.
  let I : Interpretation A B f K :=
    { arithmetic := scope.arithmetic, literal := fun _ => scope.numeral false ⟨0, 0⟩
      number := fun _ => scope.numeral false ⟨0, 0⟩, flag := fun _ => !value }
  have hback := hreads I (fun _ => some ((v.node f).evaluate I)) rfl
  rw [text_node, h,
    Reader.evaluateText_eq _ (Reader.spellsTerm_truthText value).spells.exists_read_eq] at hback
  cases v with
  | number v => cases hback
  | flag v => cases value <;> cases hback

/-- A variable is read back if and only if it is not named like a truth value. -/
lemma Access.readsBack_iff {f : Format} {scope : Scope K} {v : Access A B} :
    v.ReadsBack f scope ↔ v.name.IsNoTruthValue := by
  refine ⟨?_, readsBack_of_isNoTruthValue⟩
  intro hreads
  constructor
  · intro htrue
    have htext : v.name.text.toList = Boolean.truthText true := congrArg String.toList htrue
    exact not_readsBack_of_text_eq htext hreads
  · intro hfalse
    have htext : v.name.text.toList = Boolean.truthText false := congrArg String.toList hfalse
    exact not_readsBack_of_text_eq htext hreads

end ReadsBack

/-! ### Which texts are names -/

namespace Name

/-- A text is accepted as the name that is spelled like it. -/
lemma ofText_eq_ok_iff {text : String} {name : Name} :
    ofText text = .ok name ↔ name.text = text := by
  unfold ofText
  split
  · next h =>
    constructor
    · intro hname
      cases hname
      rfl
    · rintro rfl
      rfl
  · next h =>
    constructor
    · intro hname
      cases hname
    · rintro rfl
      exact absurd name.isName_text h

/-- Some name is like one of the truth values if and only if the text is that of one. -/
lemma exists_ofText_not_isNoTruthValue_iff (text : String) :
    (∃ name, ofText text = .ok name ∧ ¬ name.IsNoTruthValue) ↔ text = "true" ∨ text = "false" := by
  constructor
  · rintro ⟨name, hname, hvalue⟩
    obtain rfl := ofText_eq_ok_iff.mp hname
    by_contra hneither
    exact hvalue (not_or.mp hneither)
  · rintro (rfl | rfl)
    · exact ⟨⟨"true", by decide⟩, ofText_eq_ok_iff.mpr rfl, by decide⟩
    · exact ⟨⟨"false", by decide⟩, ofText_eq_ok_iff.mpr rfl, by decide⟩

end Name

/-- The reader and the check of names agree on what a name is. Evaluating a text where no name has a
value reports that whole text as an unbound variable if and only if the text can name a variable and
is neither `true` nor `false`. Accordingly these two are the only texts that are accepted as the
name of a variable whose text is not read back as the variable, be it a number or a truth value. -/
theorem reports_unbound_iff_isName (A B : Type) (f : Format) {K : Type} (scope : Scope K)
    (text : String) :
    (Reports (scope.withLookup fun _ => none) text.toList ("Unbound variable " ++ text) ↔
      isName text.toList = true ∧ text ≠ "true" ∧ text ≠ "false") ∧
    ∀ (a : A) (b : B),
      ((∃ name, Name.ofText text = .ok name ∧
          ¬ (Access.number ⟨name, a⟩ : Access A B).ReadsBack f scope) ↔
        text = "true" ∨ text = "false") ∧
      ((∃ name, Name.ofText text = .ok name ∧
          ¬ (Access.flag ⟨name, b⟩ : Access A B).ReadsBack f scope) ↔
        text = "true" ∨ text = "false") := by
  refine ⟨⟨?_, ?_⟩, ?_⟩
  · intro hreports
    obtain ⟨hname, hvalue⟩ := hreports.isName
    refine ⟨hname, ?_, ?_⟩
    · rintro rfl
      exact hvalue true rfl
    · rintro rfl
      exact hvalue false rfl
  · rintro ⟨hname, htrue, hfalse⟩
    let name : Name := ⟨text, hname⟩
    have hvalue : name.IsNoTruthValue := ⟨htrue, hfalse⟩
    exact Reader.reports_of_isNoTruthValue hvalue rfl
  · intro a b
    simp only [Access.readsBack_iff]
    exact ⟨Name.exists_ofText_not_isNoTruthValue_iff text,
      Name.exists_ofText_not_isNoTruthValue_iff text⟩

end PriorityFormula
