import PriorityFormula.Proofs.Chain.Additive
import PriorityFormula.Proofs.Chain.Logical
import PriorityFormula.Proofs.Statement.Laws
import PriorityFormula.Statement.Build

/-!
# Created chains

Creating a chain splits the first operand into its leftmost part and the rest, unrolls all further
operands and attaches everything with fresh identities. Building the operations one after the other
attaches the operands as they are. The one can be rearranged into the other, whatever the operands
are.
-/

namespace PriorityFormula

/-! ### Connectives -/

namespace Boolean

variable {B : Type}

/-- Creating a chain attaches the parts of all operands and takes one identity for each. -/
lemma run_createLogical (connective : Connective) (first : Boolean B) (rest : List (Boolean B))
    (σ : Session) :
    ∃ messages, (createLogical connective first rest).run σ =
      (chainFrom connective σ.nextIndex (first.splitHead connective).1
        ((first.splitHead connective).2 ++ rest.flatMap (parts connective)),
        ⟨σ.nextIndex + ((first.splitHead connective).2 ++
          rest.flatMap (parts connective)).length, messages⟩) := by
  obtain ⟨⟨head, behind⟩, hsplit⟩ : ∃ split, first.splitHead connective = split := ⟨_, rfl⟩
  rw [createLogical, hsplit, StateT.run_bind, run_attachParts]
  exact ⟨_, rfl⟩

/-- Joining the conditions of a list one after the other attaches them as they are. -/
lemma run_foldlM_newJoined (connective : Connective) (first : Boolean B)
    (rest : List (Boolean B)) (σ : Session) :
    (rest.foldlM (newJoined connective) first).run σ =
      (chainFrom connective σ.nextIndex first rest,
        { σ with nextIndex := σ.nextIndex + rest.length }) := by
  induction rest generalizing first σ with
  | nil => rfl
  | cons operand rest ih =>
    rw [List.foldlM_cons, StateT.run_bind]
    show (rest.foldlM (newJoined connective) (joined ⟨σ.nextIndex⟩ connective first operand)).run
      { σ with nextIndex := σ.nextIndex + 1 } = _
    rw [ih, chainFrom, List.length_cons, Nat.add_assoc, Nat.add_comm 1]

/-- The chain of the parts of a condition can be rearranged into the condition joined as it is. -/
lemma rearranged_chainFrom_parts (connective : Connective) (index : Nat) (head : Boolean B)
    (id : Id) (s : Boolean B) :
    (chainFrom connective index head (s.parts connective)).Rearranged
      (joined id connective head s) := by
  have hparts := Rearranged.of_withoutIds_eq
    (withoutIds_chainFrom_parts connective index head id s)
  exact hparts.trans (rearranged_appendParts connective head id s).symm

/-- The chain of what a condition is split into can be rearranged into the condition. -/
lemma rearranged_chainFrom_splitHead (connective : Connective) (index : Nat) (s : Boolean B) :
    (chainFrom connective index (s.splitHead connective).1 (s.splitHead connective).2).Rearranged
      s := by
  induction s with
  | literal value => exact .of_withoutIds_eq rfl
  | var v => exact .of_withoutIds_eq rfl
  | joined id own left right ihl ihr =>
    rw [splitHead]
    split
    · next hown =>
      subst hown
      rw [chainFrom_append]
      have hright := rearranged_chainFrom_parts own
        (index + (left.splitHead own).2.length)
        (chainFrom own index (left.splitHead own).1 (left.splitHead own).2) id right
      exact hright.trans (ihl.joined (.of_withoutIds_eq rfl) id id own)
    · exact .of_withoutIds_eq rfl
  | ternary id condition ifTrue otherwise => exact .of_withoutIds_eq rfl

/-- The chain of the parts of some conditions can be rearranged into the chain of the conditions. -/
lemma rearranged_chainFrom_flatMap_parts (connective : Connective) {head head' : Boolean B}
    (hhead : head.Rearranged head') (rest : List (Boolean B)) (index index' : Nat) :
    (chainFrom connective index head (rest.flatMap (parts connective))).Rearranged
      (chainFrom connective index' head' rest) := by
  induction rest generalizing head head' index index' with
  | nil => exact hhead
  | cons operand rest ih =>
    rw [List.flatMap_cons, chainFrom_append, chainFrom]
    have hattached := rearranged_chainFrom_parts connective index head ⟨index'⟩ operand
    exact ih (hattached.trans (hhead.joined (.of_withoutIds_eq rfl) _ _ connective)) _ _

/-- A created chain can be rearranged into the conditions joined one after the other. -/
lemma rearranged_createLogical (connective : Connective) (first : Boolean B)
    (rest : List (Boolean B)) (σ τ : Session) :
    ((createLogical connective first rest).run σ).1.Rearranged
      ((rest.foldlM (newJoined connective) first).run τ).1 := by
  obtain ⟨messages, hrun⟩ := run_createLogical connective first rest σ
  rw [hrun, run_foldlM_newJoined, chainFrom_append]
  exact rearranged_chainFrom_flatMap_parts connective
    (rearranged_chainFrom_splitHead connective _ first) rest _ _

end Boolean

/-! ### Sums and differences -/

namespace Numeric

variable {A B : Type} {f : Format}

/-- Creating a chain attaches the signed terms of all operands and takes one identity for each. -/
lemma run_createAdditive (sign : Sign) (first : Numeric A B f) (rest : List (Numeric A B f))
    (σ : Session) :
    ∃ messages, (createAdditive sign first rest).run σ =
      (chainFrom σ.nextIndex first.splitHead.1 (first.splitHead.2 ++ rest.flatMap (terms sign)),
        ⟨σ.nextIndex + (first.splitHead.2 ++ rest.flatMap (terms sign)).length, messages⟩) := by
  obtain ⟨⟨head, behind⟩, hsplit⟩ : ∃ split, first.splitHead = split := ⟨_, rfl⟩
  rw [createAdditive, hsplit, StateT.run_bind, run_attachTerms]
  exact ⟨_, rfl⟩

/-- Adding or subtracting the statements of a list one after the other attaches them as they are. -/
lemma run_foldlM_newAdditive (sign : Sign) (first : Numeric A B f) (rest : List (Numeric A B f))
    (σ : Session) :
    (rest.foldlM (newAdditive sign) first).run σ =
      (chainFrom σ.nextIndex first (rest.map (sign, ·)),
        { σ with nextIndex := σ.nextIndex + rest.length }) := by
  induction rest generalizing first σ with
  | nil => rfl
  | cons operand rest ih =>
    rw [List.foldlM_cons, StateT.run_bind]
    show (rest.foldlM (newAdditive sign) (additive ⟨σ.nextIndex⟩ sign first operand)).run
      { σ with nextIndex := σ.nextIndex + 1 } = _
    rw [ih, List.map_cons, chainFrom, List.length_cons, Nat.add_assoc, Nat.add_comm 1]

/-- The chain of the terms of a statement can be rearranged into the statement attached as it is. -/
lemma rearranged_chainFrom_terms (index : Nat) (head : Numeric A B f) (id : Id) (sign : Sign)
    (s : Numeric A B f) :
    (chainFrom index head (s.terms sign)).Rearranged (additive id sign head s) := by
  have hterms := Rearranged.of_withoutIds_eq (withoutIds_chainFrom_terms index head id sign s)
  exact hterms.trans (rearranged_appendTerms head id sign s).symm

/-- The chain of what a statement is split into can be rearranged into the statement. -/
lemma rearranged_chainFrom_splitHead (index : Nat) (s : Numeric A B f) :
    (chainFrom index s.splitHead.1 s.splitHead.2).Rearranged s := by
  induction s with
  | literal value => exact .of_withoutIds_eq rfl
  | var v => exact .of_withoutIds_eq rfl
  | additive id sign left right ihl ihr =>
    rw [splitHead, chainFrom_append]
    have hright := rearranged_chainFrom_terms (index + left.splitHead.2.length)
      (chainFrom index left.splitHead.1 left.splitHead.2) id sign right
    exact hright.trans (ihl.additive (.of_withoutIds_eq rfl) id id sign)
  | scaled id scaling left right => exact .of_withoutIds_eq rfl
  | round id mode operand => exact .of_withoutIds_eq rfl
  | ternary id condition ifTrue otherwise => exact .of_withoutIds_eq rfl

/-- The chain of the terms of some statements can be rearranged into the chain of the statements. -/
lemma rearranged_chainFrom_flatMap_terms (sign : Sign) {head head' : Numeric A B f}
    (hhead : head.Rearranged head') (rest : List (Numeric A B f)) (index index' : Nat) :
    (chainFrom index head (rest.flatMap (terms sign))).Rearranged
      (chainFrom index' head' (rest.map (sign, ·))) := by
  induction rest generalizing head head' index index' with
  | nil => exact hhead
  | cons operand rest ih =>
    rw [List.flatMap_cons, chainFrom_append, List.map_cons, chainFrom]
    have hattached := rearranged_chainFrom_terms index head ⟨index'⟩ sign operand
    exact ih (hattached.trans (hhead.additive (.of_withoutIds_eq rfl) _ _ sign)) _ _

/-- A created chain can be rearranged into the operands added or subtracted one after the other. -/
lemma rearranged_createAdditive (sign : Sign) (first : Numeric A B f)
    (rest : List (Numeric A B f)) (σ τ : Session) :
    ((createAdditive sign first rest).run σ).1.Rearranged
      ((rest.foldlM (newAdditive sign) first).run τ).1 := by
  obtain ⟨messages, hrun⟩ := run_createAdditive sign first rest σ
  rw [hrun, run_foldlM_newAdditive, chainFrom_append]
  exact rearranged_chainFrom_flatMap_terms sign (rearranged_chainFrom_splitHead _ first) rest _ _

end Numeric

end PriorityFormula
