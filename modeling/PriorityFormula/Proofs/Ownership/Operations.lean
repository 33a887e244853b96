import Mathlib.Algebra.Order.Group.Multiset
import Mathlib.Data.Multiset.MapFold
import PriorityFormula.Normalize.Boolean
import PriorityFormula.Normalize.Numeric
import PriorityFormula.Statement.Build

/-!
# Work that moves statements

A caller who is given a statement owns it. Handing it to an operation gives it up for good: no
statement is ever copied. What a caller owns at a moment, the live statements, is a multiset. It
shrinks when statements are dropped or handed over and it grows by what operations give back.

The relation `Moves` singles out the work that treats statements in this way. Such work is put
together from the operations that build statements, from those that normalize them, with
continuations that may own statements themselves and are again work of this kind, and from whatever
does not change the session. Nothing is assumed about the faults that occur on the way: work that
fails gives nothing back.
-/

namespace PriorityFormula

variable {A B : Type} {f : Format}

/-- The operations that always build a statement. `Builds node taken work` says that `work` is one
of them and takes the statements `taken`; `node` is the value type of the result. -/
inductive Builds : {S : Type} → (S → Node A B f) → Multiset (Node A B f) → Work S → Prop
  | additive (sign : Sign) (left right : Numeric A B f) :
    Builds .numeric ({.numeric left} + {.numeric right}) (Numeric.newAdditive sign left right)
  | product (left right : Numeric A B f) :
    Builds .numeric ({.numeric left} + {.numeric right}) (Numeric.newProduct left right)
  | round (mode : Rounding) (operand : Numeric A B f) :
    Builds .numeric {.numeric operand} (Numeric.newRound mode operand)
  | numericTernary (condition : Boolean B) (ifTrue otherwise : Numeric A B f) :
    Builds .numeric ({.boolean condition} + {.numeric ifTrue} + {.numeric otherwise})
      (Numeric.newTernary condition ifTrue otherwise)
  | joined (connective : Connective) (left right : Boolean B) :
    Builds .boolean ({.boolean left} + {.boolean right})
      (Boolean.newJoined connective left right)
  | booleanTernary (condition ifTrue otherwise : Boolean B) :
    Builds .boolean ({.boolean condition} + {.boolean ifTrue} + {.boolean otherwise})
      (Boolean.newTernary condition ifTrue otherwise)
  | createAdditive (sign : Sign) (first : Numeric A B f) (rest : List (Numeric A B f)) :
    Builds .numeric ({.numeric first} + Multiset.map .numeric rest)
      (Numeric.createAdditive sign first rest)
  | createLogical (connective : Connective) (first : Boolean B) (rest : List (Boolean B)) :
    Builds .boolean ({.boolean first} + Multiset.map .boolean rest)
      (Boolean.createLogical connective first rest)

/-- The operations that build a statement or fail. -/
inductive Tries : {S : Type} → (S → Node A B f) → Multiset (Node A B f) → Attempt S → Prop
  | literal (value : Number f) :
    Tries .numeric 0 (do return .literal (← FiniteNumber.ofNumber value))
  | number (name : String) (accessor : A) :
    Tries .numeric 0 (do return .var ⟨← Name.ofText name, accessor⟩)
  | flag (name : String) (accessor : B) :
    Tries .boolean 0 (do return .var ⟨← Name.ofText name, accessor⟩)
  | scaled (scaling : Scaling) (left right : Numeric A B f) :
    Tries .numeric ({.numeric left} + {.numeric right}) (Numeric.newScaled scaling left right)
  | additiveOfOperands (sign : Sign) (operands : List (Numeric A B f)) :
    Tries .numeric (Multiset.map .numeric operands) (Numeric.additiveOfOperands sign operands)
  | scaledOfOperands (scaling : Scaling) (operands : List (Numeric A B f)) :
    Tries .numeric (Multiset.map .numeric operands) (Numeric.scaledOfOperands scaling operands)
  | roundOfOperands (mode : Rounding) (operands : List (Numeric A B f)) :
    Tries .numeric (Multiset.map .numeric operands) (Numeric.roundOfOperands mode operands)
  | joinedOfOperands (connective : Connective) (operands : List (Boolean B)) :
    Tries .boolean (Multiset.map .boolean operands) (Boolean.joinedOfOperands connective operands)
  | createScaled (scaling : Scaling) (first : Numeric A B f) (rest : List (Numeric A B f)) :
    Tries .numeric ({.numeric first} + Multiset.map .numeric rest)
      (Numeric.createScaled scaling first rest)
  | createRound (mode : Rounding) (operand : Numeric A B f) :
    Tries .numeric {.numeric operand} (Numeric.createRound mode operand)
  | createNumericTernary (condition : Boolean B) (ifTrue otherwise : Numeric A B f) :
    Tries .numeric ({.boolean condition} + {.numeric ifTrue} + {.numeric otherwise})
      (Numeric.createTernary condition ifTrue otherwise)
  | createBooleanTernary (condition ifTrue otherwise : Boolean B) :
    Tries .boolean ({.boolean condition} + {.boolean ifTrue} + {.boolean otherwise})
      (Boolean.createTernary condition ifTrue otherwise)

/-- What is given back by work that may fail: nothing if it fails. -/
def onSuccess {T : Type} (given : T → Multiset (Node A B f)) :
    Except Fault T → Multiset (Node A B f)
  | .ok t => given t
  | .error _ => 0

/-- `Moves taken work given`: `work` takes the statements `taken` and gives the statements `given t`
back when its result is `t`, without copying any on the way. -/
inductive Moves : {T : Type} → Multiset (Node A B f) → Work T → (T → Multiset (Node A B f)) → Prop
  /-- Giving everything back is a way to end. -/
  | done {T : Type} {given : T → Multiset (Node A B f)} (t : T) : Moves (given t) (pure t) given
  /-- Statements may be dropped. -/
  | dropped {T : Type} {work : Work T} {given : T → Multiset (Node A B f)}
    {taken kept : Multiset (Node A B f)} (hkept : kept ≤ taken) (hwork : Moves kept work given) :
    Moves taken work given
  /-- Literals and variables are there without further ado. -/
  | leaf {T : Type} {work : Work T} {given : T → Multiset (Node A B f)}
    {taken : Multiset (Node A B f)} {s : Node A B f} (hs : s.arity = 0)
    (hwork : Moves (taken + {s}) work given) : Moves taken work given
  | built {S : Type} {node : S → Node A B f} {taken : Multiset (Node A B f)} {work : Work S}
    (hwork : Builds node taken work) : Moves taken work fun s => {node s}
  | tried {S : Type} {node : S → Node A B f} {taken : Multiset (Node A B f)} {attempt : Attempt S}
    (hattempt : Tries node taken attempt) :
    Moves taken attempt.run (onSuccess fun s => {node s})
  /-- A numeric statement is normalized. The continuations own the statements `captured`. -/
  | numeric {T : Type} {given : T → Multiset (Node A B f)} {s : Numeric A B f}
    {captured : Multiset (Node A B f)} {onNormalized onUnchanged : Numeric A B f → Work T}
    (hnormalized : ∀ r, Moves ({.numeric r} + captured) (onNormalized r) given)
    (hunchanged : ∀ r, Moves ({.numeric r} + captured) (onUnchanged r) given) :
    Moves ({.numeric s} + captured) (s.normalizeNodeWith onNormalized onUnchanged).run
      (onSuccess given)
  /-- A condition is normalized. The continuations own the statements `captured`. -/
  | boolean {T : Type} {given : T → Multiset (Node A B f)} {s : Boolean B}
    {captured : Multiset (Node A B f)} {onNormalized onUnchanged : Boolean B → Work T}
    (hnormalized : ∀ r, Moves ({.boolean r} + captured) (onNormalized r) given)
    (hunchanged : ∀ r, Moves ({.boolean r} + captured) (onUnchanged r) given) :
    Moves ({.boolean s} + captured) (s.normalizeNodeWith onNormalized onUnchanged).run
      (onSuccess given)
  /-- Messages do not matter. -/
  | recorded {taken : Multiset (Node A B f)} (message : Message) :
    Moves taken (record message) fun _ => taken
  /-- Further work follows. It takes what the first piece of work gave and `others` besides. -/
  | followed {T U : Type} {work : Work T} {next : T → Work U} {given : T → Multiset (Node A B f)}
    {given' : U → Multiset (Node A B f)} {taken : Multiset (Node A B f)}
    (others : Multiset (Node A B f)) (hwork : Moves taken work given)
    (hnext : ∀ t, Moves (given t + others) (next t) given') :
    Moves (taken + others) (work >>= next) given'

namespace Moves

variable {T U : Type} {taken captured : Multiset (Node A B f)}

/-- Ending with some of what is owned drops the rest. -/
lemma pure_of_le {given : T → Multiset (Node A B f)} {t : T} (h : given t ≤ taken) :
    Moves taken (pure t) given :=
  dropped h (done t)

/-- Further work takes what the first piece of work gave, and nothing else. -/
lemma andThen {work : Work T} {next : T → Work U} {given : T → Multiset (Node A B f)}
    {given' : U → Multiset (Node A B f)} (hwork : Moves taken work given)
    (hnext : ∀ t, Moves (given t) (next t) given') : Moves taken (work >>= next) given' := by
  have hfollowed : (∀ t, Moves (given t + 0) (next t) given') →
      Moves (taken + 0) (work >>= next) given' := followed 0 hwork
  simp only [add_zero] at hfollowed
  exact hfollowed hnext

/-- An operation may have a literal or a variable as its last operand. -/
lemma builtOnLeaf {S : Type} {node : S → Node A B f} {work : Work S} {leaf : Node A B f}
    (hwork : Builds node (taken + {leaf}) work) (hleaf : leaf.arity = 0) :
    Moves taken work fun s => {node s} :=
  .leaf hleaf (built hwork)

/-- Announcing a message first changes nothing. -/
lemma afterRecord {work : Work T} {given : T → Multiset (Node A B f)} (message : Message)
    (hwork : Moves taken work given) : Moves taken (record message >>= fun _ => work) given :=
  andThen (recorded message) fun _ => hwork

/-- A numeric statement is announced and normalized. -/
lemma normalizeNumeric {given : T → Multiset (Node A B f)} {s : Numeric A B f}
    {onNormalized onUnchanged : Numeric A B f → Work T}
    (hnormalized : ∀ r, Moves ({.numeric r} + captured) (onNormalized r) given)
    (hunchanged : ∀ r, Moves ({.numeric r} + captured) (onUnchanged r) given) :
    Moves ({.numeric s} + captured) (s.normalizeWith onNormalized onUnchanged).run
      (onSuccess given) :=
  afterRecord _ (numeric hnormalized hunchanged)

/-- A condition is announced and normalized. -/
lemma normalizeBoolean {given : T → Multiset (Node A B f)} {s : Boolean B}
    {onNormalized onUnchanged : Boolean B → Work T}
    (hnormalized : ∀ r, Moves ({.boolean r} + captured) (onNormalized r) given)
    (hunchanged : ∀ r, Moves ({.boolean r} + captured) (onUnchanged r) given) :
    Moves ({.boolean s} + captured) (s.normalizeWith onNormalized onUnchanged).run
      (onSuccess given) :=
  afterRecord _ (boolean hnormalized hunchanged)

/-- Normalizing a numeric statement and reporting the outcome. -/
lemma tryNormalizeNumeric (s : Numeric A B f) :
    Moves {.numeric s} s.tryNormalize.run (onSuccess fun n => {.numeric n.statement}) := by
  rw [← add_zero {Node.numeric s}]
  refine normalizeNumeric (fun r => ?_) fun r => ?_
  · exact pure_of_le (Multiset.le_add_right _ _)
  · exact pure_of_le (Multiset.le_add_right _ _)

/-- Normalizing a condition and reporting the outcome. -/
lemma tryNormalizeBoolean (s : Boolean B) :
    Moves (A := A) (f := f) {.boolean s} s.tryNormalize.run
      (onSuccess fun n => {.boolean n.statement}) := by
  rw [← add_zero {Node.boolean s}]
  refine normalizeBoolean (fun r => ?_) fun r => ?_
  · exact pure_of_le (Multiset.le_add_right _ _)
  · exact pure_of_le (Multiset.le_add_right _ _)

/-- A continuation that may be missing. -/
lemma optional {S : Type} {node : S → Node A B f} {continuation : Option (S → Work S)}
    (h : ∀ k ∈ continuation, ∀ r, Moves ({node r} + captured) (k r) fun r => {node r}) (r : S) :
    Moves ({node r} + captured) (continueWith continuation r) fun r => {node r} := by
  cases continuation with
  | none => exact pure_of_le (Multiset.le_add_right _ _)
  | some k => exact h k rfl r

/-- A numeric statement is normalized with continuations that may be missing. -/
lemma normalizeNumericOptional {s : Numeric A B f}
    {onNormalized onUnchanged : Option (Numeric A B f → Work (Numeric A B f))}
    (hnormalized : ∀ k ∈ onNormalized, ∀ r,
      Moves ({.numeric r} + captured) (k r) fun r => {.numeric r})
    (hunchanged : ∀ k ∈ onUnchanged, ∀ r,
      Moves ({.numeric r} + captured) (k r) fun r => {.numeric r}) :
    Moves ({.numeric s} + captured) (s.normalize onNormalized onUnchanged).run
      (onSuccess fun r => {.numeric r}) :=
  normalizeNumeric (optional hnormalized) (optional hunchanged)

/-- A condition is normalized with continuations that may be missing. -/
lemma normalizeBooleanOptional {s : Boolean B}
    {onNormalized onUnchanged : Option (Boolean B → Work (Boolean B))}
    (hnormalized : ∀ k ∈ onNormalized, ∀ r,
      Moves ({.boolean r} + captured) (k r) fun r => {.boolean r})
    (hunchanged : ∀ k ∈ onUnchanged, ∀ r,
      Moves ({.boolean r} + captured) (k r) fun r => {.boolean r}) :
    Moves ({.boolean s} + captured) (s.normalize onNormalized onUnchanged).run
      (onSuccess fun r => {.boolean r}) :=
  normalizeBoolean (optional hnormalized) (optional hunchanged)

end Moves

/-- A state of a session with the statements that are live in it: some work that begins without
statements leads there from a new session. -/
def Reachable (live : Multiset (Node A B f)) (σ : Session) : Prop :=
  ∃ (T : Type) (work : Work T) (given : T → Multiset (Node A B f)) (t : T),
    Moves 0 work given ∧ work.run .start = (t, σ) ∧ given t = live

namespace Reachable

/-- A new session is reachable. -/
lemma start : Reachable (0 : Multiset (Node A B f)) .start :=
  ⟨Unit, pure (), fun _ => 0, (), .pure_of_le le_rfl, rfl, rfl⟩

/-- Work leads from reachable states to reachable ones, whatever statements it takes. Every moment
of a session is reached in this way, also those while a continuation is running, since normalizing
with continuations is normalizing and then going on. -/
lemma step {T : Type} {taken others : Multiset (Node A B f)} {work : Work T}
    {given : T → Multiset (Node A B f)} {t : T} {σ σ' : Session}
    (h : Reachable (taken + others) σ) (hwork : Moves taken work given)
    (hrun : work.run σ = (t, σ')) : Reachable (given t + others) σ' := by
  obtain ⟨S, before, kept, s, hbefore, hbeforeRun, hkept⟩ := h
  classical
  -- The work only fits what is live in the given state, so another state has to end differently.
  let next (s : S) : Work (Option T) :=
    if kept s = taken + others then work >>= fun t => pure (some t) else pure none
  let live (result : Option T) : Multiset (Node A B f) :=
    match result with
    | some t => given t + others
    | none => 0
  refine ⟨Option T, before >>= next, live, some t, ?_, ?_, rfl⟩
  · refine hbefore.andThen ?_
    intro s
    show Moves (kept s) (if _ then _ else _) live
    split
    · next hs =>
      rw [hs]
      exact .followed others hwork fun t => .pure_of_le le_rfl
    · exact .pure_of_le (Multiset.zero_le _)
  · rw [StateT.run_bind, hbeforeRun]
    show ((if kept s = taken + others then _ else _ : Work (Option T)).run σ) = _
    rw [if_pos hkept, StateT.run_bind, hrun]
    rfl

/-- Work that takes all live statements leads from reachable states to reachable ones. -/
lemma stepAll {T : Type} {live : Multiset (Node A B f)} {work : Work T}
    {given : T → Multiset (Node A B f)} {t : T} {σ σ' : Session} (h : Reachable live σ)
    (hwork : Moves live work given) (hrun : work.run σ = (t, σ')) : Reachable (given t) σ' := by
  rw [← add_zero live] at h
  have hstep := h.step hwork hrun
  rwa [add_zero] at hstep

end Reachable

end PriorityFormula
