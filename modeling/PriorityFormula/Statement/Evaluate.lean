import PriorityFormula.Statement.Basic

/-!
# Evaluation

Evaluating a statement gives its value and the variables that were read on the way, in order. The
left operand is read before the right one, a connective looks at its right condition only if the
left one does not settle it, and a ternary looks at its condition and then at the selected branch
only. Each of these rules is an equation for the reads of a statement.

Numbers are interpreted through an `Arithmetic`, so that one evaluation serves the numbers of a
format as well as exact ones.
-/

namespace PriorityFormula

/-- The operations that statements apply to numbers. -/
structure Arithmetic (K : Type) where
  add : K → K → K
  subtract : K → K → K
  multiply : K → K → K
  divide : K → K → K
  round : Rounding → K → K

namespace Arithmetic

variable {K : Type}

/-- Puts a term with a sign behind a number. -/
def attach (arithmetic : Arithmetic K) : Sign → K → K → K
  | .plus => arithmetic.add
  | .minus => arithmetic.subtract

/-- Scales a number by a factor. -/
def scale (arithmetic : Arithmetic K) : Scaling → K → K → K
  | .multiply => arithmetic.multiply
  | .divide => arithmetic.divide

end Arithmetic

/-- The arithmetic of a format, in which each operation rounds once. -/
def Number.arithmetic (f : Format) : Arithmetic (Number f) where
  add := Number.add
  subtract := Number.subtract
  multiply := Number.multiply
  divide := Number.divide
  round := Number.round

/-- The meaning of everything in a statement that is not an operation of logic: the arithmetic, the
values of literals, and what the accessors give. -/
structure Interpretation (A B : Type) (f : Format) (K : Type) where
  arithmetic : Arithmetic K
  literal : FiniteNumber f → K
  number : A → K
  flag : B → Bool

/-- A value together with the reads that led to it, in order. -/
@[ext]
structure Traced (E α : Type) where
  value : α
  reads : List E
  deriving DecidableEq, Repr

namespace Traced

variable {E E' α β : Type}

instance : Monad (Traced E) where
  pure value := ⟨value, []⟩
  bind x next := ⟨(next x.value).value, x.reads ++ (next x.value).reads⟩

/-- The same value with the reads seen as others. -/
def mapReads (see : E → E') (x : Traced E α) : Traced E' α :=
  ⟨x.value, x.reads.map see⟩

@[simp] theorem value_pure (value : α) : (pure value : Traced E α).value = value := rfl

@[simp] theorem reads_pure (value : α) : (pure value : Traced E α).reads = [] := rfl

@[simp] theorem value_bind (x : Traced E α) (next : α → Traced E β) :
    (x >>= next).value = (next x.value).value := rfl

@[simp] theorem reads_bind (x : Traced E α) (next : α → Traced E β) :
    (x >>= next).reads = x.reads ++ (next x.value).reads := rfl

@[simp] theorem reads_mapReads (see : E → E') (x : Traced E α) :
    (x.mapReads see).reads = x.reads.map see := rfl

@[simp] theorem reads_ite (c : Prop) [Decidable c] (x y : Traced E α) :
    (if c then x else y).reads = if c then x.reads else y.reads :=
  apply_ite Traced.reads c x y

end Traced

namespace Boolean

variable {B : Type}

/-- The truth value of a statement and the variables read for it. -/
def trace (flag : B → Bool) : Boolean B → Traced (Variable B) Bool
  | literal value => pure value
  | var v => ⟨flag v.accessor, [v]⟩
  | joined _ connective left right => do
    let first ← left.trace flag
    if connective.settles first then pure first else right.trace flag
  | ternary _ condition ifTrue otherwise => do
    if ← condition.trace flag then ifTrue.trace flag else otherwise.trace flag

/-- The truth value of a statement. -/
def evaluate (flag : B → Bool) (s : Boolean B) : Bool :=
  (s.trace flag).value

variable (flag : B → Bool)

@[simp] theorem evaluate_literal (value : Bool) :
    (literal value : Boolean B).evaluate flag = value := rfl

@[simp] theorem evaluate_var (v : Variable B) : (var v).evaluate flag = flag v.accessor := rfl

@[simp] theorem evaluate_joined (id : Id) (connective : Connective) (left right : Boolean B) :
    (joined id connective left right).evaluate flag =
      if connective.settles (left.evaluate flag) then left.evaluate flag
      else right.evaluate flag :=
  apply_ite Traced.value ..

@[simp] theorem evaluate_ternary (id : Id) (condition ifTrue otherwise : Boolean B) :
    (ternary id condition ifTrue otherwise).evaluate flag =
      if condition.evaluate flag then ifTrue.evaluate flag else otherwise.evaluate flag :=
  apply_ite Traced.value ..

@[simp] theorem reads_trace_literal (value : Bool) :
    ((literal value : Boolean B).trace flag).reads = [] := rfl

@[simp] theorem reads_trace_var (v : Variable B) : ((var v).trace flag).reads = [v] := rfl

/-- The right condition is read only if the left one does not settle the connective. -/
@[simp] theorem reads_trace_joined (id : Id) (connective : Connective) (left right : Boolean B) :
    ((joined id connective left right).trace flag).reads = (left.trace flag).reads ++
      if connective.settles (left.evaluate flag) then [] else (right.trace flag).reads := by
  rw [trace, Traced.reads_bind, Traced.reads_ite]
  rfl

/-- Behind the condition of a ternary only the selected branch is read. -/
@[simp] theorem reads_trace_ternary (id : Id) (condition ifTrue otherwise : Boolean B) :
    ((ternary id condition ifTrue otherwise).trace flag).reads = (condition.trace flag).reads ++
      if condition.evaluate flag then (ifTrue.trace flag).reads
      else (otherwise.trace flag).reads := by
  rw [trace, Traced.reads_bind, Traced.reads_ite]
  rfl

end Boolean

/-- A variable that was read. -/
inductive Access (A B : Type) where
  | number (v : Variable A)
  | flag (v : Variable B)
  deriving DecidableEq

namespace Numeric

variable {A B K : Type} {f : Format}

/-- The number a statement stands for and the variables read for it. -/
def trace (I : Interpretation A B f K) : Numeric A B f → Traced (Access A B) K
  | literal value => pure (I.literal value)
  | var v => ⟨I.number v.accessor, [.number v]⟩
  | additive _ sign left right => do
    let x ← left.trace I
    let y ← right.trace I
    pure (I.arithmetic.attach sign x y)
  | scaled _ scaling left right => do
    let x ← left.trace I
    let y ← right.trace I
    pure (I.arithmetic.scale scaling x y)
  | round _ mode operand => do
    let x ← operand.trace I
    pure (I.arithmetic.round mode x)
  | ternary _ condition ifTrue otherwise => do
    if ← (condition.trace I.flag).mapReads .flag then ifTrue.trace I else otherwise.trace I

/-- The number a statement stands for. -/
def evaluate (I : Interpretation A B f K) (s : Numeric A B f) : K :=
  (s.trace I).value

variable (I : Interpretation A B f K)

@[simp] theorem evaluate_literal (value : FiniteNumber f) :
    (literal value).evaluate I = I.literal value := rfl

@[simp] theorem evaluate_var (v : Variable A) : (var v).evaluate I = I.number v.accessor := rfl

@[simp] theorem evaluate_additive (id : Id) (sign : Sign) (left right : Numeric A B f) :
    (additive id sign left right).evaluate I =
      I.arithmetic.attach sign (left.evaluate I) (right.evaluate I) := rfl

@[simp] theorem evaluate_scaled (id : Id) (scaling : Scaling) (left right : Numeric A B f) :
    (scaled id scaling left right).evaluate I =
      I.arithmetic.scale scaling (left.evaluate I) (right.evaluate I) := rfl

@[simp] theorem evaluate_round (id : Id) (mode : Rounding) (operand : Numeric A B f) :
    (round id mode operand).evaluate I = I.arithmetic.round mode (operand.evaluate I) := rfl

@[simp] theorem evaluate_ternary (id : Id) (condition : Boolean B)
    (ifTrue otherwise : Numeric A B f) :
    (ternary id condition ifTrue otherwise).evaluate I =
      if condition.evaluate I.flag then ifTrue.evaluate I else otherwise.evaluate I :=
  apply_ite Traced.value ..

@[simp] theorem reads_trace_literal (value : FiniteNumber f) :
    ((literal value : Numeric A B f).trace I).reads = [] := rfl

@[simp] theorem reads_trace_var (v : Variable A) :
    ((var v : Numeric A B f).trace I).reads = [.number v] := rfl

@[simp] theorem reads_trace_additive (id : Id) (sign : Sign) (left right : Numeric A B f) :
    ((additive id sign left right).trace I).reads =
      (left.trace I).reads ++ (right.trace I).reads := by
  simp [trace]

@[simp] theorem reads_trace_scaled (id : Id) (scaling : Scaling) (left right : Numeric A B f) :
    ((scaled id scaling left right).trace I).reads =
      (left.trace I).reads ++ (right.trace I).reads := by
  simp [trace]

@[simp] theorem reads_trace_round (id : Id) (mode : Rounding) (operand : Numeric A B f) :
    ((round id mode operand).trace I).reads = (operand.trace I).reads := by
  simp [trace]

/-- Behind the condition of a ternary only the selected branch is read. -/
@[simp] theorem reads_trace_ternary (id : Id) (condition : Boolean B)
    (ifTrue otherwise : Numeric A B f) :
    ((ternary id condition ifTrue otherwise).trace I).reads =
      (condition.trace I.flag).reads.map .flag ++
        if condition.evaluate I.flag then (ifTrue.trace I).reads
        else (otherwise.trace I).reads := by
  rw [trace, Traced.reads_bind, Traced.reads_mapReads, Traced.reads_ite]
  rfl

end Numeric

end PriorityFormula
