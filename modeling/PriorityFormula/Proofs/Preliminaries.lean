import Mathlib.Data.List.Nodup
import Mathlib.Logic.Relation

/-!
# Lists and generated equivalences

Facts that mention nothing of formulas: where a run of elements ends, how a list is searched, in
particular for a key, and what the equivalence generated by a relation takes over from it.
-/

namespace PriorityFormula

/-! ### Runs of elements -/

/-- A run of elements ends where the list behind it does not continue it. -/
lemma takeWhile_dropWhile_append {α : Type} {p : α → Bool} {s rest : List α}
    (hs : ∀ c ∈ s, p c = true) (hrest : ∀ c ∈ rest.head?, ¬ p c = true) :
    (s ++ rest).takeWhile p = s ∧ (s ++ rest).dropWhile p = rest := by
  rw [List.takeWhile_append_of_pos hs, List.dropWhile_append_of_pos hs]
  cases rest with
  | nil => simp
  | cons c rest =>
    have hc : ¬ p c = true := hrest c rfl
    rw [List.takeWhile_cons_of_neg hc, List.dropWhile_cons_of_neg hc, List.append_nil]
    exact ⟨rfl, rfl⟩

/-! ### Searching a list -/

/-- A search through a list takes what it finds for the first element, or else goes on. -/
lemma findSome?_cons_eq_or {α β : Type} (g : α → Option β) (a : α) (l : List α) :
    (a :: l).findSome? g = (g a).or (l.findSome? g) := by
  rw [List.findSome?_cons]
  cases g a <;> rfl

section Keys

variable {S K : Type} [DecidableEq K]

/-- An element with a key is passed over unless it is the key that is looked for. -/
lemma find?_cons_of_key_eq_some (key : S → Option K) {u : S} {own : K} (hu : key u = some own)
    (id : K) (rest : List S) :
    (u :: rest).find? (key · == some id) =
      if own = id then some u else rest.find? (key · == some id) := by
  have hiff : (key u == some id) = true ↔ own = id := by rw [hu, beq_iff_eq, Option.some_inj]
  split
  · next hown => exact List.find?_cons_of_pos (p := (key · == some id)) (hiff.mpr hown)
  · next hown => exact List.find?_cons_of_neg (p := (key · == some id)) (mt hiff.mp hown)

variable {key : S → Option K}

/-- Where no key occurs twice, an element is found by its key. -/
lemma find?_eq_some_of_nodup {l : List S} (h : (l.filterMap key).Nodup) {t : S} (ht : t ∈ l)
    {id : K} (hkey : key t = some id) : l.find? (key · == some id) = some t := by
  induction l with
  | nil => cases ht
  | cons u rest ih =>
    have hmem : t ∈ rest → id ∈ rest.filterMap key :=
      fun hrest => List.mem_filterMap.mpr ⟨t, hrest, hkey⟩
    cases hu : key u with
    | none =>
      have hpass : ¬(key u == some id) = true := by rw [hu]; exact Bool.false_ne_true
      have htu : t ≠ u := fun heq => by rw [heq, hu] at hkey; cases hkey
      rw [List.filterMap_cons_none hu] at h
      rw [List.find?_cons_of_neg (p := (key · == some id)) hpass]
      exact ih h ((List.mem_cons.mp ht).resolve_left htu)
    | some own =>
      rw [List.filterMap_cons_some hu, List.nodup_cons] at h
      rw [find?_cons_of_key_eq_some key hu]
      obtain rfl | hrest := List.mem_cons.mp ht
      · rw [if_pos (Option.some_inj.mp (hu.symm.trans hkey))]
      · have hne : own ≠ id := fun heq => h.1 (heq ▸ hmem hrest)
        rw [if_neg hne]
        exact ih h.2 hrest

/-- Where no key occurs twice, an element is known from its key. -/
lemma eq_of_key_eq_of_nodup {l : List S} (h : (l.filterMap key).Nodup) {t u : S} (ht : t ∈ l)
    (hu : u ∈ l) {id : K} (hkey : key t = some id) (hkey' : key u = some id) : t = u := by
  have hfind := find?_eq_some_of_nodup h ht hkey
  rw [find?_eq_some_of_nodup h hu hkey', Option.some_inj] at hfind
  exact hfind.symm

end Keys

/-! ### Generated equivalences -/

/-- A function that takes related elements to related elements respects the generated
equivalences. -/
lemma eqvGen_map {α β : Type} {r : α → α → Prop} {p : β → β → Prop} {g : α → β}
    (hg : ∀ x y, r x y → p (g x) (g y)) {x y : α} (h : Relation.EqvGen r x y) :
    Relation.EqvGen p (g x) (g y) := by
  have hequivalence := (Relation.EqvGen.is_equivalence p).comap g
  refine hequivalence.eqvGen_iff.mp (Relation.EqvGen.mono ?_ _ _ h)
  intro x y hxy
  exact .rel _ _ (hg x y hxy)

/-- What related elements have in common, equivalent ones have in common. -/
lemma eq_of_eqvGen {α β : Type} {r : α → α → Prop} {g : α → β} (hg : ∀ x y, r x y → g x = g y)
    {x y : α} (h : Relation.EqvGen r x y) : g x = g y :=
  (eq_equivalence.comap g).eqvGen_iff.mp (Relation.EqvGen.mono hg _ _ h)

end PriorityFormula
