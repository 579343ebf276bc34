import Mathlib.Tactic

/-!
# Finite maps with unique keys

A `Table` is an association list no key of which occurs twice. It stands for a hash map of an
imperative program: `find?` reads a key, `set` replaces or adds a binding, `mapValues` and
`filter` are the two kinds of sweep over all bindings. Every operation is described by the result
of `find?` after it, so that a proof about a program never unfolds the list.

The order of the list is the order of a sweep. `filterMap_flatMap_entries` isolates what a sweep
emits for one key, which does not depend on that order.
-/

set_option autoImplicit false

namespace DeepKernel.Lib

universe u v w

variable {κ : Type u} {ν : Type v} {β : Type w}

/-- A finite map: an association list with pairwise different keys. -/
structure Table (κ : Type u) (ν : Type v) where
  entries : List (κ × ν)
  nodup : (entries.map Prod.fst).Nodup

namespace Table

theorem ext_entries {t t' : Table κ ν} (h : t.entries = t'.entries) : t = t' := by
  cases t
  cases t'
  congr

/-! ## Association lists -/

section Assoc

variable [DecidableEq κ]

/-- The first binding of a key. -/
def assoc (k : κ) : List (κ × ν) → Option ν
  | [] => none
  | e :: es => if e.1 = k then some e.2 else assoc k es

/-- Replace the first binding of a key, or add one at the end. -/
def assocSet (k : κ) (v : ν) : List (κ × ν) → List (κ × ν)
  | [] => [(k, v)]
  | e :: es => if e.1 = k then (k, v) :: es else e :: assocSet k v es

theorem assoc_eq_none_of_notMem {k : κ} :
    ∀ {es : List (κ × ν)}, k ∉ es.map Prod.fst → assoc k es = none
  | [], _ => rfl
  | e :: es, h => by
      simp only [List.map_cons, List.mem_cons, not_or] at h
      simp only [assoc, if_neg (Ne.symm h.1)]
      exact assoc_eq_none_of_notMem h.2

theorem assoc_assocSet (k k' : κ) (v : ν) (es : List (κ × ν)) :
    assoc k' (assocSet k v es) = if k' = k then some v else assoc k' es := by
  induction es with
  | nil =>
      by_cases h : k' = k
      · simp [assocSet, assoc, h]
      · simp [assocSet, assoc, h, Ne.symm h]
  | cons e es ih =>
      by_cases he : e.1 = k
      · by_cases h : k' = k
        · simp [assocSet, assoc, he, h]
        · simp [assocSet, assoc, he, h, Ne.symm h]
      · by_cases h : e.1 = k'
        · have hne : k' ≠ k := fun hk => he (h.trans hk)
          simp [assocSet, assoc, h, hne]
        · simp [assocSet, assoc, he, h, ih]

theorem mem_keys_assocSet {k k' : κ} {v : ν} {es : List (κ × ν)}
    (h : k' ∈ (assocSet k v es).map Prod.fst) : k' = k ∨ k' ∈ es.map Prod.fst := by
  induction es with
  | nil =>
      simp only [assocSet, List.map_cons, List.map_nil, List.mem_singleton] at h
      exact Or.inl h
  | cons e es ih =>
      by_cases he : e.1 = k
      · simp only [assocSet, if_pos he, List.map_cons, List.mem_cons] at h
        exact h.imp id (fun h => List.mem_cons_of_mem _ h)
      · simp only [assocSet, if_neg he, List.map_cons, List.mem_cons] at h
        rcases h with h | h
        · exact Or.inr (by simp [h])
        · exact (ih h).imp id (fun h => List.mem_cons_of_mem _ h)

theorem nodup_keys_assocSet {k : κ} {v : ν} {es : List (κ × ν)}
    (h : (es.map Prod.fst).Nodup) : ((assocSet k v es).map Prod.fst).Nodup := by
  induction es with
  | nil => simp [assocSet]
  | cons e es ih =>
      simp only [List.map_cons, List.nodup_cons] at h
      by_cases he : e.1 = k
      · simp only [assocSet, if_pos he, List.map_cons, List.nodup_cons]
        exact ⟨he ▸ h.1, h.2⟩
      · simp only [assocSet, if_neg he, List.map_cons, List.nodup_cons]
        refine ⟨fun hmem => ?_, ih h.2⟩
        rcases mem_keys_assocSet hmem with hk | hk
        · exact he hk
        · exact h.1 hk

theorem mem_iff_assoc {k : κ} {v : ν} {es : List (κ × ν)} (h : (es.map Prod.fst).Nodup) :
    (k, v) ∈ es ↔ assoc k es = some v := by
  induction es with
  | nil => simp [assoc]
  | cons e es ih =>
      obtain ⟨k', v'⟩ := e
      simp only [List.map_cons, List.nodup_cons] at h
      by_cases hk : k' = k
      · subst hk
        have hnot : (k', v) ∉ es := fun hm => h.1 (List.mem_map_of_mem (f := Prod.fst) hm)
        simp [assoc, hnot, eq_comm]
      · simp [assoc, hk, Ne.symm hk, ih h.2]

end Assoc

/-- Among rows with different keys a key selects one row. -/
theorem filter_eq_singleton [DecidableEq κ] {key : β → κ} {rows : List β}
    (hnodup : (rows.map key).Nodup) {row : β} (hrow : row ∈ rows) :
    rows.filter (fun r => decide (key r = key row)) = [row] := by
  induction rows with
  | nil => cases hrow
  | cons r rows ih =>
      rw [List.map_cons, List.nodup_cons] at hnodup
      rcases List.mem_cons.1 hrow with rfl | hmem
      · rw [List.filter_cons_of_pos (by simp), List.filter_eq_nil_iff.2 fun r' hr' => ?_]
        have hne : key r' ≠ key row := fun heq => hnodup.1 (heq ▸ List.mem_map_of_mem hr')
        simpa using hne
      · have hne : key r ≠ key row := fun heq => hnodup.1 (heq ▸ List.mem_map_of_mem hmem)
        rw [List.filter_cons_of_neg (by simpa using hne)]
        exact ih hnodup.2 hmem

/-- A row with a new key can be added. -/
theorem nodup_append_toList {key : β → κ} {rows : List β} {new : Option β}
    (hrows : (rows.map key).Nodup) (hnew : ∀ a, new = some a → ∀ b ∈ rows, key b ≠ key a) :
    ((rows ++ new.toList).map key).Nodup := by
  cases new with
  | none => simpa using hrows
  | some a =>
      rw [Option.toList_some, List.map_append, List.nodup_append]
      refine ⟨hrows, by simp, fun x hx y hy => ?_⟩
      obtain ⟨b, hb, rfl⟩ := List.mem_map.1 hx
      rw [List.map_singleton, List.mem_singleton] at hy
      rw [hy]
      exact hnew a rfl b hb

/-! ## Operations -/

section Operations

variable [DecidableEq κ]

/-- The map without bindings. -/
def empty : Table κ ν := ⟨[], List.nodup_nil⟩

/-- The value bound to a key. -/
def find? (t : Table κ ν) (k : κ) : Option ν := assoc k t.entries

/-- Bind a key, replacing its old value. -/
def set (t : Table κ ν) (k : κ) (v : ν) : Table κ ν :=
  ⟨assocSet k v t.entries, nodup_keys_assocSet t.nodup⟩

omit [DecidableEq κ] in
theorem nodup_keys_filter (p : κ × ν → Bool) (t : Table κ ν) :
    ((t.entries.filter p).map Prod.fst).Nodup :=
  t.nodup.sublist (List.filter_sublist.map Prod.fst)

/-- Keep the bindings that satisfy a test. -/
def filter (t : Table κ ν) (p : κ → ν → Bool) : Table κ ν :=
  ⟨t.entries.filter fun e => p e.1 e.2, nodup_keys_filter _ t⟩

/-- Remove a key. -/
def erase (t : Table κ ν) (k : κ) : Table κ ν := t.filter fun k' _ => decide (k' ≠ k)

omit [DecidableEq κ] in
theorem keys_mapEntries (f : κ → ν → β) (es : List (κ × ν)) :
    (es.map fun e => (e.1, f e.1 e.2)).map Prod.fst = es.map Prod.fst := by
  simp [List.map_map, Function.comp_def]

/-- Change every value. -/
def mapValues (t : Table κ ν) (f : κ → ν → β) : Table κ β :=
  ⟨t.entries.map fun e => (e.1, f e.1 e.2), by rw [keys_mapEntries]; exact t.nodup⟩

@[simp] theorem find?_empty (k : κ) : (empty : Table κ ν).find? k = none := rfl

theorem find?_set (t : Table κ ν) (k k' : κ) (v : ν) :
    (t.set k v).find? k' = if k' = k then some v else t.find? k' :=
  assoc_assocSet k k' v t.entries

@[simp] theorem find?_set_self (t : Table κ ν) (k : κ) (v : ν) :
    (t.set k v).find? k = some v := by
  rw [find?_set, if_pos rfl]

theorem find?_set_of_ne (t : Table κ ν) {k k' : κ} (v : ν) (h : k' ≠ k) :
    (t.set k v).find? k' = t.find? k' := by
  rw [find?_set, if_neg h]

theorem mem_entries_iff (t : Table κ ν) (k : κ) (v : ν) :
    (k, v) ∈ t.entries ↔ t.find? k = some v :=
  mem_iff_assoc t.nodup

@[simp] theorem find?_mapValues (t : Table κ ν) (f : κ → ν → β) (k : κ) :
    (t.mapValues f).find? k = (t.find? k).map (f k) := by
  have key : ∀ es : List (κ × ν),
      assoc k (es.map fun e => (e.1, f e.1 e.2)) = (assoc k es).map (f k) := by
    intro es
    induction es with
    | nil => rfl
    | cons e es ih =>
        by_cases he : e.1 = k
        · simp [assoc, he]
        · simp [assoc, he, ih]
  exact key t.entries

@[simp] theorem find?_filter (t : Table κ ν) (p : κ → ν → Bool) (k : κ) :
    (t.filter p).find? k = (t.find? k).filter (p k) := by
  -- A binding that fails the test is the only one of its key, so nothing is found behind it.
  have key : ∀ es : List (κ × ν), (es.map Prod.fst).Nodup →
      assoc k (es.filter fun e => p e.1 e.2) = (assoc k es).filter (p k) := by
    intro es h
    induction es with
    | nil => rfl
    | cons e es ih =>
        simp only [List.map_cons, List.nodup_cons] at h
        by_cases he : e.1 = k
        · cases hp : p e.1 e.2 with
          | true =>
              have hp' : p k e.2 = true := he ▸ hp
              simp [assoc, he, hp', Option.filter]
          | false =>
              have hp' : p k e.2 = false := he ▸ hp
              have hrest : assoc k es = none := assoc_eq_none_of_notMem (he ▸ h.1)
              simp [assoc, he, hp', ih h.2, hrest, Option.filter]
        · cases hp : p e.1 e.2 with
          | true => simp [assoc, he, hp, ih h.2]
          | false => simp [assoc, he, hp, ih h.2]
  exact key t.entries t.nodup

@[simp] theorem find?_erase (t : Table κ ν) (k k' : κ) :
    (t.erase k).find? k' = if k' = k then none else t.find? k' := by
  rw [erase, find?_filter]
  by_cases h : k' = k
  · cases ht : t.find? k' <;> simp [h, Option.filter]
  · cases ht : t.find? k' <;> simp [h, Option.filter]

/-- Removing a key that is not there. -/
theorem erase_of_find?_eq_none (t : Table κ ν) {k : κ} (h : t.find? k = none) : t.erase k = t := by
  apply ext_entries
  refine List.filter_eq_self.2 fun e he => ?_
  have hfind : t.find? e.1 = some e.2 := (t.mem_entries_iff e.1 e.2).1 he
  have hne : e.1 ≠ k := by
    rintro rfl
    rw [h] at hfind
    cases hfind
  simpa using hne

/-- Setting a key twice keeps the second value. -/
theorem set_set (t : Table κ ν) (k : κ) (v w : ν) : (t.set k v).set k w = t.set k w := by
  have key : ∀ es : List (κ × ν), assocSet k w (assocSet k v es) = assocSet k w es := by
    intro es
    induction es with
    | nil => simp [assocSet]
    | cons e es ih =>
        by_cases he : e.1 = k
        · simp [assocSet, he]
        · simp [assocSet, he, ih]
  exact ext_entries (key t.entries)

/-- A table whose bindings are among those of another one is that one, if it has the same keys in
the same order. -/
theorem eq_of_keys {t t' : Table κ ν}
    (hkeys : t.entries.map Prod.fst = t'.entries.map Prod.fst)
    (h : ∀ k v, t.find? k = some v → t'.find? k = some v) : t = t' := by
  have hlen : t.entries.length = t'.entries.length := by
    simpa using congrArg List.length hkeys
  apply ext_entries
  apply List.ext_getElem hlen
  intro i hi hi'
  have hfst : t.entries[i].1 = t'.entries[i].1 := by
    have hget := List.getElem_of_eq hkeys (by simpa using hi)
    simpa using hget
  have hfind : t'.find? t.entries[i].1 = some t.entries[i].2 :=
    h _ _ ((t.mem_entries_iff _ _).1 (List.getElem_mem hi))
  have hfind' : t'.find? t'.entries[i].1 = some t'.entries[i].2 :=
    (t'.mem_entries_iff _ _).1 (List.getElem_mem hi')
  rw [← hfst, hfind] at hfind'
  exact Prod.ext hfst (Option.some.inj hfind')

/-! ## What a sweep emits for one key -/

/-- A sweep emits items for every binding. If the items of all other keys are dropped by `f`, what
is left comes from the binding of `c`. -/
theorem filterMap_flatMap_entries {γ : Type*} (t : Table κ ν) (g : κ → ν → List β)
    (f : β → Option γ) (c : κ)
    (hother : ∀ k v, t.find? k = some v → k ≠ c → (g k v).filterMap f = []) :
    (t.entries.flatMap fun e => g e.1 e.2).filterMap f =
      ((t.find? c).map fun v => (g c v).filterMap f).getD [] := by
  -- the keys are different, so the other entries are not of `c`
  have key : ∀ es : List (κ × ν), (es.map Prod.fst).Nodup →
      (∀ k v, (k, v) ∈ es → k ≠ c → (g k v).filterMap f = []) →
      (es.flatMap fun e => g e.1 e.2).filterMap f =
        ((assoc c es).map fun v => (g c v).filterMap f).getD [] := by
    intro es hnd hes
    induction es with
    | nil => rfl
    | cons e es ih =>
        obtain ⟨k, v⟩ := e
        simp only [List.map_cons, List.nodup_cons] at hnd
        have hrest := ih hnd.2 fun k' v' hmem => hes k' v' (List.mem_cons_of_mem _ hmem)
        rw [List.flatMap_cons, List.filterMap_append, hrest]
        by_cases hk : k = c
        · subst hk
          simp [assoc, assoc_eq_none_of_notMem hnd.1]
        · simp [assoc, hk, hes k v List.mem_cons_self hk]
  exact key t.entries t.nodup fun k v hmem => hother k v ((t.mem_entries_iff k v).1 hmem)

end Operations

end Table

end DeepKernel.Lib
