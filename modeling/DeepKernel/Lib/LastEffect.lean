import DeepKernel.Lib.Execution

/-!
# What the last effective input decides

An observation of a state (an entry of a map, a flag) that some inputs overwrite and all others
leave alone. After a run it is what the last input that overwrites it makes of it (`view_foldl`),
however many inputs come before.
-/

set_option autoImplicit false

namespace DeepKernel.Lib

universe u v w

variable {σ : Type u} {ι : Type v} {α : Type w}

/-- The effect of the last input that has one. -/
def lastEffect (effect : ι → Option α) (is : List ι) : Option α := (is.filterMap effect).getLast?

section LastEffect

variable (effect : ι → Option α)

theorem lastEffect_concat (is : List ι) (i : ι) :
    lastEffect effect (is ++ [i]) = (effect i).or (lastEffect effect is) := by
  rw [lastEffect, lastEffect, List.filterMap_append]
  cases hi : effect i with
  | none => simp [hi]
  | some a => simp [hi]

theorem lastEffect_append (is js : List ι) :
    lastEffect effect (is ++ js) = (lastEffect effect js).or (lastEffect effect is) := by
  rw [lastEffect, lastEffect, lastEffect, List.filterMap_append, List.getLast?_append]

theorem lastEffect_eq_none_iff {is : List ι} :
    lastEffect effect is = none ↔ ∀ i ∈ is, effect i = none := by
  rw [lastEffect, List.getLast?_eq_none_iff, List.filterMap_eq_nil_iff]

theorem lastEffect_map {β : Type*} (g : α → β) (is : List ι) :
    lastEffect (fun i => (effect i).map g) is = (lastEffect effect is).map g := by
  rw [lastEffect, lastEffect, ← List.map_filterMap, List.getLast?_map]

end LastEffect

/-- In a list in order the last element is the greatest. -/
theorem forall_lt_iff_getLast {β : Type*} [Preorder β] {l : List β} (h : l.Pairwise (· ≤ ·))
    {b : β} : (∀ x ∈ l, x < b) ↔ ∀ x, l.getLast? = some x → x < b := by
  refine ⟨fun hall x hx => hall x (List.mem_of_getLast? hx), fun hlast x hx => ?_⟩
  rcases List.eq_nil_or_concat' l with rfl | ⟨init, last, rfl⟩
  · cases hx
  · have hb : last < b := hlast last List.getLast?_concat
    rcases List.mem_append.1 hx with hx | hx
    · have hle := (List.pairwise_append.1 h).2.2 x hx last (List.mem_singleton_self _)
      exact lt_of_le_of_lt hle hb
    · rw [List.mem_singleton.1 hx]
      exact hb

/-- An observation that every step overwrites with the effect of its input, or leaves alone. -/
theorem view_foldl {next : σ → ι → σ} (view : σ → α) (effect : ι → Option α) {I : σ → Prop}
    (hI : ∀ s i, I s → I (next s i))
    (hview : ∀ s i, I s → view (next s i) = (effect i).getD (view s)) {s : σ} (hs : I s)
    (is : List ι) : view (is.foldl next s) = (lastEffect effect is).getD (view s) := by
  induction is using List.reverseRecOn with
  | nil => rfl
  | append_singleton is i ih =>
      have hinv : I (is.foldl next s) :=
        foldl_invariant (P := fun _ => True) (fun s i _ => hI s i) hs fun _ _ => trivial
      rw [List.foldl_concat, hview _ i hinv, ih, lastEffect_concat]
      cases effect i with
      | none => rfl
      | some a => rfl

end DeepKernel.Lib
