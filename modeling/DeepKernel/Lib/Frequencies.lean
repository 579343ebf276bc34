import Mathlib.Tactic

/-!
# Counts and relative frequencies

A program that counts the elements of a list in a table adds one to the entry of each element it
meets. The entries of a table of pairs add up to the counts of the first components, and the
frequencies add up to one.
-/

set_option autoImplicit false

namespace DeepKernel.Lib

universe u v

variable {α : Type u} {β : Type v}

/-- The pairs of neighbours of a list. -/
def neighbours (l : List α) : List (α × α) := l.zip l.tail

theorem neighbours_cons_cons (a b : α) (l : List α) :
    neighbours (a :: b :: l) = (a, b) :: neighbours (b :: l) := rfl

theorem map_fst_neighbours (l : List α) : (neighbours l).map Prod.fst = l.dropLast := by
  induction l with
  | nil => rfl
  | cons a l ih =>
      cases l with
      | nil => rfl
      | cons b l => rw [neighbours_cons_cons, List.map_cons, ih, List.dropLast_cons_cons]

theorem length_neighbours (l : List α) : (neighbours l).length = l.length - 1 := by
  rw [← List.length_dropLast, ← map_fst_neighbours, List.length_map]

theorem neighbours_append_singleton (l : List α) (a : α) :
    neighbours (l ++ [a]) = neighbours l ++ (l.getLast?.map fun b => (b, a)).toList := by
  induction l with
  | nil => rfl
  | cons b l ih =>
      cases l with
      | nil => rfl
      | cons b' l =>
          rw [List.cons_append, List.cons_append, neighbours_cons_cons, ← List.cons_append, ih,
            neighbours_cons_cons, List.getLast?_cons_cons, List.cons_append]

section Count

variable [DecidableEq α] [DecidableEq β]

omit [DecidableEq β] in
/-- Adding one to an entry of a table. -/
theorem update_add_one {M : Type} [AddMonoidWithOne M] (f : α → M) (x a : α) :
    Function.update f x (f x + 1) a = f a + if x = a then 1 else 0 := by
  rw [Function.update_apply]
  by_cases h : a = x
  · rw [if_pos h, if_pos h.symm, h]
  · rw [if_neg h, if_neg fun heq => h heq.symm, add_zero]

variable [Fintype α] [Fintype β]

omit [DecidableEq β] [Fintype β] in
theorem sum_count (l : List α) : ∑ a, l.count a = l.length := by
  have h := Multiset.sum_count_eq_card (s := Finset.univ) (m := (l : Multiset α))
    fun a _ => Finset.mem_univ a
  simpa only [Multiset.coe_count, Multiset.coe_card] using h

omit [Fintype α] in
/-- The row of a table of pairs. -/
theorem sum_count_pair (l : List (α × β)) (a : α) :
    ∑ b, l.count (a, b) = (l.map Prod.fst).count a := by
  induction l with
  | nil => simp
  | cons x l ih =>
      have hhead : ∑ b, (if x = (a, b) then 1 else 0) = if x.1 = a then 1 else 0 := by
        by_cases h : x.1 = a
        · have hx : x = (a, x.2) := Prod.ext h rfl
          rw [if_pos h, Finset.sum_eq_single x.2]
          · exact if_pos hx
          · intro b _ hb
            exact if_neg fun heq => hb (congrArg Prod.snd heq).symm
          · exact fun hmem => absurd (Finset.mem_univ _) hmem
        · rw [if_neg h]
          exact Finset.sum_eq_zero fun b _ => if_neg fun heq => h (congrArg Prod.fst heq)
      simp only [List.count_cons, List.map_cons, Finset.sum_add_distrib, beq_iff_eq, ih, hhead]

variable {R : Type} [Field R] [CharZero R]

omit [DecidableEq β] [Fintype β] in
/-- The frequencies of a list that is not empty add up to one. -/
theorem sum_frequencies {l : List α} (h : l ≠ []) :
    ∑ a, (l.count a : R) / (l.length : R) = 1 := by
  have hne : (l.length : R) ≠ 0 :=
    Nat.cast_ne_zero.2 (Nat.pos_iff_ne_zero.1 (List.length_pos_of_ne_nil h))
  rw [← Finset.sum_div, ← Nat.cast_sum, sum_count, div_self hne]

omit [DecidableEq β] [Fintype α] [Fintype β] in
/-- It is enough to add those of the elements that occur. -/
theorem sum_toFinset_frequencies {l : List α} (h : l ≠ []) :
    ∑ a ∈ l.toFinset, (l.count a : R) / (l.length : R) = 1 := by
  have hne : (l.length : R) ≠ 0 :=
    Nat.cast_ne_zero.2 (Nat.pos_iff_ne_zero.1 (List.length_pos_of_ne_nil h))
  rw [← Finset.sum_div, ← Nat.cast_sum, List.sum_toFinset_count_eq_length, div_self hne]

omit [Fintype α] in
/-- The frequencies of the second components behind a first one add up to one if there is a pair with
it. -/
theorem sum_row_frequencies {l : List (α × β)} {a : α} (h : a ∈ l.map Prod.fst) :
    ∑ b, (l.count (a, b) : R) / ((l.map Prod.fst).count a : R) = 1 := by
  have hne : ((l.map Prod.fst).count a : R) ≠ 0 :=
    Nat.cast_ne_zero.2 (Nat.pos_iff_ne_zero.1 (List.count_pos_iff.2 h))
  rw [← Finset.sum_div, ← Nat.cast_sum, sum_count_pair, div_self hne]

end Count

end DeepKernel.Lib
