import DeepKernel.Lib.Numerals

/-!
# Vectors laid out in blocks

A vector that a program builds by appending blocks of known sizes, and pads or cuts to a fixed
dimension. The blocks are read back by position. `rowMajor` is the order in which two nested loops
visit the cells of a matrix.
-/

set_option autoImplicit false

namespace DeepKernel.Lib

universe u

variable {α : Type u}

/-- Append a filler up to a dimension, and drop what goes beyond it. -/
def fitTo (n : Nat) (filler : α) (xs : List α) : List α :=
  (xs ++ List.replicate (n - xs.length) filler).take n

theorem length_fitTo (n : Nat) (filler : α) (xs : List α) : (fitTo n filler xs).length = n := by
  rw [fitTo, List.length_take, List.length_append, List.length_replicate]
  omega

theorem fitTo_of_length {n : Nat} {filler : α} {xs : List α} (h : xs.length = n) :
    fitTo n filler xs = xs := by
  rw [fitTo, h, Nat.sub_self, List.replicate_zero, List.append_nil, ← h, List.take_length]

/-- The cells of a matrix, row by row. -/
def rowMajor (n m : Nat) : List (Fin n × Fin m) :=
  (List.finRange n).flatMap fun i => (List.finRange m).map fun j => (i, j)

theorem length_rowMajor (n m : Nat) : (rowMajor n m).length = n * m := by
  rw [rowMajor, List.length_flatMap]
  simp

theorem nodup_rowMajor (n m : Nat) : (rowMajor n m).Nodup :=
  (List.nodup_finRange n).product (List.nodup_finRange m)

theorem mem_rowMajor {n m : Nat} (cell : Fin n × Fin m) : cell ∈ rowMajor n m :=
  List.mem_product.2 ⟨List.mem_finRange _, List.mem_finRange _⟩

/-- The rows have the same length. -/
theorem getElem?_rowMajor {n m : Nat} (i : Fin n) (j : Fin m) :
    (rowMajor n m)[m * i.val + j.val]? = some (i, j) := by
  -- over the rows from any one on, the index counts from the first of them
  have hrow : ∀ (rows : List (Fin n)) (k : Nat) (i : Fin n), rows[k]? = some i →
      (rows.flatMap fun i => (List.finRange m).map fun j => (i, j))[m * k + j.val]? =
        some (i, j) := by
    intro rows
    induction rows with
    | nil => exact fun k i h => absurd h (by simp)
    | cons row rows ih =>
        intro k i h
        have hlen : ((List.finRange m).map fun j => (row, j)).length = m := by simp
        rw [List.flatMap_cons]
        cases k with
        | zero =>
            obtain rfl := Option.some.inj h
            rw [Nat.mul_zero, Nat.zero_add, List.getElem?_append_left (by rw [hlen]; exact j.isLt)]
            simp
        | succ k =>
            rw [List.getElem?_append_right (by rw [hlen, Nat.mul_succ]; omega), hlen, Nat.mul_succ]
            have hsub : m * k + m + j.val - m = m * k + j.val := by omega
            rw [hsub]
            exact ih k i h
  exact hrow _ _ i (by simp)

/-- A vector of three blocks. -/
structure IsLayout (vec first second third : List α) (n m : Nat) : Prop where
  eq_blocks : vec = first ++ second ++ third
  length_first : first.length = n
  length_second : second.length = m

namespace IsLayout

variable {vec first second third : List α} {n m : Nat} (h : IsLayout vec first second third n m)

include h

theorem getElem?_first {i : Nat} (hi : i < n) : vec[i]? = first[i]? := by
  have hlen := h.length_first
  rw [h.eq_blocks, List.append_assoc, List.getElem?_append_left (by omega)]

theorem getElem?_second {i : Nat} (hi : i < m) : vec[n + i]? = second[i]? := by
  have hfirst := h.length_first
  have hsecond := h.length_second
  rw [h.eq_blocks, List.append_assoc, List.getElem?_append_right (by omega),
    List.getElem?_append_left (by omega)]
  congr 1
  omega

theorem getElem?_third (i : Nat) : vec[n + m + i]? = third[i]? := by
  have hfirst := h.length_first
  have hsecond := h.length_second
  rw [h.eq_blocks, List.getElem?_append_right (by rw [List.length_append]; omega)]
  congr 1
  rw [List.length_append]
  omega

end IsLayout

/-! ## Assignments -/

/-- Assignments to positions, one after another. -/
def assignAll (xs : List α) (writes : List (Nat × α)) : List α :=
  writes.foldl (fun xs w => xs.set w.1 w.2) xs

theorem assignAll_cons (xs : List α) (w : Nat × α) (writes : List (Nat × α)) :
    assignAll xs (w :: writes) = assignAll (xs.set w.1 w.2) writes := rfl

theorem length_assignAll (xs : List α) (writes : List (Nat × α)) :
    (assignAll xs writes).length = xs.length := by
  induction writes generalizing xs with
  | nil => rfl
  | cons w writes ih => rw [assignAll_cons, ih, List.length_set]

theorem getElem?_assignAll_of_notMem (xs : List α) {writes : List (Nat × α)} {i : Nat}
    (h : i ∉ writes.map Prod.fst) : (assignAll xs writes)[i]? = xs[i]? := by
  induction writes generalizing xs with
  | nil => rfl
  | cons w writes ih =>
      obtain ⟨hne, hrest⟩ := not_or.1 (mt List.mem_cons.2 h)
      rw [assignAll_cons, ih _ hrest, List.getElem?_set_ne (Ne.symm hne)]

/-- A position that is assigned once keeps its value. -/
theorem getElem?_assignAll_of_mem {xs : List α} {writes : List (Nat × α)}
    (hnodup : (writes.map Prod.fst).Nodup) {i : Nat} (hi : i < xs.length) {v : α}
    (hmem : (i, v) ∈ writes) : (assignAll xs writes)[i]? = some v := by
  induction writes generalizing xs with
  | nil => cases hmem
  | cons w writes ih =>
      obtain ⟨hnot, hrest⟩ := List.nodup_cons.1 hnodup
      rw [assignAll_cons]
      rcases List.mem_cons.1 hmem with rfl | hmem
      · rw [getElem?_assignAll_of_notMem _ hnot, List.getElem?_set_self hi]
      · exact ih hrest (by rwa [List.length_set]) hmem

end DeepKernel.Lib
