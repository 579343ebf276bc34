import Mathlib.Data.List.Basic

/-!
# Rows that move to the end when they are written

A list of rows in which writing a row removes the one with the same key and appends the new one.
After some writes the list holds the last write of every key, in the order of these last writes
(`foldl_writeRow`).
-/

set_option autoImplicit false

namespace DeepKernel.Lib

universe u v

variable {α : Type u} {κ : Type v} [DecidableEq κ] (key : α → κ)

/-- Write a row. -/
def writeRow (rows : List α) (row : α) : List α :=
  (rows.filter fun r => decide (key r ≠ key row)) ++ [row]

/-- The writes whose key is not written again. -/
def lastWrites : List α → List α
  | [] => []
  | row :: rows => if key row ∈ rows.map key then lastWrites rows else row :: lastWrites rows

theorem lastWrites_cons_of_mem {row : α} {rows : List α} (h : key row ∈ rows.map key) :
    lastWrites key (row :: rows) = lastWrites key rows := by
  rw [lastWrites, if_pos h]

theorem lastWrites_cons_of_notMem {row : α} {rows : List α} (h : key row ∉ rows.map key) :
    lastWrites key (row :: rows) = row :: lastWrites key rows := by
  rw [lastWrites, if_neg h]

/-- After some writes the list holds the rows that were not written again, then the last writes. -/
theorem foldl_writeRow (writes rows : List α) :
    writes.foldl (writeRow key) rows =
      (rows.filter fun r => decide (key r ∉ writes.map key)) ++ lastWrites key writes := by
  induction writes generalizing rows with
  | nil =>
      rw [List.foldl_nil, lastWrites, List.append_nil, List.filter_eq_self.2 fun r _ => by simp]
  | cons row writes ih =>
      have hkept : (rows.filter fun r => decide (key r ≠ key row)).filter
            (fun r => decide (key r ∉ writes.map key)) =
          rows.filter fun r => decide (key r ∉ (row :: writes).map key) := by
        rw [List.filter_filter]
        refine List.filter_congr fun r _ => ?_
        rw [← Bool.decide_and]
        simp only [List.map_cons, List.mem_cons, not_or, ne_eq, and_comm]
      rw [List.foldl_cons, ih, writeRow, List.filter_append, hkept, List.append_assoc]
      congr 1
      -- the row itself stays exactly if its key is not written again
      by_cases hmem : key row ∈ writes.map key
      · rw [lastWrites_cons_of_mem key hmem, List.filter_cons_of_neg (by simpa using hmem)]
        rfl
      · rw [lastWrites_cons_of_notMem key hmem, List.filter_cons_of_pos (by simpa using hmem)]
        rfl

end DeepKernel.Lib
