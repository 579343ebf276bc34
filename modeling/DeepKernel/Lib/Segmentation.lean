import Mathlib.Tactic

/-!
# Greedy segmentation of a sequence

Items are collected in an open window; after each item a test looks at the window, and if it
passes the window is closed and a new one starts. `segmentFrom` is that loop. `IsGreedy` says what
the result is for: the closed windows followed by the open one are the input, each closed window
passes the test and none of its shorter prefixes does, and no prefix of the open window does.

`segmentFrom_isGreedy_iff` compares a loop that runs one test with the specification of another:
the result is greedy for the second test exactly when the two tests agree on every window the loop
looks at.
-/

set_option autoImplicit false

namespace DeepKernel.Lib

universe u

variable {α : Type u}

/-- Collect the items in the open window, closing it whenever the test passes. -/
def segmentFrom (cut : List α → Bool) (open_ : List α) : List α → List (List α) × List α
  | [] => ([], open_)
  | x :: xs =>
    if cut (open_ ++ [x]) then
      ((open_ ++ [x]) :: (segmentFrom cut [] xs).1, (segmentFrom cut [] xs).2)
    else segmentFrom cut (open_ ++ [x]) xs

/-- The windows on which the loop evaluates the test. -/
def examined (cut : List α → Bool) (open_ : List α) : List α → List (List α)
  | [] => []
  | x :: xs =>
    (open_ ++ [x]) :: examined cut (if cut (open_ ++ [x]) then [] else open_ ++ [x]) xs

/-- `closed` followed by `rest` is the greedy segmentation of `xs` at the test `cut`. -/
structure IsGreedy (cut : List α → Prop) (xs : List α) (closed : List (List α))
    (rest : List α) : Prop where
  concat : closed.flatten ++ rest = xs
  cut_closed : ∀ w ∈ closed, w ≠ [] ∧ cut w
  first : ∀ w ∈ closed, ∀ p, p <+: w → p ≠ [] → p ≠ w → ¬ cut p
  uncut : ∀ p, p <+: rest → p ≠ [] → ¬ cut p

@[simp] theorem segmentFrom_nil (cut : List α → Bool) (w : List α) :
    segmentFrom cut w [] = ([], w) := rfl

theorem segmentFrom_cons_of_cut {cut : List α → Bool} {w : List α} {x : α}
    (h : cut (w ++ [x]) = true) (xs : List α) :
    segmentFrom cut w (x :: xs) =
      ((w ++ [x]) :: (segmentFrom cut [] xs).1, (segmentFrom cut [] xs).2) := by
  simp [segmentFrom, h]

theorem segmentFrom_cons_of_not_cut {cut : List α → Bool} {w : List α} {x : α}
    (h : cut (w ++ [x]) = false) (xs : List α) :
    segmentFrom cut w (x :: xs) = segmentFrom cut (w ++ [x]) xs := by
  simp [segmentFrom, h]

/-- Segmenting a sequence in two parts: the second part starts in the window the first leaves
open. -/
theorem segmentFrom_append (cut : List α → Bool) (w xs ys : List α) :
    segmentFrom cut w (xs ++ ys) =
      ((segmentFrom cut w xs).1 ++ (segmentFrom cut (segmentFrom cut w xs).2 ys).1,
        (segmentFrom cut (segmentFrom cut w xs).2 ys).2) := by
  induction xs generalizing w with
  | nil => rfl
  | cons x xs ih =>
      rw [List.cons_append]
      cases h : cut (w ++ [x]) with
      | true =>
          rw [segmentFrom_cons_of_cut h, segmentFrom_cons_of_cut h, ih]
          rfl
      | false => rw [segmentFrom_cons_of_not_cut h, segmentFrom_cons_of_not_cut h, ih]

/-- The segments that the loop closes are the windows it examines and cuts. -/
theorem segmentFrom_fst_eq_filter (cut : List α → Bool) (w xs : List α) :
    (segmentFrom cut w xs).1 = (examined cut w xs).filter cut := by
  induction xs generalizing w with
  | nil => rfl
  | cons x xs ih =>
      rw [examined]
      cases h : cut (w ++ [x]) with
      | true => rw [segmentFrom_cons_of_cut h, List.filter_cons_of_pos h, if_pos rfl, ih]
      | false =>
          rw [segmentFrom_cons_of_not_cut h, ih, List.filter_cons_of_neg (by rw [h]; decide),
            if_neg Bool.false_ne_true]

/-- The segments and the open one are the whole input. -/
theorem flatten_segmentFrom (cut : List α → Bool) (w xs : List α) :
    (segmentFrom cut w xs).1.flatten ++ (segmentFrom cut w xs).2 = w ++ xs := by
  induction xs generalizing w with
  | nil => simp
  | cons x xs ih =>
      cases h : cut (w ++ [x]) with
      | true =>
          rw [segmentFrom_cons_of_cut h, List.flatten_cons, List.append_assoc, ih []]
          simp
      | false =>
          rw [segmentFrom_cons_of_not_cut h, ih]
          simp

/-- Segmenting the images of some items is segmenting the items by the images of their windows. -/
theorem segmentFrom_map {β : Type*} (f : β → α) (cut : List α → Bool) (w xs : List β) :
    segmentFrom cut (w.map f) (xs.map f) =
      ((segmentFrom (fun v => cut (v.map f)) w xs).1.map (List.map f),
        (segmentFrom (fun v => cut (v.map f)) w xs).2.map f) := by
  induction xs generalizing w with
  | nil => rfl
  | cons x xs ih =>
      have happend : w.map f ++ [f x] = (w ++ [x]).map f := by simp
      rw [List.map_cons]
      cases h : cut ((w ++ [x]).map f) with
      | true =>
          have hrest := ih []
          rw [List.map_nil] at hrest
          rw [segmentFrom_cons_of_cut (by rw [happend]; exact h), segmentFrom_cons_of_cut h, hrest,
            happend]
          rfl
      | false =>
          rw [segmentFrom_cons_of_not_cut (by rw [happend]; exact h), segmentFrom_cons_of_not_cut h,
            happend, ih]

/-- Copies of an element that never close a segment stay in the open one. -/
theorem segmentFrom_replicate (cut : List α → Bool) (x : α)
    (hcut : ∀ n, cut (List.replicate n x) = false) (m n : Nat) :
    segmentFrom cut (List.replicate m x) (List.replicate n x) = ([], List.replicate (m + n) x) := by
  induction n generalizing m with
  | zero => rfl
  | succ n ih =>
      have hgrow : List.replicate m x ++ [x] = List.replicate (m + 1) x :=
        (List.replicate_succ').symm
      rw [List.replicate_succ, segmentFrom_cons_of_not_cut (by rw [hgrow]; exact hcut (m + 1)),
        hgrow, ih (m + 1), show m + 1 + n = m + (n + 1) by omega]

theorem length_segmentFrom_le (cut : List α → Bool) (w xs : List α) :
    (segmentFrom cut w xs).2.length ≤ w.length + xs.length := by
  induction xs generalizing w with
  | nil => simp
  | cons x xs ih =>
      cases h : cut (w ++ [x]) with
      | true =>
          have hrest := ih []
          rw [segmentFrom_cons_of_cut h]
          simp only [List.length_nil, List.length_cons] at hrest ⊢
          omega
      | false =>
          have hrest := ih (w ++ [x])
          rw [segmentFrom_cons_of_not_cut h]
          simp only [List.length_append, List.length_cons, List.length_nil] at hrest ⊢
          omega

/-- The window open at the start of the loop is a prefix of the first window it produces, and a
proper one if that window gets closed. -/
theorem segmentFrom_prefix (cut : List α → Bool) (w xs : List α) :
    ((segmentFrom cut w xs).1 = [] ∧ w <+: (segmentFrom cut w xs).2) ∨
      ∃ v vs, (segmentFrom cut w xs).1 = v :: vs ∧ w <+: v ∧ w ≠ v := by
  induction xs generalizing w with
  | nil => exact Or.inl ⟨rfl, List.prefix_rfl⟩
  | cons x xs ih =>
      have hpre : w <+: w ++ [x] := List.prefix_append w [x]
      cases h : cut (w ++ [x]) with
      | true =>
          rw [segmentFrom_cons_of_cut h]
          exact Or.inr ⟨_, _, rfl, hpre, by simp⟩
      | false =>
          rw [segmentFrom_cons_of_not_cut h]
          rcases ih (w ++ [x]) with ⟨hnil, hp⟩ | ⟨v, vs, hv, hp, hne⟩
          · exact Or.inl ⟨hnil, hpre.trans hp⟩
          · refine Or.inr ⟨v, vs, hv, hpre.trans hp, fun hwv => ?_⟩
            have hlen := hp.length_le
            rw [← hwv, List.length_append, List.length_singleton] at hlen
            omega

/-- A loop that starts in a window which the specification would have closed is not greedy. -/
theorem not_isGreedy_of_prefix_cut {cut : List α → Bool} {cut' : List α → Prop} {w xs ys : List α}
    (hne : w ≠ []) (hcut : cut' w) :
    ¬ IsGreedy cut' ys (segmentFrom cut w xs).1 (segmentFrom cut w xs).2 := by
  intro h
  rcases segmentFrom_prefix cut w xs with ⟨-, hp⟩ | ⟨v, vs, hv, hp, hwv⟩
  · exact h.uncut w hp hne hcut
  · exact h.first v (by rw [hv]; exact List.mem_cons_self) w hp hne hwv hcut

theorem isGreedy_cons_iff {cut : List α → Prop} {w xs : List α} {closed : List (List α)}
    {rest : List α} (hne : w ≠ []) (hw : ∀ p, p <+: w → p ≠ [] → p ≠ w → ¬ cut p) :
    IsGreedy cut (w ++ xs) (w :: closed) rest ↔ cut w ∧ IsGreedy cut xs closed rest := by
  constructor
  · intro h
    refine ⟨(h.cut_closed w List.mem_cons_self).2, ?_, ?_, ?_, h.uncut⟩
    · have hc := h.concat
      rw [List.flatten_cons, List.append_assoc] at hc
      exact List.append_cancel_left hc
    · exact fun v hv => h.cut_closed v (List.mem_cons_of_mem _ hv)
    · exact fun v hv => h.first v (List.mem_cons_of_mem _ hv)
  · rintro ⟨hcut, h⟩
    refine ⟨?_, ?_, ?_, h.uncut⟩
    · rw [List.flatten_cons, List.append_assoc, h.concat]
    · intro v hv
      rcases List.mem_cons.1 hv with rfl | hv
      · exact ⟨hne, hcut⟩
      · exact h.cut_closed v hv
    · intro v hv
      rcases List.mem_cons.1 hv with rfl | hv
      · exact hw
      · exact h.first v hv

/-- The loop at the test `cut`, started in a window no prefix of which passes `cut'`, is greedy for
`cut'` exactly when the two tests agree on every window it examines. -/
theorem segmentFrom_isGreedy_iff (cut : List α → Bool) (cut' : List α → Prop) (w xs : List α)
    (hw : ∀ p, p <+: w → p ≠ [] → ¬ cut' p) :
    IsGreedy cut' (w ++ xs) (segmentFrom cut w xs).1 (segmentFrom cut w xs).2 ↔
      ∀ v ∈ examined cut w xs, (cut v = true ↔ cut' v) := by
  induction xs generalizing w with
  | nil =>
      simp only [examined, List.not_mem_nil, false_imp_iff, implies_true, iff_true]
      exact ⟨by simp, by simp, by simp, hw⟩
  | cons x xs ih =>
      have hne : w ++ [x] ≠ [] := by simp
      have hproper : ∀ p, p <+: w ++ [x] → p ≠ [] → p ≠ w ++ [x] → ¬ cut' p := by
        intro p hp hpne hpw
        rcases List.prefix_concat_iff.1 hp with rfl | hp
        · exact absurd rfl hpw
        · exact hw p hp hpne
      have happ : w ++ x :: xs = (w ++ [x]) ++ xs := by simp
      rw [happ]
      cases h : cut (w ++ [x]) with
      | true =>
          -- the loop closes the window, and the specification has to close it here as well
          rw [segmentFrom_cons_of_cut h, isGreedy_cons_iff hne hproper]
          have hrec := ih [] fun p hp hpne => absurd (List.prefix_nil.1 hp) hpne
          rw [List.nil_append] at hrec
          simp only [examined, h, if_true, List.mem_cons, forall_eq_or_imp, true_iff]
          rw [hrec]
      | false =>
          rw [segmentFrom_cons_of_not_cut h]
          simp only [examined, h, Bool.false_eq_true, if_false, List.mem_cons, forall_eq_or_imp,
            false_iff]
          by_cases hcut' : cut' (w ++ [x])
          · -- the specification closes the window here and the loop does not
            constructor
            · exact fun hg => absurd hg (not_isGreedy_of_prefix_cut hne hcut')
            · exact fun hg => absurd hcut' hg.1
          · -- both leave the window open
            have hinit : ∀ p, p <+: w ++ [x] → p ≠ [] → ¬ cut' p := by
              intro p hp hpne
              rcases List.prefix_concat_iff.1 hp with rfl | hp
              · exact hcut'
              · exact hw p hp hpne
            rw [ih (w ++ [x]) hinit]
            exact ⟨fun hv => ⟨hcut', hv⟩, fun hv => hv.2⟩

end DeepKernel.Lib
