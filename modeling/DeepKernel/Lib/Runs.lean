import Mathlib.Data.List.SplitBy
import Mathlib.Order.Basic

/-!
# Maximal runs of equal keys

The runs of a list are its parts of consecutive elements with equal keys, as long as they can be. If
the keys do not decrease along the list, they increase from run to run.
-/

set_option autoImplicit false

namespace DeepKernel.Lib

universe u v

variable {α : Type u} {κ : Type v} [DecidableEq κ] (key : α → κ)

/-- The maximal runs of elements with equal keys. -/
def runsBy (l : List α) : List (List α) := l.splitBy fun a b => key a == key b

variable {key}

/-- All the elements of a run have the same key. -/
theorem key_eq_of_mem_runsBy {l run : List α} (h : run ∈ runsBy key l) {a b : α} (ha : a ∈ run)
    (hb : b ∈ run) : key a = key b := by
  have hchain : run.IsChain fun a b => key a = key b := by
    refine (List.isChain_of_mem_splitBy h).imp fun a b hab => ?_
    exact beq_iff_eq.1 hab
  have hpairwise : run.Pairwise fun a b => key a = key b := by
    have htrans : Trans (fun a b : α => key a = key b) (fun a b => key a = key b)
        (fun a b => key a = key b) := ⟨fun hab hbc => hab.trans hbc⟩
    exact List.isChain_iff_pairwise.1 hchain
  have hflip : run.Pairwise fun a b => key b = key a := hpairwise.imp fun hab => hab.symm
  exact List.Pairwise.forall_of_forall_of_flip (R := fun a b => key a = key b) (fun _ _ => rfl)
    hpairwise hflip ha hb

omit [DecidableEq κ] in
theorem splitBy_loop_map {β : Type u} (r : α → α → Bool) (f : β → α) (l : List β) (b : β)
    (group : List β) (groups : List (List β)) :
    List.splitBy.loop r (l.map f) (f b) (group.map f) (groups.map (List.map f)) =
      (List.splitBy.loop (fun x y => r (f x) (f y)) l b group groups).map (List.map f) := by
  induction l generalizing b group groups with
  | nil => simp [List.splitBy.loop]
  | cons x l ih =>
      rw [List.map_cons, List.splitBy.loop, List.splitBy.loop]
      cases r (f b) (f x) with
      | true => exact ih x (b :: group) groups
      | false =>
          have hgroup : (f b :: group.map f).reverse :: groups.map (List.map f) =
              ((b :: group).reverse :: groups).map (List.map f) := by
            simp
          simp only [hgroup]
          exact ih x [] ((b :: group).reverse :: groups)

/-- The runs of an image are the images of the runs. -/
theorem runsBy_map {β : Type u} (key : α → κ) (f : β → α) (l : List β) :
    runsBy key (l.map f) = (runsBy (fun b => key (f b)) l).map (List.map f) := by
  cases l with
  | nil => rfl
  | cons b l => exact splitBy_loop_map _ f l b [] []

/-- Elements with one key in front of one with another key are a run. -/
theorem runsBy_append_cons {run : List α} {b : α} (hne : run ≠ [])
    (hrun : ∀ a ∈ run, ∀ a' ∈ run, key a = key a') (hb : ∀ a ∈ run, key a ≠ key b) (l : List α) :
    runsBy key (run ++ b :: l) = run :: runsBy key (b :: l) := by
  have hchain : run.IsChain fun a b => (key a == key b) = true := by
    refine List.Pairwise.isChain (List.pairwise_of_forall_mem_list fun a ha a' ha' => ?_)
    exact beq_iff_eq.2 (hrun a ha a' ha')
  have hlast : ∀ a ∈ run.getLast?, (key a == key b) = false := by
    intro a ha
    exact beq_false_of_ne (hb a (List.mem_of_getLast? ha))
  rw [runsBy, List.splitBy_append_cons l hlast, List.splitBy_of_isChain hne hchain]
  rfl

/-- One run. -/
theorem runsBy_of_forall_eq {run : List α} (hne : run ≠ [])
    (hrun : ∀ a ∈ run, ∀ a' ∈ run, key a = key a') : runsBy key run = [run] := by
  refine List.splitBy_of_isChain hne ?_
  refine List.Pairwise.isChain (List.pairwise_of_forall_mem_list fun a ha a' ha' => ?_)
  exact beq_iff_eq.2 (hrun a ha a' ha')

/-- Runs whose keys differ from run to run and do not decrease. -/
theorem pairwise_lt_of_border [PartialOrder κ] {runs : List (List α)}
    (hconst : ∀ run ∈ runs, ∀ a ∈ run, ∀ b ∈ run, key a = key b)
    (hle : runs.Pairwise fun run run' => ∀ a ∈ run, ∀ b ∈ run', key a ≤ key b)
    (hborder : runs.IsChain fun run run' =>
      ∃ ha hb, (key (run.getLast ha) == key (run'.head hb)) = false) :
    runs.Pairwise fun run run' => ∀ a ∈ run, ∀ b ∈ run', key a < key b := by
  induction runs with
  | nil => exact List.Pairwise.nil
  | cons run runs ih =>
      obtain ⟨hfirst, hrest⟩ := List.pairwise_cons.1 hle
      refine List.pairwise_cons.2 ⟨fun run' hrun' a ha b hb => ?_,
        ih (fun r hr => hconst r (List.mem_cons_of_mem _ hr)) hrest hborder.tail⟩
      cases runs with
      | nil => cases hrun'
      | cons next runs =>
          -- the first element of the next run is above the run and not above what follows
          obtain ⟨hne, hnext, hkeys⟩ := (List.isChain_cons_cons.1 hborder).1
          have hhead : next.head hnext ∈ next := List.head_mem hnext
          have hdiff : key a ≠ key (next.head hnext) := by
            rw [hconst run List.mem_cons_self a ha _ (List.getLast_mem hne)]
            exact ne_of_beq_false hkeys
          have hlt : key a < key (next.head hnext) :=
            lt_of_le_of_ne (hfirst next List.mem_cons_self a ha _ hhead) hdiff
          rcases List.mem_cons.1 hrun' with rfl | hrun'
          · rwa [hconst run' (List.mem_cons_of_mem _ List.mem_cons_self) b hb _ hhead]
          · exact lt_of_lt_of_le hlt
              ((List.pairwise_cons.1 hrest).1 run' hrun' _ hhead b hb)

/-- Along a list whose keys do not decrease, the keys of the runs increase. -/
theorem pairwise_runsBy [PartialOrder κ] {l : List α}
    (h : l.Pairwise fun a b => key a ≤ key b) :
    (runsBy key l).Pairwise fun run run' => ∀ a ∈ run, ∀ b ∈ run', key a < key b := by
  refine pairwise_lt_of_border (fun run hrun a ha b hb => key_eq_of_mem_runsBy hrun ha hb) ?_
    (List.isChain_getLast_head_splitBy (fun a b => key a == key b) l)
  have hflatten : (runsBy key l).flatten = l := List.flatten_splitBy _ _
  rw [← hflatten, List.pairwise_flatten] at h
  exact h.2

end DeepKernel.Lib
