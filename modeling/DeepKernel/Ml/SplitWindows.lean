import DeepKernel.Lib.Runs
import DeepKernel.Ml.DumpFile
import Mathlib.Tactic

/-!
# Splitting a dump into windows

`split_into_windows` of `train_from_dump.py`. The inner loop moves the start of the window on, by one
window at a time, until the record is in it; it may run any number of times, and flushes the open
window only the first time. It is modelled with fuel, so that it may fail to end: for a window of no
length it does.

What the function computes is grouping by time slot: `slotRuns`.
-/

set_option autoImplicit false

namespace DeepKernel.Ml

open DeepKernel.Lib

/-! ## The function -/

/-- The variables of the loop over the records. -/
structure SplitState where
  windows : List (List TraceRecord)
  currentWindow : List TraceRecord
  windowStart : Int
  cumulativeTs : Int
  deriving DecidableEq

/-- `if current_window: windows.append(current_window)`. -/
def SplitState.flushed (s : SplitState) : List (List TraceRecord) :=
  if s.currentWindow.isEmpty then s.windows else s.windows ++ [s.currentWindow]

/-- The inner loop. -/
def SplitState.slide (windowDurationUs : Int) : Nat → SplitState → Option SplitState
  | 0, _ => none
  | fuel + 1, s =>
      if windowDurationUs ≤ s.cumulativeTs - s.windowStart then
        slide windowDurationUs fuel
          { s with
            windows := s.flushed
            currentWindow := []
            windowStart := s.windowStart + windowDurationUs }
      else some s

/-- The body of the loop over the records. -/
def SplitState.addRecord (windowDurationUs : Int) (fuel : Nat) (s : SplitState) (r : TraceRecord) :
    Option SplitState :=
  (slide windowDurationUs fuel { s with cumulativeTs := s.cumulativeTs + r.deltaTsUs }).map
    fun s' => { s' with currentWindow := s'.currentWindow ++ [r] }

/-- `split_into_windows`; `none` if an inner loop has run out of fuel. -/
def splitIntoWindows (windowDurationUs : Int) (fuel : Nat) (records : List TraceRecord) :
    Option (List (List TraceRecord)) :=
  if records.isEmpty then some []
  else (records.foldlM (SplitState.addRecord windowDurationUs fuel) ⟨[], [], 0, 0⟩).map
    SplitState.flushed

/-! ## Time slots -/

/-- The records with the numbers of their slots: the sum of the deltas up to a record, divided by the
length of a slot. -/
def stamp (slotUs : Int) : Int → List TraceRecord → List (TraceRecord × Int)
  | _, [] => []
  | before, r :: records =>
      (r, (before + r.deltaTsUs) / slotUs) :: stamp slotUs (before + r.deltaTsUs) records

/-- The maximal runs of consecutive records in the same slot. -/
def slotRuns (slotUs : Int) (records : List TraceRecord) : List (List (TraceRecord × Int)) :=
  runsBy Prod.snd (stamp slotUs 0 records)

theorem map_fst_stamp (slotUs before : Int) (records : List TraceRecord) :
    (stamp slotUs before records).map Prod.fst = records := by
  induction records generalizing before with
  | nil => rfl
  | cons r records ih => rw [stamp, List.map_cons, ih]

/-- The sum of the first deltas, in the slot of each record. -/
theorem getElem?_stamp (slotUs before : Int) (records : List TraceRecord) (i : Nat) :
    (stamp slotUs before records)[i]? = records[i]?.map fun r =>
      (r, (before + ((records.take (i + 1)).map TraceRecord.deltaTsUs).sum) / slotUs) := by
  induction records generalizing before i with
  | nil => rfl
  | cons r records ih =>
      cases i with
      | zero => simp [stamp]
      | succ i =>
          rw [stamp, List.getElem?_cons_succ, ih, List.getElem?_cons_succ, List.take_succ_cons,
            List.map_cons, List.sum_cons, add_assoc]

section Slots

variable {slotUs : Int} (hslot : 1 ≤ slotUs)

include hslot

theorem le_of_mem_stamp {before : Int} {records : List TraceRecord}
    (hdelta : ∀ r ∈ records, 0 ≤ r.deltaTsUs) {x : TraceRecord × Int}
    (hx : x ∈ stamp slotUs before records) : before / slotUs ≤ x.2 := by
  induction records generalizing before with
  | nil => cases hx
  | cons r records ih =>
      have hr := hdelta r List.mem_cons_self
      have hstep : before / slotUs ≤ (before + r.deltaTsUs) / slotUs :=
        Int.ediv_le_ediv (by omega) (by omega)
      rcases List.mem_cons.1 hx with rfl | hx
      · exact hstep
      · exact hstep.trans (ih (fun q hq => hdelta q (List.mem_cons_of_mem _ hq)) hx)

/-- The slots do not decrease. -/
theorem pairwise_stamp {records : List TraceRecord} (hdelta : ∀ r ∈ records, 0 ≤ r.deltaTsUs)
    (before : Int) : (stamp slotUs before records).Pairwise fun a b => a.2 ≤ b.2 := by
  induction records generalizing before with
  | nil => exact List.Pairwise.nil
  | cons r records ih =>
      have hrest : ∀ q ∈ records, 0 ≤ q.deltaTsUs := fun q hq => hdelta q (List.mem_cons_of_mem _ hq)
      exact List.pairwise_cons.2 ⟨fun x hx => le_of_mem_stamp hslot hrest hx, ih hrest _⟩

end Slots

/-! ## The inner loop -/

/-- The inner loop ends: it moves the start by as many windows as fit before the record, and flushes
the open window if there is one of them. -/
theorem slide_eq {w : Int} (hw : 1 ≤ w) {s : SplitState} {fuel : Nat}
    (hle : s.windowStart ≤ s.cumulativeTs)
    (hfuel : ((s.cumulativeTs - s.windowStart) / w).toNat < fuel) :
    s.slide w fuel = some
      (if w ≤ s.cumulativeTs - s.windowStart then
        ⟨s.flushed, [], s.windowStart + w * ((s.cumulativeTs - s.windowStart) / w), s.cumulativeTs⟩
      else s) := by
  induction fuel generalizing s with
  | zero => exact absurd hfuel (Nat.not_lt_zero _)
  | succ fuel ih =>
      rw [SplitState.slide]
      split_ifs with hcond
      · -- one window less is left to go
        have hquot : (s.cumulativeTs - (s.windowStart + w)) / w =
            (s.cumulativeTs - s.windowStart) / w - 1 := by
          rw [show s.cumulativeTs - (s.windowStart + w) =
            s.cumulativeTs - s.windowStart + -1 * w by ring, Int.add_mul_ediv_right _ _ (by omega)]
          ring
        have hpos : 1 ≤ (s.cumulativeTs - s.windowStart) / w :=
          (Int.le_ediv_iff_mul_le (by omega)).2 (by omega)
        rw [ih (by simp only; omega) (by simp only [hquot]; omega)]
        simp only [hquot]
        split_ifs with hagain
        · -- the window is empty from the second round on, and nothing more is flushed
          simp only [SplitState.flushed, List.isEmpty_nil, if_true, Option.some.injEq,
            SplitState.mk.injEq, true_and, and_true]
          ring
        · -- this was the last round
          have hone : (s.cumulativeTs - s.windowStart) / w = 1 := by
            have hzero : (s.cumulativeTs - (s.windowStart + w)) / w = 0 :=
              Int.ediv_eq_zero_of_lt (by omega) (by omega)
            omega
          rw [hone, mul_one]
      · rfl

/-! ## The loop over the records -/

/-- The open window holds records of one slot, which is the one that the window starts at and the
last record is in. -/
structure SplitState.Open (w : Int) (s : SplitState) (run : List (TraceRecord × Int)) : Prop where
  current_eq : s.currentWindow = run.map Prod.fst
  slot_eq : ∀ x ∈ run, x.2 = s.cumulativeTs / w
  start_eq : s.windowStart = w * (s.cumulativeTs / w)

theorem SplitState.open_init (w : Int) : SplitState.Open w ⟨[], [], 0, 0⟩ [] where
  current_eq := rfl
  slot_eq := by simp
  start_eq := by simp

section Loop

variable {w : Int} (hw : 1 ≤ w) {s : SplitState} {run : List (TraceRecord × Int)}
  (h : s.Open w run)

include h in
theorem SplitState.Open.key_eq {x y : TraceRecord × Int} (hx : x ∈ run) (hy : y ∈ run) :
    x.2 = y.2 := (h.slot_eq x hx).trans (h.slot_eq y hy).symm

include h in
theorem SplitState.Open.flushed_eq :
    s.flushed = s.windows ++ (runsBy Prod.snd run).map fun g => g.map Prod.fst := by
  rw [SplitState.flushed, h.current_eq]
  cases run with
  | nil => exact (List.append_nil _).symm
  | cons x run =>
      rw [runsBy_of_forall_eq (List.cons_ne_nil _ _) fun a ha b hb => h.key_eq ha hb]
      rfl

include hw h

/-- One record: it stays in the open window, or the window is flushed and one with it is opened. -/
theorem SplitState.Open.addRecord {r : TraceRecord} (hdelta : 0 ≤ r.deltaTsUs)
    (hnonneg : 0 ≤ s.cumulativeTs) {fuel : Nat}
    (hfuel : ((s.cumulativeTs + r.deltaTsUs) / w).toNat < fuel) :
    ∃ s' run', s.addRecord w fuel r = some s' ∧ s'.Open w run' ∧
      s'.cumulativeTs = s.cumulativeTs + r.deltaTsUs ∧
      ∀ rest, s'.windows ++ (runsBy Prod.snd (run' ++ rest)).map (fun g => g.map Prod.fst) =
        s.windows ++ (runsBy Prod.snd (run ++ (r, (s.cumulativeTs + r.deltaTsUs) / w) :: rest)).map
          fun g => g.map Prod.fst := by
  have hstart := h.start_eq
  have hstay : w * (s.cumulativeTs / w) ≤ s.cumulativeTs := Int.mul_ediv_self_le (by omega)
  -- the inner loop moves the start by whole windows, one for each slot that is left
  have hquot : (s.cumulativeTs + r.deltaTsUs - s.windowStart) / w =
      (s.cumulativeTs + r.deltaTsUs) / w - s.cumulativeTs / w := by
    rw [hstart, show s.cumulativeTs + r.deltaTsUs - w * (s.cumulativeTs / w) =
      s.cumulativeTs + r.deltaTsUs + -(s.cumulativeTs / w) * w by ring,
      Int.add_mul_ediv_right _ _ (by omega)]
    ring
  have hcount : 0 ≤ s.cumulativeTs / w := Int.ediv_nonneg hnonneg (by omega)
  have hless : ((s.cumulativeTs + r.deltaTsUs - s.windowStart) / w).toNat < fuel := by
    rw [hquot]
    omega
  have hslide := slide_eq hw (s := { s with cumulativeTs := s.cumulativeTs + r.deltaTsUs })
    (by simp only; omega) hless
  rw [SplitState.addRecord, hslide]
  simp only [hquot]
  split_ifs with hcond
  · -- the record is in a later slot
    have hlater : s.cumulativeTs / w < (s.cumulativeTs + r.deltaTsUs) / w := by
      have hone := (Int.le_ediv_iff_mul_le (by omega : 0 < w)).2
        (by omega : 1 * w ≤ s.cumulativeTs + r.deltaTsUs - s.windowStart)
      omega
    refine ⟨_, [(r, (s.cumulativeTs + r.deltaTsUs) / w)], rfl, ⟨rfl, by simp, ?_⟩, rfl,
      fun rest => ?_⟩
    · simp only [hstart]
      ring
    · have hflushed : SplitState.flushed
          { s with cumulativeTs := s.cumulativeTs + r.deltaTsUs } = s.flushed := rfl
      simp only [hflushed, h.flushed_eq, List.append_assoc, List.singleton_append]
      -- an open window without records is not flushed, and is no run either
      cases hrun : run with
      | nil => rfl
      | cons x xs =>
          rw [← hrun]
          have hne : run ≠ [] := by simp [hrun]
          have hother : ∀ a ∈ run, a.2 ≠ (s.cumulativeTs + r.deltaTsUs) / w := fun a ha => by
            rw [h.slot_eq a ha]
            exact ne_of_lt hlater
          rw [runsBy_append_cons hne (fun a ha b hb => h.key_eq ha hb) hother,
            runsBy_of_forall_eq hne fun a ha b hb => h.key_eq ha hb]
          simp
  · -- the record is in the slot of the open window
    have hsame : (s.cumulativeTs + r.deltaTsUs) / w = s.cumulativeTs / w := by
      have hzero : (s.cumulativeTs + r.deltaTsUs - s.windowStart) / w = 0 :=
        Int.ediv_eq_zero_of_lt (by omega) (by omega)
      omega
    refine ⟨_, run ++ [(r, (s.cumulativeTs + r.deltaTsUs) / w)], rfl, ⟨?_, fun x hx => ?_, ?_⟩, rfl,
      fun rest => ?_⟩
    · simp [h.current_eq]
    · rcases List.mem_append.1 hx with hx | hx
      · exact (h.slot_eq x hx).trans hsame.symm
      · rw [List.mem_singleton.1 hx]
    · simp only [hstart, hsame]
    · rw [List.append_assoc, List.singleton_append]

/-- The rest of the records are grouped together with the open window. -/
theorem SplitState.Open.addRecords {records : List TraceRecord} (hdelta : ∀ r ∈ records, 0 ≤ r.deltaTsUs)
    (hnonneg : 0 ≤ s.cumulativeTs) {fuel : Nat}
    (hfuel : ((s.cumulativeTs + (records.map TraceRecord.deltaTsUs).sum) / w).toNat < fuel) :
    (records.foldlM (SplitState.addRecord w fuel) s).map SplitState.flushed =
      some (s.windows ++ (runsBy Prod.snd (run ++ stamp w s.cumulativeTs records)).map
        fun g => g.map Prod.fst) := by
  induction records generalizing s run with
  | nil =>
      rw [stamp, List.append_nil, ← h.flushed_eq]
      rfl
  | cons r records ih =>
      have hr := hdelta r List.mem_cons_self
      have hrest : ∀ q ∈ records, 0 ≤ q.deltaTsUs := fun q hq => hdelta q (List.mem_cons_of_mem _ hq)
      have hsum : 0 ≤ (records.map TraceRecord.deltaTsUs).sum := by
        refine List.sum_nonneg fun x hx => ?_
        obtain ⟨q, hq, rfl⟩ := List.mem_map.1 hx
        exact hrest q hq
      rw [List.map_cons, List.sum_cons] at hfuel
      -- the deltas are not negative, so the fuel for the last slot is enough for this one
      have hmono : (s.cumulativeTs + r.deltaTsUs) / w ≤
          (s.cumulativeTs + (r.deltaTsUs + (records.map TraceRecord.deltaTsUs).sum)) / w :=
        Int.ediv_le_ediv (by omega) (by omega)
      have hless : ((s.cumulativeTs + r.deltaTsUs) / w).toNat < fuel := by omega
      obtain ⟨s', run', hadd, hopen, hcumulative, hwindows⟩ := h.addRecord hw hr hnonneg hless
      rw [List.foldlM_cons, hadd]
      have hnext := ih hopen hrest (by omega) (by rw [hcumulative, add_assoc]; exact hfuel)
      rw [hcumulative, hwindows] at hnext
      exact hnext

end Loop

/-- Splitting into windows is grouping by time slot. With fuel for the number of slots no inner loop
runs out of it. -/
theorem split_into_windows_eq_slotRuns (windowDurationUs : Int) (hw : 1 ≤ windowDurationUs)
    (records : List TraceRecord) (hdelta : ∀ r ∈ records, 0 ≤ r.deltaTsUs) (fuel : Nat)
    (hfuel : ((records.map TraceRecord.deltaTsUs).sum / windowDurationUs).toNat < fuel) :
    splitIntoWindows windowDurationUs fuel records =
        some ((slotRuns windowDurationUs records).map fun g => g.map Prod.fst) ∧
      ((slotRuns windowDurationUs records).map fun g => g.map Prod.fst).flatten = records ∧
      (∀ g ∈ slotRuns windowDurationUs records, g ≠ []) ∧
      (∀ g ∈ slotRuns windowDurationUs records, ∀ x ∈ g, ∀ y ∈ g, x.2 = y.2) ∧
      (slotRuns windowDurationUs records).Pairwise fun g g' => ∀ x ∈ g, ∀ y ∈ g', x.2 < y.2 := by
  refine ⟨?_, ?_, fun g hg => List.ne_nil_of_mem_splitBy hg,
    fun g hg x hx y hy => key_eq_of_mem_runsBy hg hx hy,
    pairwise_runsBy (pairwise_stamp hw hdelta 0)⟩
  · rw [splitIntoWindows]
    cases records with
    | nil => rfl
    | cons r records =>
        have hrun := (SplitState.open_init windowDurationUs).addRecords hw hdelta (le_refl 0)
          (by rwa [zero_add] : _ < fuel)
        exact hrun
  · rw [← List.map_flatten, slotRuns, runsBy, List.flatten_splitBy, map_fst_stamp]

/-- A gap of exactly two windows between records. -/
theorem split_gap_of_two_windows :
    splitIntoWindows 10 5 [⟨3, 0, 0, 0⟩, ⟨27, 1, 0, 0⟩, ⟨9, 2, 0, 0⟩] =
      some [[⟨3, 0, 0, 0⟩], [⟨27, 1, 0, 0⟩, ⟨9, 2, 0, 0⟩]] :=
  (split_into_windows_eq_slotRuns 10 (by decide)
    [⟨3, 0, 0, 0⟩, ⟨27, 1, 0, 0⟩, ⟨9, 2, 0, 0⟩] (by simp) 5 (by decide)).1

end DeepKernel.Ml
