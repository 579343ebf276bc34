import DeepKernel.Lib.Execution
import DeepKernel.Lib.Layout
import DeepKernel.Ml.DumpFile

/-!
# The feature extraction of the training tool

`extract_features` of `train_from_dump.py`, the Python port of the extractor of the server, in exact
arithmetic over an arbitrary ordered field `R`. Integers are Python's: unbounded, with the floor
modulo.
-/

set_option autoImplicit false

namespace DeepKernel.Ml

open DeepKernel.Lib

/-! ## Index maps -/

/-- The dictionary of `map_syscall_to_alphabet`. -/
def mapping : List (Int × Fin 24) :=
  [(59, 0), (2, 1), (257, 1), (0, 2), (1, 3), (3, 4), (4, 5), (5, 5), (42, 6), (43, 7), (44, 8),
    (46, 8), (45, 9), (47, 9), (41, 10), (49, 10), (50, 10), (57, 11), (56, 11), (9, 12), (10, 12),
    (90, 13), (91, 13), (87, 14), (84, 14), (82, 15), (102, 16), (105, 16), (160, 17), (101, 18),
    (165, 19), (166, 19), (12, 20), (78, 21), (162, 22)]

/-- `map_syscall_to_alphabet`. -/
def mapSyscallToAlphabet (syscallId : Int) : Fin 24 := (mapping.lookup syscallId).getD 23

/-- `map_bucket`. -/
def mapBucket (argClass argBucket : Int) : Int := max 0 (min ((argClass * 4 + argBucket) % 12) 11)

theorem mapBucket_range (argClass argBucket : Int) : (mapBucket argClass argBucket).toNat < 12 := by
  unfold mapBucket
  omega

/-- The slot of `bucket_counts` that a record is counted in. -/
def bucketIndex (r : TraceRecord) : Fin 12 :=
  ⟨(mapBucket r.argClass r.argBucket).toNat, mapBucket_range r.argClass r.argBucket⟩

/-! ## The loop over the records -/

section Extract

variable {R : Type} [Field R]

/-- The variables of the loop over the records. -/
structure Scan (R : Type) where
  transitions : Fin 24 × Fin 24 → R
  outgoing : Fin 24 → Nat
  bucketCounts : Fin 12 → Nat
  fileOps : Nat
  netOps : Nat
  procOps : Nat
  otherOps : Nat
  lastTs : Int

/-- The variables before the loop. -/
def Scan.init (firstTs : Int) : Scan R where
  transitions := fun _ => 0
  outgoing := fun _ => 0
  bucketCounts := fun _ => 0
  fileOps := 0
  netOps := 0
  procOps := 0
  otherOps := 0
  lastTs := firstTs

/-- The counting part of the loop body. -/
def Scan.countRecord (firstTs : Int) (s : Scan R) (r : TraceRecord) : Scan R :=
  { s with
    bucketCounts :=
      Function.update s.bucketCounts (bucketIndex r) (s.bucketCounts (bucketIndex r) + 1)
    fileOps := if r.argClass = 1 then s.fileOps + 1 else s.fileOps
    netOps := if r.argClass = 1 then s.netOps else if r.argClass = 2 then s.netOps + 1 else s.netOps
    procOps :=
      if r.argClass = 1 ∨ r.argClass = 2 then s.procOps
      else if r.argClass = 3 then s.procOps + 1 else s.procOps
    otherOps :=
      if r.argClass = 1 ∨ r.argClass = 2 ∨ r.argClass = 3 then s.otherOps else s.otherOps + 1
    lastTs := firstTs + r.deltaTsUs }

/-- The transition part of the loop body. -/
def Scan.countTransition (s : Scan R) (prevId currId : Fin 24) : Scan R :=
  { s with
    transitions :=
      Function.update s.transitions (prevId, currId) (s.transitions (prevId, currId) + 1)
    outgoing := Function.update s.outgoing prevId (s.outgoing prevId + 1) }

/-- The loop body; `prev` is the record before, if there is one. -/
def Scan.step (firstTs : Int) (prev : Option TraceRecord) (s : Scan R) (r : TraceRecord) : Scan R :=
  match prev with
  | some p =>
      (s.countRecord firstTs r).countTransition (mapSyscallToAlphabet p.syscallId)
        (mapSyscallToAlphabet r.syscallId)
  | none => s.countRecord firstTs r

/-- The loop over the records. -/
def Scan.run (firstTs : Int) : Option TraceRecord → Scan R → List TraceRecord → Scan R
  | _, s, [] => s
  | prev, s, r :: rs => Scan.run firstTs (some r) (s.step firstTs prev r) rs

/-- The rows after normalization. -/
def Scan.normalized (s : Scan R) (cell : Fin 24 × Fin 24) : R :=
  if 0 < s.outgoing cell.1 then s.transitions cell / (s.outgoing cell.1 : R)
  else s.transitions cell

/-! ## The vector -/

variable [LinearOrder R]

/-- The cells with a positive entry. -/
def Scan.positiveCells (s : Scan R) : List (Fin 24 × Fin 24) :=
  (rowMajor 24 24).filter fun cell => decide (0 < s.normalized cell)

/-- The probabilities that enter the entropy, in the order of the loop. -/
def Scan.probabilities (s : Scan R) (totalTransitions : Nat) : List R :=
  s.positiveCells.map fun cell =>
    s.normalized cell * (s.outgoing cell.1 : R) / (totalTransitions : R)

/-- The entropy sum. -/
def entropyOf (log : R → R) (ps : List R) : R :=
  ps.foldl (fun entropy p => entropy - p * log (p + 1 / 10 ^ 12)) 0

/-- The six statistics. -/
def Scan.statistics (s : Scan R) (log : R → R) (firstTs : Int) (total : Nat) : List R :=
  let durationSec : R := ((s.lastTs - firstTs : Int) : R) / 10 ^ 6
  [(s.positiveCells.length : R),
    entropyOf log (s.probabilities (max (total - 1) 1)),
    if 0 < total then (s.fileOps : R) / (total : R) else 0,
    if 0 < total then (s.netOps : R) / (total : R) else 0,
    durationSec,
    if 0 < total then durationSec / (total : R) else 0]

/-- The ratios of the argument buckets. -/
def Scan.bucketRatios (s : Scan R) (total : Nat) : List R :=
  (List.finRange 12).map fun b => (s.bucketCounts b : R) / ((max total 1 : Nat) : R)

/-- The vector made of the variables after the loop, padded or cut to `FEATURE_DIM` values. -/
def Scan.vector (s : Scan R) (log : R → R) (firstTs : Int) (total : Nat) : List R :=
  fitTo 594 0
    ((rowMajor 24 24).map s.normalized ++ s.statistics log firstTs total ++
      s.bucketRatios total)

/-- The loop of `extract_features` over the records of a window. -/
def scanWindow (firstTs : Int) (records : List TraceRecord) : Scan R :=
  Scan.run firstTs none (Scan.init firstTs) records

/-- `extract_features`. -/
def extractFeatures (log : R → R) (records : List TraceRecord) (windowStartTsUs : Int) : List R :=
  if records.isEmpty then List.replicate 594 0
  else (scanWindow windowStartTsUs records).vector log windowStartTsUs records.length

/-! ## Counters and timestamps after the loop -/

omit [LinearOrder R] in
theorem Scan.run_nil (firstTs : Int) (prev : Option TraceRecord) (s : Scan R) :
    Scan.run firstTs prev s [] = s := rfl

omit [LinearOrder R] in
theorem Scan.run_cons (firstTs : Int) (prev : Option TraceRecord) (s : Scan R) (r : TraceRecord)
    (records : List TraceRecord) :
    Scan.run firstTs prev s (r :: records) =
      Scan.run firstTs (some r) (s.step firstTs prev r) records := rfl

omit [LinearOrder R] in
/-- The loop counts the records of class 1 as file and those of class 2 as network operations. -/
theorem scanWindow_ops (firstTs : Int) (records : List TraceRecord) :
    (scanWindow firstTs records : Scan R).fileOps =
        records.countP (fun r => decide (r.argClass = 1)) ∧
      (scanWindow firstTs records : Scan R).netOps =
        records.countP (fun r => decide (r.argClass = 2)) := by
  have hstep : ∀ (prev : Option TraceRecord) (s : Scan R) (r : TraceRecord),
      (s.step firstTs prev r).fileOps =
          s.fileOps + (if decide (r.argClass = 1) = true then 1 else 0) ∧
        (s.step firstTs prev r).netOps =
          s.netOps + (if decide (r.argClass = 2) = true then 1 else 0) := by
    intro prev s r
    cases prev <;>
      simp only [Scan.step, Scan.countTransition, Scan.countRecord] <;>
      split_ifs <;> simp_all
  have hfile := count_loop (Scan.run_nil firstTs) (Scan.run_cons firstTs)
    (fun prev s r => (hstep prev s r).1) none (Scan.init firstTs) records
  have hnet := count_loop (Scan.run_nil firstTs) (Scan.run_cons firstTs)
    (fun prev s r => (hstep prev s r).2) none (Scan.init firstTs) records
  exact ⟨hfile.trans (Nat.zero_add _), hnet.trans (Nat.zero_add _)⟩

omit [LinearOrder R] in
/-- The last timestamp is that of the last record. -/
theorem scanWindow_lastTs (firstTs : Int) (records : List TraceRecord) {r : TraceRecord}
    (hlast : records.getLast? = some r) :
    (scanWindow firstTs records : Scan R).lastTs = firstTs + r.deltaTsUs := by
  have hstep : ∀ (prev : Option TraceRecord) (s : Scan R) (r : TraceRecord),
      (s.step firstTs prev r).lastTs = firstTs + r.deltaTsUs := by
    intro prev s r
    cases prev with
    | none => rfl
    | some p => rfl
  exact last_loop (Scan.run_nil firstTs) (Scan.run_cons firstTs) hstep hlast none
    (Scan.init firstTs)

/-! ## Layout -/

theorem vector_layout (s : Scan R) (log : R → R) (firstTs : Int) (total : Nat) :
    IsLayout (s.vector log firstTs total) ((rowMajor 24 24).map s.normalized)
      (s.statistics log firstTs total) (s.bucketRatios total) 576 6 where
  eq_blocks := fitTo_of_length (by
    simp [length_rowMajor, Scan.statistics, Scan.bucketRatios])
  length_first := by rw [List.length_map, length_rowMajor]
  length_second := rfl

/-- The class ratios and the timing features of a non-empty window. -/
theorem vector_ratios (s : Scan R) (log : R → R) (firstTs : Int) {total : Nat} (h : 0 < total) :
    (s.vector log firstTs total)[578]? = some ((s.fileOps : R) / (total : R)) ∧
      (s.vector log firstTs total)[579]? = some ((s.netOps : R) / (total : R)) ∧
      (s.vector log firstTs total)[580]? = some (((s.lastTs - firstTs : Int) : R) / 10 ^ 6) ∧
      (s.vector log firstTs total)[581]? =
        some (((s.lastTs - firstTs : Int) : R) / 10 ^ 6 / (total : R)) := by
  have hget := fun i hi => (vector_layout s log firstTs total).getElem?_second (i := i) hi
  simp only [Scan.statistics, if_pos h] at hget
  exact ⟨hget 2 (by omega), hget 3 (by omega), hget 4 (by omega), hget 5 (by omega)⟩

theorem extractFeatures_of_ne_nil (log : R → R) {records : List TraceRecord} (hne : records ≠ [])
    (windowStartTsUs : Int) :
    extractFeatures log records windowStartTsUs =
      (scanWindow windowStartTsUs records).vector log windowStartTsUs records.length := by
  have hempty : records.isEmpty = false := by simpa using hne
  rw [extractFeatures, hempty, if_neg Bool.false_ne_true]

/-! ## Deltas -/

/-- The record without its delta. -/
def TraceRecord.undated (r : TraceRecord) : TraceRecord := { r with deltaTsUs := 0 }

omit [LinearOrder R] in
/-- The tables after the loop do not depend on the deltas. -/
theorem Scan.run_undated (firstTs : Int) (prev : Option TraceRecord) (s : Scan R) (t : Int)
    (records : List TraceRecord) :
    ∃ t', Scan.run firstTs (prev.map TraceRecord.undated) { s with lastTs := t }
        (records.map TraceRecord.undated) =
      { Scan.run firstTs prev s records with lastTs := t' } := by
  induction records generalizing prev s t with
  | nil => exact ⟨t, rfl⟩
  | cons r records ih =>
      obtain ⟨t', ht'⟩ := ih (some r) (s.step firstTs prev r) (firstTs + 0)
      refine ⟨t', ?_⟩
      rw [Scan.run_cons, List.map_cons, Scan.run_cons, ← ht']
      cases prev with
      | none => rfl
      | some p => rfl

/-- The deltas enter the two timing features only. -/
theorem getElem?_extractFeatures_undated (log : R → R) {records : List TraceRecord}
    (hne : records ≠ []) (windowStartTsUs : Int) {i : Nat} (hi : i < 580 ∨ 582 ≤ i) :
    (extractFeatures log (records.map TraceRecord.undated) windowStartTsUs)[i]? =
      (extractFeatures log records windowStartTsUs)[i]? := by
  have hmap : records.map TraceRecord.undated ≠ [] := by simpa using hne
  obtain ⟨t, ht⟩ := Scan.run_undated (R := R) windowStartTsUs none (Scan.init windowStartTsUs)
    windowStartTsUs records
  have hscan : (scanWindow windowStartTsUs (records.map TraceRecord.undated) : Scan R) =
      { (scanWindow windowStartTsUs records : Scan R) with lastTs := t } := ht
  rw [extractFeatures_of_ne_nil log hmap, extractFeatures_of_ne_nil log hne, hscan, List.length_map]
  have hundated := vector_layout { (scanWindow windowStartTsUs records : Scan R) with lastTs := t }
    log windowStartTsUs records.length
  have hvector := vector_layout (scanWindow windowStartTsUs records : Scan R) log windowStartTsUs
    records.length
  by_cases hfirst : i < 576
  · rw [hundated.getElem?_first hfirst, hvector.getElem?_first hfirst]
    rfl
  by_cases hsecond : i < 582
  · obtain rfl | rfl | rfl | rfl : i = 576 + 0 ∨ i = 576 + 1 ∨ i = 576 + 2 ∨ i = 576 + 3 := by omega
    all_goals
      rw [hundated.getElem?_second (by omega), hvector.getElem?_second (by omega)]
      rfl
  · obtain ⟨k, rfl⟩ := Nat.exists_eq_add_of_le (not_lt.1 hsecond)
    exact (hundated.getElem?_third k).trans (hvector.getElem?_third k).symm

end Extract

end DeepKernel.Ml
