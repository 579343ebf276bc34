import DeepKernel.Lib.Execution
import DeepKernel.Lib.Layout

/-!
# The feature extractor of the server

`FeatureExtractor.extract` over an arbitrary ordered field `R` and an arbitrary function `log`: the
arithmetic is exact, the rounding to `double` and `float` is left out. The fields of a record are
Java integers with their overflow. Counters are natural numbers: a Java list has fewer than `2 ^ 31`
elements, so no counter overflows.

An array index is an element of a finite type. `mapBucket` computes a Java `int`; that it is an
index is `mapBucket_range`, which its remainder and its clamp need together.
-/

set_option autoImplicit false

namespace DeepKernel.Server

open DeepKernel.Lib

/-- `TraceRecord` of the contracts. -/
structure TraceRecord where
  deltaTsUs : Int32
  syscallId : Int32
  argClass : Int32
  argBucket : Int32
  deriving DecidableEq

/-- `ShortWindowPayload`; the records may be `null`. -/
structure ShortWindowPayload where
  version : Int32
  agentId : String
  containerId : String
  windowStartTsNs : Int64
  records : Option (List TraceRecord)

/-! ## Index maps -/

/-- `mapSyscallToAlphabet`: the `switch` in the order of its cases. -/
def mapSyscallToAlphabet (id : Int32) : Fin 24 :=
  if id = 59 then 0
  else if id = 2 ∨ id = 257 then 1
  else if id = 0 then 2
  else if id = 1 then 3
  else if id = 3 then 4
  else if id = 4 ∨ id = 5 then 5
  else if id = 42 then 6
  else if id = 43 then 7
  else if id = 44 ∨ id = 46 then 8
  else if id = 45 ∨ id = 47 then 9
  else if id = 41 ∨ id = 49 ∨ id = 50 then 10
  else if id = 57 ∨ id = 56 then 11
  else if id = 9 ∨ id = 10 then 12
  else if id = 90 ∨ id = 91 then 13
  else if id = 87 ∨ id = 84 then 14
  else if id = 82 then 15
  else if id = 102 ∨ id = 105 then 16
  else if id = 160 then 17
  else if id = 101 then 18
  else if id = 165 ∨ id = 166 then 19
  else if id = 12 then 20
  else if id = 78 then 21
  else if id = 162 then 22
  else 23

/-- `mapBucket`. The product and the sum wrap, and `%` keeps the sign of its left operand. -/
def mapBucket (argClass argBucket : Int32) : Int32 :=
  let idx := (argClass * 4 + argBucket) % 12
  if idx < 0 ∨ 12 ≤ idx then 11 else idx

theorem mapBucket_range (argClass argBucket : Int32) :
    (mapBucket argClass argBucket).toNatClampNeg < 12 := by
  unfold mapBucket
  dsimp only
  split
  · decide
  · rename_i h
    rw [not_or, Int32.not_lt, Int32.not_le] at h
    have hlt := Int32.lt_iff_toInt_lt.1 h.2
    have htwelve : (12 : Int32).toInt = 12 := rfl
    rw [Int32.toNatClampNeg]
    omega

/-- The slot of `bucketCounts` that a record is counted in. -/
def bucketIndex (r : TraceRecord) : Fin 12 :=
  ⟨(mapBucket r.argClass r.argBucket).toNatClampNeg, mapBucket_range r.argClass r.argBucket⟩

/-! ## The loop over the records -/

/-- The distance of a timestamp from the start of the window is exact: neither the product nor the
difference wraps. -/
theorem timestamp_sub_start (firstTs : Int64) (deltaTsUs : Int32) :
    (firstTs + deltaTsUs.toInt64 * 1000 - firstTs).toInt = deltaTsUs.toInt * 1000 := by
  have hcancel : firstTs + deltaTsUs.toInt64 * 1000 - firstTs = deltaTsUs.toInt64 * 1000 := by
    rw [Int64.add_comm, Int64.add_sub_cancel]
  have hthousand : (1000 : Int64).toInt = 1000 := rfl
  have hle := deltaTsUs.le_toInt
  have hlt := deltaTsUs.toInt_lt
  rw [hcancel, Int64.toInt_mul, Int32.toInt_toInt64, hthousand, Int.bmod_eq_of_le]
  · omega
  · omega

section Extract

variable {R : Type} [Field R]

/-- The variables of the loop over the records. -/
structure Scan (R : Type) where
  transitions : Fin 24 × Fin 24 → R
  outgoing : Fin 24 → Nat
  bucketCounts : Fin 12 → Nat
  fileOps : Nat
  netOps : Nat
  procOps : Nat
  otherOps : Nat
  lastTs : Int64

/-- The variables before the loop. -/
def Scan.init (firstTs : Int64) : Scan R where
  transitions := fun _ => 0
  outgoing := fun _ => 0
  bucketCounts := fun _ => 0
  fileOps := 0
  netOps := 0
  procOps := 0
  otherOps := 0
  lastTs := firstTs

/-- The counting part of the loop body. -/
def Scan.countRecord (firstTs : Int64) (s : Scan R) (r : TraceRecord) : Scan R :=
  { s with
    bucketCounts :=
      Function.update s.bucketCounts (bucketIndex r) (s.bucketCounts (bucketIndex r) + 1)
    fileOps := if r.argClass = 0 then s.fileOps + 1 else s.fileOps
    netOps := if r.argClass = 0 then s.netOps else if r.argClass = 1 then s.netOps + 1 else s.netOps
    procOps :=
      if r.argClass = 0 ∨ r.argClass = 1 then s.procOps
      else if r.argClass = 2 then s.procOps + 1 else s.procOps
    otherOps :=
      if r.argClass = 0 ∨ r.argClass = 1 ∨ r.argClass = 2 then s.otherOps else s.otherOps + 1
    lastTs := firstTs + r.deltaTsUs.toInt64 * 1000 }

/-- The transition part of the loop body. -/
def Scan.countTransition (s : Scan R) (prevId currId : Fin 24) : Scan R :=
  { s with
    transitions :=
      Function.update s.transitions (prevId, currId) (s.transitions (prevId, currId) + 1)
    outgoing := Function.update s.outgoing prevId (s.outgoing prevId + 1) }

/-- The loop body; `prev` is the record before, if there is one. -/
def Scan.step (firstTs : Int64) (prev : Option TraceRecord) (s : Scan R) (r : TraceRecord) :
    Scan R :=
  match prev with
  | some p =>
      (s.countRecord firstTs r).countTransition (mapSyscallToAlphabet p.syscallId)
        (mapSyscallToAlphabet r.syscallId)
  | none => s.countRecord firstTs r

/-- The loop over the records. -/
def Scan.run (firstTs : Int64) : Option TraceRecord → Scan R → List TraceRecord → Scan R
  | _, s, [] => s
  | prev, s, r :: rs => Scan.run firstTs (some r) (s.step firstTs prev r) rs

/-- The rows after normalization. -/
def Scan.normalized (s : Scan R) (cell : Fin 24 × Fin 24) : R :=
  if s.outgoing cell.1 = 0 then s.transitions cell
  else s.transitions cell / (s.outgoing cell.1 : R)

/-! ## The vector -/

variable [LinearOrder R]

/-- The cells with a positive entry. -/
def Scan.positiveCells (s : Scan R) : List (Fin 24 × Fin 24) :=
  (rowMajor 24 24).filter fun cell => decide (0 < s.normalized cell)

/-- The probabilities that enter the entropy, in the order of the loop. -/
def Scan.probabilities (s : Scan R) (totalTransitions : Nat) : List R :=
  s.positiveCells.map fun cell =>
    s.normalized cell * (s.outgoing cell.1 : R) / (totalTransitions : R)

/-- The entropy sum. -/
def entropyOf (log : R → R) (ps : List R) : R :=
  ps.foldl (fun entropy p => entropy - p * log (p + 1 / 10 ^ 12)) 0

/-- The statistics between the matrix and the bucket ratios. -/
def Scan.statistics (s : Scan R) (log : R → R) (firstTs : Int64) (total : Nat) : List R :=
  let durationSec : R := ((s.lastTs - firstTs).toInt : R) / 10 ^ 9
  [(s.positiveCells.length : R),
    entropyOf log (s.probabilities (max (total - 1) 1)),
    if total = 0 then 0 else (s.fileOps : R) / (total : R),
    if total = 0 then 0 else (s.netOps : R) / (total : R),
    durationSec,
    if 0 < total then durationSec / (total : R) else 0]

/-- The ratios of the argument buckets. -/
def Scan.bucketRatios (s : Scan R) (total : Nat) : List R :=
  (List.finRange 12).map fun b => (s.bucketCounts b : R) / ((max total 1 : Nat) : R)

/-- The vector made of the variables after the loop, padded or cut to 594 values. -/
def Scan.vector (s : Scan R) (log : R → R) (firstTs : Int64) (total : Nat) : List R :=
  fitTo 594 0
    ((rowMajor 24 24).map s.normalized ++ s.statistics log firstTs total ++
      s.bucketRatios total)

/-- The loop of `extract` over the records of a window. -/
def scanWindow (firstTs : Int64) (records : List TraceRecord) : Scan R :=
  Scan.run firstTs none (Scan.init firstTs) records

/-- `extract`: the values of the feature vector. -/
def extract (log : R → R) (payload : ShortWindowPayload) : List R :=
  match payload.records with
  | none => []
  | some [] => []
  | some (r :: rs) =>
      (scanWindow payload.windowStartTsNs (r :: rs)).vector log payload.windowStartTsNs
        (r :: rs).length

/-! ## Counters and timestamps after the loop -/

omit [LinearOrder R] in
theorem Scan.run_nil (firstTs : Int64) (prev : Option TraceRecord) (s : Scan R) :
    Scan.run firstTs prev s [] = s := rfl

omit [LinearOrder R] in
theorem Scan.run_cons (firstTs : Int64) (prev : Option TraceRecord) (s : Scan R) (r : TraceRecord)
    (records : List TraceRecord) :
    Scan.run firstTs prev s (r :: records) =
      Scan.run firstTs (some r) (s.step firstTs prev r) records := rfl

omit [LinearOrder R] in
/-- The loop counts the records of class 0 as file and those of class 1 as network operations. -/
theorem scanWindow_ops (firstTs : Int64) (records : List TraceRecord) :
    (scanWindow firstTs records : Scan R).fileOps =
        records.countP (fun r => decide (r.argClass = 0)) ∧
      (scanWindow firstTs records : Scan R).netOps =
        records.countP (fun r => decide (r.argClass = 1)) := by
  have hstep : ∀ (prev : Option TraceRecord) (s : Scan R) (r : TraceRecord),
      (s.step firstTs prev r).fileOps =
          s.fileOps + (if decide (r.argClass = 0) = true then 1 else 0) ∧
        (s.step firstTs prev r).netOps =
          s.netOps + (if decide (r.argClass = 1) = true then 1 else 0) := by
    intro prev s r
    cases prev <;>
      simp only [Scan.step, Scan.countTransition, Scan.countRecord] <;>
      split_ifs <;> simp_all
  have hfile := count_loop (Scan.run_nil firstTs) (Scan.run_cons firstTs)
    (fun prev s r => (hstep prev s r).1) none (Scan.init firstTs) records
  have hnet := count_loop (Scan.run_nil firstTs) (Scan.run_cons firstTs)
    (fun prev s r => (hstep prev s r).2) none (Scan.init firstTs) records
  exact ⟨hfile.trans (Nat.zero_add _), hnet.trans (Nat.zero_add _)⟩

omit [LinearOrder R] in
/-- The last timestamp is that of the last record. -/
theorem scanWindow_lastTs (firstTs : Int64) (records : List TraceRecord) {r : TraceRecord}
    (hlast : records.getLast? = some r) :
    (scanWindow firstTs records : Scan R).lastTs = firstTs + r.deltaTsUs.toInt64 * 1000 := by
  have hstep : ∀ (prev : Option TraceRecord) (s : Scan R) (r : TraceRecord),
      (s.step firstTs prev r).lastTs = firstTs + r.deltaTsUs.toInt64 * 1000 := by
    intro prev s r
    cases prev with
    | none => rfl
    | some p => rfl
  exact last_loop (Scan.run_nil firstTs) (Scan.run_cons firstTs) hstep hlast none
    (Scan.init firstTs)

/-! ## Layout -/

theorem vector_layout (s : Scan R) (log : R → R) (firstTs : Int64) (total : Nat) :
    IsLayout (s.vector log firstTs total) ((rowMajor 24 24).map s.normalized)
      (s.statistics log firstTs total) (s.bucketRatios total) 576 6 where
  eq_blocks := fitTo_of_length (by
    simp [length_rowMajor, Scan.statistics, Scan.bucketRatios])
  length_first := by rw [List.length_map, length_rowMajor]
  length_second := rfl

/-- The class ratios and the timing features of a non-empty window. -/
theorem vector_ratios (s : Scan R) (log : R → R) (firstTs : Int64) {total : Nat} (h : 0 < total) :
    (s.vector log firstTs total)[578]? = some ((s.fileOps : R) / (total : R)) ∧
      (s.vector log firstTs total)[579]? = some ((s.netOps : R) / (total : R)) ∧
      (s.vector log firstTs total)[580]? = some (((s.lastTs - firstTs).toInt : R) / 10 ^ 9) ∧
      (s.vector log firstTs total)[581]? =
        some (((s.lastTs - firstTs).toInt : R) / 10 ^ 9 / (total : R)) := by
  have hne : total ≠ 0 := Nat.pos_iff_ne_zero.1 h
  have hget := fun i hi => (vector_layout s log firstTs total).getElem?_second (i := i) hi
  simp only [Scan.statistics, if_pos h, if_neg hne] at hget
  exact ⟨hget 2 (by omega), hget 3 (by omega), hget 4 (by omega), hget 5 (by omega)⟩

theorem extract_of_ne_nil (log : R → R) {payload : ShortWindowPayload} {records : List TraceRecord}
    (hrecords : payload.records = some records) (hne : records ≠ []) :
    extract log payload =
      (scanWindow payload.windowStartTsNs records).vector log payload.windowStartTsNs
        records.length := by
  cases records with
  | nil => exact absurd rfl hne
  | cons r rs => rw [extract, hrecords]

end Extract

end DeepKernel.Server
