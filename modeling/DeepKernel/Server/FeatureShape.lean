import DeepKernel.Lib.Frequencies
import DeepKernel.Server.FeatureExtractor

/-!
# The shape of a feature vector

The loop of `extract` fills three tables of counts at once (`Scan.Counts`). A second pass divides the
rows of the transitions in place, and a third one gets the counts back from the ratios. What the
vector holds is said in terms of the records alone (`FeatureShape`).
-/

set_option autoImplicit false

namespace DeepKernel.Server

open DeepKernel.Lib

/-- The symbols of the records. -/
def symbols (records : List TraceRecord) : List (Fin 24) :=
  records.map fun r => mapSyscallToAlphabet r.syscallId

/-- The symbols of consecutive records. -/
def twoGrams (records : List TraceRecord) : List (Fin 24 × Fin 24) := neighbours (symbols records)

theorem map_fst_twoGrams (records : List TraceRecord) :
    (twoGrams records).map Prod.fst = symbols records.dropLast := by
  rw [twoGrams, map_fst_neighbours, symbols, symbols, List.map_dropLast]

theorem length_twoGrams (records : List TraceRecord) :
    (twoGrams records).length = records.length - 1 := by
  rw [twoGrams, length_neighbours, symbols, List.length_map]

/-! ## What the loop counts -/

section Count

variable {R : Type} [Field R]

/-- The tables count the buckets, the pairs and the first symbols of the pairs of some records. -/
structure Scan.Counts (s : Scan R) (records : List TraceRecord) : Prop where
  bucketCounts : ∀ b, s.bucketCounts b = (records.map bucketIndex).count b
  transitions : ∀ cell, s.transitions cell = ((twoGrams records).count cell : R)
  outgoing : ∀ i, s.outgoing i = ((twoGrams records).map Prod.fst).count i

theorem Scan.counts_init (firstTs : Int64) : (Scan.init firstTs : Scan R).Counts [] where
  bucketCounts := fun _ => rfl
  transitions := fun _ => Nat.cast_zero.symm
  outgoing := fun _ => rfl

theorem twoGrams_append_singleton (records : List TraceRecord) (r : TraceRecord) :
    twoGrams (records ++ [r]) = twoGrams records ++
      (records.getLast?.map fun p =>
        (mapSyscallToAlphabet p.syscallId, mapSyscallToAlphabet r.syscallId)).toList := by
  induction records with
  | nil => rfl
  | cons q records ih =>
      cases records with
      | nil => rfl
      | cons q' records =>
          have hcons : ∀ l, twoGrams (q :: q' :: l) =
              (mapSyscallToAlphabet q.syscallId, mapSyscallToAlphabet q'.syscallId) ::
                twoGrams (q' :: l) := fun l => rfl
          rw [List.cons_append, List.cons_append, hcons, ← List.cons_append, ih, hcons,
            List.getLast?_cons_cons, List.cons_append]

/-- The loop body counts its record. -/
theorem Scan.Counts.step {s : Scan R} {records : List TraceRecord} (h : s.Counts records)
    (firstTs : Int64) (r : TraceRecord) :
    (s.step firstTs records.getLast? r).Counts (records ++ [r]) := by
  have hbucket : ∀ b, (s.step firstTs records.getLast? r).bucketCounts b =
      s.bucketCounts b + if bucketIndex r = b then 1 else 0 := by
    intro b
    rw [← update_add_one]
    cases records.getLast? with
    | none => rfl
    | some p => rfl
  refine ⟨fun b => ?_, fun cell => ?_, fun i => ?_⟩
  · rw [hbucket, h.bucketCounts, List.map_append, List.map_singleton, List.count_append,
      List.count_singleton]
    simp only [beq_iff_eq]
  · -- the first record has no record before it and counts no transition
    rw [twoGrams_append_singleton, List.count_append, Nat.cast_add, ← h.transitions]
    cases records.getLast? with
    | none => simp [Scan.step, Scan.countRecord]
    | some p =>
        simp only [Option.map_some, Option.toList_some, List.count_singleton, beq_iff_eq,
          Nat.cast_ite, Nat.cast_one, Nat.cast_zero]
        exact update_add_one _ _ _
  · rw [twoGrams_append_singleton, List.map_append, List.count_append, ← h.outgoing]
    cases records.getLast? with
    | none => rfl
    | some p =>
        simp only [Option.map_some, Option.toList_some, List.map_singleton, List.count_singleton,
          beq_iff_eq]
        exact update_add_one _ _ _

theorem Scan.Counts.run {s : Scan R} {before : List TraceRecord} (h : s.Counts before)
    (firstTs : Int64) (records : List TraceRecord) :
    (Scan.run firstTs before.getLast? s records).Counts (before ++ records) := by
  induction records generalizing s before with
  | nil => rwa [List.append_nil]
  | cons r records ih =>
      have hnext := ih (h.step firstTs r)
      rwa [List.getLast?_concat, List.append_assoc] at hnext

theorem counts_scanWindow (firstTs : Int64) (records : List TraceRecord) :
    (scanWindow firstTs records : Scan R).Counts records :=
  (Scan.counts_init firstTs).run firstTs records

/-! ## The rows -/

namespace Scan.Counts

variable {s : Scan R} {records : List TraceRecord} (h : s.Counts records)

include h

/-- A row without pairs is left as it is, and is zero. -/
theorem normalized_eq (cell : Fin 24 × Fin 24) :
    s.normalized cell =
      ((twoGrams records).count cell : R) / (((twoGrams records).map Prod.fst).count cell.1 : R) := by
  rw [Scan.normalized, h.transitions, h.outgoing]
  split_ifs with hzero
  · have hnone : cell ∉ twoGrams records := by
      intro hmem
      exact List.count_eq_zero.1 hzero (List.mem_map_of_mem hmem)
    rw [List.count_eq_zero.2 hnone, Nat.cast_zero, zero_div]
  · rfl

theorem outgoing_ne_zero {cell : Fin 24 × Fin 24} (hmem : cell ∈ twoGrams records) :
    s.outgoing cell.1 ≠ 0 := by
  rw [h.outgoing]
  exact Nat.pos_iff_ne_zero.1 (List.count_pos_iff.2 (List.mem_map_of_mem hmem))

theorem bucketRatio_eq {n : Nat} (b : Fin 12) :
    (s.bucketRatios n)[b.val]? =
      some (((records.map bucketIndex).count b : R) / ((max n 1 : Nat) : R)) := by
  rw [Scan.bucketRatios, List.getElem?_map, List.getElem?_eq_getElem (by simp)]
  simp [h.bucketCounts]

end Scan.Counts

end Count

/-! ## The vector -/

section Vector

variable {R : Type} [Field R] [LinearOrder R]

/-- What a feature vector of some records holds: a row of the matrix for each symbol, the number of
distinct pairs, and the ratios of the buckets. -/
structure FeatureShape (records : List TraceRecord) (vec : List R) : Prop where
  length_eq : vec.length = 594
  cell_eq : ∀ i j : Fin 24, vec[24 * i.val + j.val]? =
    some (((twoGrams records).count (i, j) : R) / (((twoGrams records).map Prod.fst).count i : R))
  row_sum : ∀ i ∈ symbols records.dropLast, ∑ j : Fin 24, vec.getD (24 * i.val + j.val) 0 = 1
  row_zero : ∀ i ∉ symbols records.dropLast, ∀ j : Fin 24, vec[24 * i.val + j.val]? = some 0
  distinct_eq : vec[576]? = some ((twoGrams records).dedup.length : R)
  bucket_nonneg : ∀ b : Fin 12, 0 ≤ vec.getD (582 + b.val) 0
  bucket_sum : ∑ b : Fin 12, vec.getD (582 + b.val) 0 = 1

namespace Scan.Counts

variable {s : Scan R} {records : List TraceRecord} (h : s.Counts records)

include h

section Ordered

variable [IsStrictOrderedRing R]

theorem normalized_pos_iff (cell : Fin 24 × Fin 24) :
    0 < s.normalized cell ↔ cell ∈ twoGrams records := by
  rw [h.normalized_eq]
  constructor
  · intro hpos
    by_contra hmem
    rw [List.count_eq_zero.2 hmem, Nat.cast_zero, zero_div] at hpos
    exact lt_irrefl _ hpos
  · intro hmem
    have hcount : 0 < (twoGrams records).count cell := List.count_pos_iff.2 hmem
    have hfirst : 0 < ((twoGrams records).map Prod.fst).count cell.1 :=
      List.count_pos_iff.2 (List.mem_map_of_mem hmem)
    exact div_pos (Nat.cast_pos.2 hcount) (Nat.cast_pos.2 hfirst)

theorem toFinset_positiveCells : s.positiveCells.toFinset = (twoGrams records).toFinset := by
  ext cell
  rw [Scan.positiveCells, List.mem_toFinset, List.mem_filter, List.mem_toFinset,
    decide_eq_true_iff, h.normalized_pos_iff]
  exact and_iff_right (mem_rowMajor cell)

omit h [IsStrictOrderedRing R] in
theorem nodup_positiveCells : s.positiveCells.Nodup := (nodup_rowMajor 24 24).filter _

theorem length_positiveCells : s.positiveCells.length = (twoGrams records).dedup.length := by
  rw [← List.toFinset_card_of_nodup nodup_positiveCells, h.toFinset_positiveCells,
    List.card_toFinset]

/-- A count is the ratio times the number of pairs of the row. -/
theorem probability_eq {cell : Fin 24 × Fin 24} (hmem : cell ∈ twoGrams records) :
    s.normalized cell * (s.outgoing cell.1 : R) = ((twoGrams records).count cell : R) := by
  have hne : (s.outgoing cell.1 : R) ≠ 0 := Nat.cast_ne_zero.2 (h.outgoing_ne_zero hmem)
  rw [h.normalized_eq, ← h.outgoing, div_mul_cancel₀ _ hne]

/-- The probabilities of the entropy add up to one. -/
theorem sum_probabilities (hlen : 2 ≤ records.length) :
    (s.probabilities (max (records.length - 1) 1)).sum = 1 := by
  have htotal : max (records.length - 1) 1 = (twoGrams records).length := by
    rw [length_twoGrams]
    omega
  have hne : twoGrams records ≠ [] := by
    intro hnil
    have hzero := length_twoGrams records
    rw [hnil, List.length_nil] at hzero
    omega
  have hfinset : (s.probabilities (twoGrams records).length).sum =
      ∑ cell ∈ (twoGrams records).toFinset,
        ((twoGrams records).count cell : R) / ((twoGrams records).length : R) := by
    rw [Scan.probabilities, ← List.sum_toFinset _ nodup_positiveCells, h.toFinset_positiveCells]
    refine Finset.sum_congr rfl fun cell hcell => ?_
    rw [h.probability_eq (List.mem_toFinset.1 hcell)]
  rw [htotal, hfinset]
  convert sum_toFinset_frequencies (R := R) hne

end Ordered

/-- The cells stand in the first block. -/
theorem getElem?_cell (log : R → R) (firstTs : Int64) (total : Nat) (i j : Fin 24) :
    (s.vector log firstTs total)[24 * i.val + j.val]? =
      some (((twoGrams records).count (i, j) : R) /
        (((twoGrams records).map Prod.fst).count i : R)) := by
  rw [(vector_layout s log firstTs total).getElem?_first (by omega), List.getElem?_map,
    getElem?_rowMajor, Option.map_some, h.normalized_eq]

theorem getElem?_bucket (log : R → R) (firstTs : Int64) (total : Nat) (b : Fin 12) :
    (s.vector log firstTs total)[582 + b.val]? =
      some (((records.map bucketIndex).count b : R) / ((max total 1 : Nat) : R)) :=
  ((vector_layout s log firstTs total).getElem?_third b.val).trans (h.bucketRatio_eq b)

/-- The vector of the records that were counted. -/
theorem featureShape [IsStrictOrderedRing R] (hne : records ≠ []) (log : R → R) (firstTs : Int64) :
    FeatureShape records (s.vector log firstTs records.length) := by
  have hcell := h.getElem?_cell log firstTs records.length
  have hgetD : ∀ {k : Nat} {v : R}, (s.vector log firstTs records.length)[k]? = some v →
      (s.vector log firstTs records.length).getD k 0 = v := by
    intro k v hv
    rw [List.getD_eq_getElem?_getD, hv, Option.getD_some]
  have hbucket : ∀ b : Fin 12, (s.vector log firstTs records.length).getD (582 + b.val) 0 =
      ((records.map bucketIndex).count b : R) / ((records.map bucketIndex).length : R) := by
    intro b
    have hmax : max records.length 1 = (records.map bucketIndex).length := by
      have hpos := List.length_pos_of_ne_nil hne
      rw [List.length_map]
      omega
    rw [hgetD (h.getElem?_bucket log firstTs records.length b), hmax]
  refine ⟨length_fitTo _ _ _, hcell, fun i hi => ?_, fun i hi j => ?_, ?_, fun b => ?_, ?_⟩
  · -- a row with a transition adds up to one
    simp only [hgetD (hcell i _)]
    refine sum_row_frequencies ?_
    rwa [map_fst_twoGrams]
  · -- a row without one is zero
    have hzero : (twoGrams records).count (i, j) = 0 := by
      refine List.count_eq_zero.2 fun hmem => hi ?_
      rw [← map_fst_twoGrams]
      exact List.mem_map_of_mem hmem
    rw [hcell, hzero, Nat.cast_zero, zero_div]
  · rw [← h.length_positiveCells]
    exact (vector_layout s log firstTs records.length).getElem?_second (i := 0) (by omega)
  · rw [hbucket]
    exact div_nonneg (Nat.cast_nonneg _) (Nat.cast_nonneg _)
  · simp only [hbucket]
    exact sum_frequencies (by simpa using hne)

end Scan.Counts

/-! ## The start of the window -/

/-- Two scans of the same records give the same vector, from wherever the timestamps are counted. -/
theorem vector_scanWindow_eq (log : R → R) (firstTs firstTs' : Int64) {records : List TraceRecord}
    (hne : records ≠ []) (total : Nat) :
    (scanWindow firstTs records).vector log firstTs total =
      (scanWindow firstTs' records).vector log firstTs' total := by
  obtain ⟨hfile, hnet⟩ := scanWindow_ops (R := R) firstTs records
  obtain ⟨hfile', hnet'⟩ := scanWindow_ops (R := R) firstTs' records
  have h := counts_scanWindow (R := R) firstTs records
  have h' := counts_scanWindow (R := R) firstTs' records
  have hnormalized : (scanWindow firstTs records : Scan R).normalized =
      (scanWindow firstTs' records : Scan R).normalized := by
    funext cell
    rw [h.normalized_eq, h'.normalized_eq]
  have houtgoing : (scanWindow firstTs records : Scan R).outgoing =
      (scanWindow firstTs' records : Scan R).outgoing := by
    funext i
    rw [h.outgoing, h'.outgoing]
  have hbucket : (scanWindow firstTs records : Scan R).bucketCounts =
      (scanWindow firstTs' records : Scan R).bucketCounts := by
    funext b
    rw [h.bucketCounts, h'.bucketCounts]
  -- the distance of the last timestamp is the same also where its sum wraps
  have hlast := List.getLast?_eq_some_getLast hne
  have hduration : ((scanWindow firstTs records : Scan R).lastTs - firstTs).toInt =
      ((scanWindow firstTs' records : Scan R).lastTs - firstTs').toInt := by
    rw [scanWindow_lastTs firstTs records hlast, scanWindow_lastTs firstTs' records hlast,
      timestamp_sub_start, timestamp_sub_start]
  simp only [Scan.vector, Scan.statistics, Scan.bucketRatios, Scan.probabilities,
    Scan.positiveCells, hnormalized, houtgoing, hbucket, hduration, hfile, hfile', hnet, hnet']

/-- The feature vector of a window with records. Every index that the loops use is in its array: a
symbol is a number below 24, and `mapBucket` a number below 12 whatever the sum in it wraps to. -/
theorem extract_well_formed [IsStrictOrderedRing R] (log : R → R) (payload : ShortWindowPayload)
    (records : List TraceRecord) (hrecords : payload.records = some records) (hne : records ≠ []) :
    (∀ argClass argBucket : Int32,
      0 ≤ (mapBucket argClass argBucket).toInt ∧ (mapBucket argClass argBucket).toInt < 12) ∧
    FeatureShape records (extract log payload) ∧
    (extract log payload)[577]? = some (entropyOf log
      ((scanWindow payload.windowStartTsNs records).probabilities (max (records.length - 1) 1))) ∧
    (2 ≤ records.length → ((scanWindow payload.windowStartTsNs records : Scan R).probabilities
      (max (records.length - 1) 1)).sum = 1) ∧
    ∀ start : Int64, extract log { payload with windowStartTsNs := start } = extract log payload := by
  have h := counts_scanWindow (R := R) payload.windowStartTsNs records
  have hextract := extract_of_ne_nil log hrecords hne
  refine ⟨fun argClass argBucket => ⟨?_, ?_⟩, ?_, ?_, h.sum_probabilities, fun start => ?_⟩
  · rw [mapBucket]
    split_ifs with hrange
    · decide
    · rw [not_or, Int32.not_lt, Int32.le_iff_toInt_le] at hrange
      exact hrange.1
  · have hrange := mapBucket_range argClass argBucket
    rw [Int32.toNatClampNeg] at hrange
    omega
  · rw [hextract]
    exact h.featureShape hne log _
  · rw [hextract]
    exact (vector_layout _ log _ _).getElem?_second (i := 1) (by omega)
  · have hstart : ({ payload with windowStartTsNs := start } : ShortWindowPayload).records =
        some records := hrecords
    rw [hextract, extract_of_ne_nil log hstart hne]
    exact vector_scanWindow_eq log _ _ hne _

/-- Two records, of which the first has a class for which the index wraps. -/
def wrappingPayload : ShortWindowPayload where
  version := 1
  agentId := "agent-1"
  containerId := "web"
  windowStartTsNs := 9223372036854775807
  records := some [⟨2147483647, 59, 536870912, -1⟩, ⟨5, 2, 0, 0⟩]

theorem wrapping_payload_well_formed :
    FeatureShape [⟨2147483647, 59, 536870912, -1⟩, ⟨5, 2, 0, 0⟩]
      (extract Real.log wrappingPayload) :=
  (extract_well_formed Real.log wrappingPayload _ rfl (by simp)).2.1

end Vector

end DeepKernel.Server
