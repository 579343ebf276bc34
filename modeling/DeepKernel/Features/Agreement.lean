import DeepKernel.Ml.FeatureExtraction
import DeepKernel.Server.FeatureExtractor
import Mathlib.Analysis.SpecialFunctions.Log.Basic

/-!
# The two extractors on the same records

The extractor of the server and its Python port, run side by side on the records of one window. The
loops keep the same count matrix, outgoing counts and bucket counts, and last timestamps whose
distances from the starts of the two windows agree (`Related`); so the vectors agree outside the
two class ratios.
-/

set_option autoImplicit false

namespace DeepKernel.Features

open DeepKernel.Lib

/-- A record as both extractors can receive it. -/
structure WireRecord where
  deltaTsUs : Nat
  deltaTsUs_lt : deltaTsUs < 2 ^ 31
  syscallId : UInt16
  argClass : UInt8
  argBucket : UInt8

/-- The record as the server holds it. -/
def WireRecord.toServer (r : WireRecord) : Server.TraceRecord where
  deltaTsUs := Int32.ofNat r.deltaTsUs
  syscallId := Int32.ofNat r.syscallId.toNat
  argClass := Int32.ofNat r.argClass.toNat
  argBucket := Int32.ofNat r.argBucket.toNat

/-- The record as the training tool holds it. -/
def WireRecord.toMl (r : WireRecord) : Ml.TraceRecord where
  deltaTsUs := r.deltaTsUs
  syscallId := r.syscallId.toNat
  argClass := r.argClass.toNat
  argBucket := r.argBucket.toNat

/-- A window with the given records. -/
def payloadOf (version : Int32) (agentId containerId : String) (startNs : Int64)
    (records : List WireRecord) : Server.ShortWindowPayload where
  version := version
  agentId := agentId
  containerId := containerId
  windowStartTsNs := startNs
  records := some (records.map WireRecord.toServer)

/-! ## Index maps -/

theorem server_mapSyscallToAlphabet_of_ge {id : Int32} (h : 258 ≤ id.toInt) :
    Server.mapSyscallToAlphabet id = 23 := by
  simp only [Server.mapSyscallToAlphabet, ← Int32.toInt_inj, Int32.reduceToInt]
  repeat rw [if_neg (by omega)]

theorem ml_mapSyscallToAlphabet_of_ge {id : Int} (h : 258 ≤ id) :
    Ml.mapSyscallToAlphabet id = 23 := by
  have hkeys : ∀ p ∈ Ml.mapping, p.1 < 258 := by decide
  have hnone : Ml.mapping.lookup id = none := by
    rw [List.lookup_eq_none_iff]
    intro p hp
    have hlt := hkeys p hp
    have hne : id ≠ p.1 := by omega
    simpa using hne
  rw [Ml.mapSyscallToAlphabet, hnone, Option.getD_none]

/-- The `switch` and the dictionary agree: by evaluation up to the largest number they name, and
beyond it both give the default. -/
theorem mapSyscallToAlphabet_eq {n : Nat} (hn : n < 2 ^ 31) :
    Server.mapSyscallToAlphabet (Int32.ofNat n) = Ml.mapSyscallToAlphabet (n : Int) := by
  rcases Nat.lt_or_ge n 258 with hlt | hge
  · have hall : ∀ n < 258, Server.mapSyscallToAlphabet (Int32.ofNat n) =
        Ml.mapSyscallToAlphabet (n : Int) := by decide +kernel
    exact hall n hlt
  · have hint : (Int32.ofNat n).toInt = n := Int32.toInt_ofNat_of_lt hn
    rw [server_mapSyscallToAlphabet_of_ge (by omega), ml_mapSyscallToAlphabet_of_ge (by omega)]

/-- On small operands the Java remainder and the Python modulo agree, and neither clamp acts. -/
theorem mapBucket_eq {c b : Nat} (hc : c < 2 ^ 8) (hb : b < 2 ^ 8) :
    (Server.mapBucket (Int32.ofNat c) (Int32.ofNat b)).toNatClampNeg =
      (Ml.mapBucket (c : Int) (b : Int)).toNat := by
  have hsum : Int32.ofNat c * 4 + Int32.ofNat b = Int32.ofNat (c * 4 + b) := by
    rw [Int32.ofNat_add, Int32.ofNat_mul]
    rfl
  have hint : (Int32.ofNat (c * 4 + b) % 12).toInt = ((c * 4 + b) % 12 : Nat) := by
    rw [Int32.toInt_mod, Int32.toInt_ofNat_of_lt (by omega)]
    exact (Int.ofNat_tmod _ _).symm
  have hrange :
      ¬ (Int32.ofNat (c * 4 + b) % 12 < 0 ∨ (12 : Int32) ≤ Int32.ofNat (c * 4 + b) % 12) := by
    have hzero : (0 : Int32).toInt = 0 := rfl
    have htwelve : (12 : Int32).toInt = 12 := rfl
    rw [Int32.lt_iff_toInt_lt, Int32.le_iff_toInt_le, hint, hzero, htwelve]
    omega
  rw [Server.mapBucket, hsum, if_neg hrange, Int32.toNatClampNeg, hint, Ml.mapBucket]
  omega

theorem bucketIndex_eq (r : WireRecord) :
    Server.bucketIndex r.toServer = Ml.bucketIndex r.toMl :=
  Fin.ext (mapBucket_eq r.argClass.toNat_lt r.argBucket.toNat_lt)

theorem alphabet_eq (r : WireRecord) :
    Server.mapSyscallToAlphabet r.toServer.syscallId =
      Ml.mapSyscallToAlphabet r.toMl.syscallId := by
  have hlt := r.syscallId.toNat_lt
  exact mapSyscallToAlphabet_eq (by omega)

/-! ## The two loops -/

section Loops

variable {R : Type} [Field R]

/-- The variables of the two loops agree, class counters apart. The server counts in nanoseconds,
the training tool in microseconds. -/
structure Related (startNs : Int64) (startUs : Int) (s : Server.Scan R) (p : Ml.Scan R) : Prop where
  transitions : s.transitions = p.transitions
  outgoing : s.outgoing = p.outgoing
  bucketCounts : s.bucketCounts = p.bucketCounts
  lastTs : (s.lastTs - startNs).toInt = (p.lastTs - startUs) * 1000

variable {startNs : Int64} {startUs : Int}

theorem related_init : Related startNs startUs (Server.Scan.init startNs : Server.Scan R)
    (Ml.Scan.init startUs) := by
  refine ⟨rfl, rfl, rfl, ?_⟩
  have hserver : startNs - startNs = 0 := Int64.sub_self startNs
  have hml : startUs - startUs = 0 := Int.sub_self startUs
  rw [Server.Scan.init, Ml.Scan.init, hserver, hml]
  rfl

omit [Field R] in
theorem Related.countRecord {s : Server.Scan R} {p : Ml.Scan R}
    (h : Related startNs startUs s p) (r : WireRecord) :
    Related startNs startUs (s.countRecord startNs r.toServer)
      (p.countRecord startUs r.toMl) := by
  refine ⟨h.transitions, h.outgoing, ?_, ?_⟩
  · rw [Server.Scan.countRecord, Ml.Scan.countRecord, h.bucketCounts, bucketIndex_eq]
  -- each record overwrites the last timestamp, so no accumulated error can separate the two
  · have hdelta : r.toServer.deltaTsUs.toInt = r.deltaTsUs :=
      Int32.toInt_ofNat_of_lt r.deltaTsUs_lt
    have hml : startUs + r.toMl.deltaTsUs - startUs = r.deltaTsUs := by
      rw [Int.add_comm, Int.add_sub_cancel]
      rfl
    rw [Server.Scan.countRecord, Ml.Scan.countRecord, Server.timestamp_sub_start, hdelta, hml]

theorem Related.step {s : Server.Scan R} {p : Ml.Scan R} (h : Related startNs startUs s p)
    (prev : Option WireRecord) (r : WireRecord) :
    Related startNs startUs (s.step startNs (prev.map WireRecord.toServer) r.toServer)
      (p.step startUs (prev.map WireRecord.toMl) r.toMl) := by
  have hrec := h.countRecord r
  cases prev with
  | none => exact hrec
  | some q =>
      -- counting a transition touches the two tables only
      refine ⟨?_, ?_, hrec.bucketCounts, hrec.lastTs⟩
      · simp only [Option.map_some, Server.Scan.step, Ml.Scan.step, Server.Scan.countTransition,
          Ml.Scan.countTransition, alphabet_eq, hrec.transitions]
      · simp only [Option.map_some, Server.Scan.step, Ml.Scan.step, Server.Scan.countTransition,
          Ml.Scan.countTransition, alphabet_eq, hrec.outgoing]

theorem Related.run {s : Server.Scan R} {p : Ml.Scan R} (h : Related startNs startUs s p)
    (prev : Option WireRecord) (records : List WireRecord) :
    Related startNs startUs
      (Server.Scan.run startNs (prev.map WireRecord.toServer) s (records.map WireRecord.toServer))
      (Ml.Scan.run startUs (prev.map WireRecord.toMl) p (records.map WireRecord.toMl)) := by
  induction records generalizing s p prev with
  | nil => exact h
  | cons r records ih => exact ih (h.step prev r) (some r)

theorem related_scanWindow (startNs : Int64) (startUs : Int) (records : List WireRecord) :
    Related startNs startUs
      (Server.scanWindow startNs (records.map WireRecord.toServer) : Server.Scan R)
      (Ml.scanWindow startUs (records.map WireRecord.toMl)) :=
  related_init.run none records

theorem Related.normalized {s : Server.Scan R} {p : Ml.Scan R} (h : Related startNs startUs s p) :
    s.normalized = p.normalized := by
  funext cell
  rw [Server.Scan.normalized, Ml.Scan.normalized, h.transitions, h.outgoing]
  -- the server skips a row with a zero count, the training tool divides one with a positive count
  by_cases hzero : p.outgoing cell.1 = 0
  · rw [if_pos hzero, if_neg (by omega)]
  · rw [if_neg hzero, if_pos (by omega)]

end Loops

/-! ## The two vectors -/

section Vectors

variable {R : Type} [Field R] [LinearOrder R]

/-- The vectors of the two extractors agree outside the class ratios at 578 and 579, and the
entropies at 577 sum the same list of probabilities. -/
structure ExtractorsAgree (log : R → R) (startNs : Int64) (startUs : Int)
    (records : List WireRecord) (server ml : List R) : Prop where
  length_server : server.length = 594
  length_ml : ml.length = 594
  transitions : ∀ i < 576, server[i]? = ml[i]?
  uniqueTwoGrams : server[576]? = ml[576]?
  probabilities :
    ((Server.scanWindow startNs (records.map WireRecord.toServer) : Server.Scan R).probabilities
        (max (records.length - 1) 1)) =
      ((Ml.scanWindow startUs (records.map WireRecord.toMl) : Ml.Scan R).probabilities
        (max (records.length - 1) 1))
  entropy : server[577]? = ml[577]?
  durationSec : server[580]? = ml[580]?
  meanInterArrival : server[581]? = ml[581]?
  buckets : ∀ i, 582 ≤ i → i < 594 → server[i]? = ml[i]?

theorem Related.positiveCells {startNs : Int64} {startUs : Int} {s : Server.Scan R}
    {p : Ml.Scan R} (h : Related startNs startUs s p) : s.positiveCells = p.positiveCells := by
  rw [Server.Scan.positiveCells, Ml.Scan.positiveCells, h.normalized]

theorem Related.probabilities {startNs : Int64} {startUs : Int} {s : Server.Scan R}
    {p : Ml.Scan R} (h : Related startNs startUs s p) (n : Nat) :
    s.probabilities n = p.probabilities n := by
  rw [Server.Scan.probabilities, Ml.Scan.probabilities, h.positiveCells, h.normalized, h.outgoing]

omit [LinearOrder R] in
theorem Related.bucketRatios {startNs : Int64} {startUs : Int} {s : Server.Scan R}
    {p : Ml.Scan R} (h : Related startNs startUs s p) (n : Nat) :
    s.bucketRatios n = p.bucketRatios n := by
  rw [Server.Scan.bucketRatios, Ml.Scan.bucketRatios, h.bucketCounts]

theorem Related.durationSec [IsStrictOrderedRing R] {startNs : Int64} {startUs : Int}
    {s : Server.Scan R} {p : Ml.Scan R} (h : Related startNs startUs s p) :
    ((s.lastTs - startNs).toInt : R) / 10 ^ 9 = ((p.lastTs - startUs : Int) : R) / 10 ^ 6 := by
  rw [h.lastTs]
  push_cast
  field_simp
  ring

theorem Related.getElem?_transitions {startNs : Int64} {startUs : Int} {s : Server.Scan R}
    {p : Ml.Scan R} (h : Related startNs startUs s p) (log : R → R) (n : Nat) {i : Nat}
    (hi : i < 576) : (s.vector log startNs n)[i]? = (p.vector log startUs n)[i]? := by
  have hs := Server.vector_layout s log startNs n
  have hp := Ml.vector_layout p log startUs n
  rw [hs.getElem?_first hi, hp.getElem?_first hi, h.normalized]

/-- The statistics other than the class ratios agree. -/
theorem Related.getElem?_statistics [IsStrictOrderedRing R] {startNs : Int64} {startUs : Int}
    {s : Server.Scan R} {p : Ml.Scan R} (h : Related startNs startUs s p) (log : R → R) (n : Nat)
    {i : Nat} (hi : i = 0 ∨ i = 1 ∨ i = 4 ∨ i = 5) :
    (s.vector log startNs n)[576 + i]? = (p.vector log startUs n)[576 + i]? := by
  have hs := Server.vector_layout s log startNs n
  have hp := Ml.vector_layout p log startUs n
  rw [hs.getElem?_second (by omega), hp.getElem?_second (by omega), Server.Scan.statistics,
    Ml.Scan.statistics, h.positiveCells, h.probabilities, h.durationSec]
  rcases hi with rfl | rfl | rfl | rfl
  · rfl
  · rfl
  · rfl
  · rfl

theorem Related.getElem?_buckets {startNs : Int64} {startUs : Int} {s : Server.Scan R}
    {p : Ml.Scan R} (h : Related startNs startUs s p) (log : R → R) (n i : Nat) :
    (s.vector log startNs n)[582 + i]? = (p.vector log startUs n)[582 + i]? := by
  have hs := (Server.vector_layout s log startNs n).getElem?_third i
  have hp := (Ml.vector_layout p log startUs n).getElem?_third i
  exact hs.trans ((congrArg (·[i]?) (h.bucketRatios n)).trans hp.symm)

theorem extract_payloadOf (log : R → R) (version : Int32) (agentId containerId : String)
    (startNs : Int64) {records : List WireRecord} (hne : records ≠ []) :
    Server.extract log (payloadOf version agentId containerId startNs records) =
      (Server.scanWindow startNs (records.map WireRecord.toServer)).vector log startNs
        records.length := by
  have hmap : records.map WireRecord.toServer ≠ [] := by simpa using hne
  have hextract := Server.extract_of_ne_nil log
    (show (payloadOf version agentId containerId startNs records).records = _ from rfl) hmap
  rw [List.length_map] at hextract
  exact hextract

theorem extractFeatures_toMl (log : R → R) (startUs : Int) {records : List WireRecord}
    (hne : records ≠ []) :
    Ml.extractFeatures log (records.map WireRecord.toMl) startUs =
      (Ml.scanWindow startUs (records.map WireRecord.toMl)).vector log startUs records.length := by
  have hmap : records.map WireRecord.toMl ≠ [] := by simpa using hne
  rw [Ml.extractFeatures_of_ne_nil log hmap, List.length_map]

/-- In front of the class ratios and behind the timing both vectors have the same values. -/
theorem getElem?_extractors [IsStrictOrderedRing R] (log : R → R) (version : Int32)
    (agentId containerId : String) (startNs : Int64) (startUs : Int) {records : List WireRecord}
    (hne : records ≠ []) {i : Nat} (hi : i < 578 ∨ 582 ≤ i) :
    (Server.extract log (payloadOf version agentId containerId startNs records))[i]? =
      (Ml.extractFeatures log (records.map WireRecord.toMl) startUs)[i]? := by
  have hrel : Related startNs startUs
      (Server.scanWindow startNs (records.map WireRecord.toServer) : Server.Scan R)
      (Ml.scanWindow startUs (records.map WireRecord.toMl)) :=
    related_scanWindow startNs startUs records
  rw [extract_payloadOf log version agentId containerId startNs hne,
    extractFeatures_toMl log startUs hne]
  by_cases hmatrix : i < 576
  · exact hrel.getElem?_transitions log _ hmatrix
  by_cases hstatistics : i < 578
  · obtain ⟨k, rfl⟩ := Nat.exists_eq_add_of_le (not_lt.1 hmatrix)
    exact hrel.getElem?_statistics log _ (by omega)
  · obtain ⟨k, rfl⟩ := Nat.exists_eq_add_of_le (show 582 ≤ i by omega)
    exact hrel.getElem?_buckets log _ k

/-- The server and the training tool compute the same features of the same records, class ratios
apart, whatever the starts of their windows are. -/
theorem extractors_agree [IsStrictOrderedRing R] (log : R → R) (version : Int32)
    (agentId containerId : String) (startNs : Int64) (startUs : Int) (records : List WireRecord)
    (hne : records ≠ []) :
    ExtractorsAgree log startNs startUs records
      (Server.extract log (payloadOf version agentId containerId startNs records))
      (Ml.extractFeatures log (records.map WireRecord.toMl) startUs) := by
  rw [extract_payloadOf log version agentId containerId startNs hne,
    extractFeatures_toMl log startUs hne]
  have hrel : Related startNs startUs
      (Server.scanWindow startNs (records.map WireRecord.toServer) : Server.Scan R)
      (Ml.scanWindow startUs (records.map WireRecord.toMl)) :=
    related_scanWindow startNs startUs records
  have hstat := fun i hi => hrel.getElem?_statistics log records.length (i := i) hi
  refine ⟨length_fitTo _ _ _, length_fitTo _ _ _, fun i hi => hrel.getElem?_transitions log _ hi,
    hstat 0 (Or.inl rfl), hrel.probabilities _, hstat 1 (Or.inr (Or.inl rfl)),
    hstat 4 (Or.inr (Or.inr (Or.inl rfl))), hstat 5 (Or.inr (Or.inr (Or.inr rfl))), ?_⟩
  intro i hlow _
  obtain ⟨k, rfl⟩ := Nat.exists_eq_add_of_le hlow
  exact hrel.getElem?_buckets log _ k

/-- The two extractors on a window of two records, in the real numbers. -/
theorem extractors_agree_two_records :
    ExtractorsAgree Real.log 5 0
      [⟨0, by decide, 59, 3, 0⟩, ⟨1500, by decide, 2, 1, 0⟩]
      (Server.extract Real.log (payloadOf 1 "node-1" "a" 5
        [⟨0, by decide, 59, 3, 0⟩, ⟨1500, by decide, 2, 1, 0⟩]))
      (Ml.extractFeatures Real.log
        ([⟨0, by decide, 59, 3, 0⟩, ⟨1500, by decide, 2, 1, 0⟩].map WireRecord.toMl) 0) :=
  extractors_agree Real.log 1 "node-1" "a" 5 0 _ (by simp)

end Vectors

end DeepKernel.Features
