import DeepKernel.Ml.FeatureExtraction
import DeepKernel.Ml.Service
import DeepKernel.Ml.SplitWindows
import DeepKernel.Ml.ValidateDump

/-!
# Training from a dump

`main` of `train_from_dump.py`: a dump is split into windows, those with enough records are turned into
feature vectors, and these are posted to the ML service. The tool posts exactly if the file has a
header, a window has a length, no dry run is asked for, the service answers, and ten windows are left;
what it posts always passes the schema of the service (`train_from_dump_exact`). With a window of no
length it does not end.
-/

set_option autoImplicit false

namespace DeepKernel.Ml

open DeepKernel.Lib

/-! ## The tool -/

/-- The arguments, except for the path, the URL and `--verbose`. -/
structure TrainArgs where
  containerId : String
  windowSec : Int := 5
  minRecords : Int := 20
  reason : String := "baseline_training"
  dryRun : Bool := false

/-- The payload of `train_model`. -/
structure TrainRequest (R : Type) where
  containerId : String
  trainingData : List (List R)
  reason : String
  minRecordsPerWindow : Int

/-- How the tool ends: with exit code 1 and a text on `stderr`, after a dry run with its vectors, or
with a request. -/
inductive ToolEnd (R : Type)
  | stopped (message : String)
  | analyzed (trainingData : List (List R))
  | posted (request : TrainRequest R)

section Tool

variable {R τ : Type} [Field R] [LinearOrder R] (log : R → R)

/-- `main` from the windows on. -/
def trainWindows (args : TrainArgs) (healthy : Bool) (windows : List (List TraceRecord)) :
    ToolEnd R :=
  let validWindows := windows.filter fun w => decide (args.minRecords ≤ w.length)
  if validWindows.length < 10 ∧ args.dryRun = false then
    .stopped ("Warning: Only " ++ toString validWindows.length ++
      " valid windows. ML training requires at least 10.")
  else
    let trainingData := validWindows.map fun w => extractFeatures log w 0
    if args.dryRun then .analyzed trainingData
    else if healthy then .posted ⟨args.containerId, trainingData, args.reason, 20⟩
    else .stopped "Error: ML service is not reachable"

/-- `main` on the contents of the file; `none` if the splitting has not ended. -/
def trainFromDump (decode : ByteString → τ) (args : TrainArgs) (healthy : Bool) (file : ByteString)
    (fuel : Nat) : Option (ToolEnd R) :=
  match parseDumpFile decode file with
  | .error e => some (.stopped ("Error parsing dump file: " ++ e))
  | .ok (_, records) =>
      if records.length = 0 then some (.stopped "Error: No records in dump file")
      else (splitIntoWindows (args.windowSec * 1000000) fuel records).map
        (trainWindows log args healthy)

end Tool

/-! ## Fuel -/

/-- A loop that has ended ends in the same way with more fuel. -/
theorem slide_mono {w : Int} {fuel fuel' : Nat} (hle : fuel ≤ fuel') {s t : SplitState}
    (h : s.slide w fuel = some t) : s.slide w fuel' = some t := by
  induction fuel generalizing fuel' s with
  | zero => cases h
  | succ fuel ih =>
      obtain ⟨k, rfl⟩ := Nat.exists_eq_add_of_le' hle
      rw [← Nat.add_assoc, SplitState.slide]
      rw [SplitState.slide] at h
      split_ifs at h ⊢
      · exact ih (by omega) h
      · exact h

theorem addRecords_mono {w : Int} {fuel fuel' : Nat} (hle : fuel ≤ fuel')
    {records : List TraceRecord} {s t : SplitState}
    (h : records.foldlM (SplitState.addRecord w fuel) s = some t) :
    records.foldlM (SplitState.addRecord w fuel') s = some t := by
  induction records generalizing s with
  | nil => exact h
  | cons r records ih =>
      rw [List.foldlM_cons] at h ⊢
      obtain ⟨s₁, hadd, hrest⟩ := Option.bind_eq_some_iff.1 h
      obtain ⟨s₂, hslide, hs₁⟩ := Option.map_eq_some_iff.1 hadd
      refine Option.bind_eq_some_iff.2 ⟨s₁, ?_, ih hrest⟩
      exact Option.map_eq_some_iff.2 ⟨s₂, slide_mono hle hslide, hs₁⟩

/-- A window of no length is never left behind. -/
theorem slide_eq_none {w : Int} (hw : w ≤ 0) {s : SplitState} (hle : s.windowStart ≤ s.cumulativeTs)
    (fuel : Nat) : s.slide w fuel = none := by
  induction fuel generalizing s with
  | zero => rfl
  | succ fuel ih =>
      rw [SplitState.slide, if_pos (by omega)]
      exact ih (by simp only; omega)

/-- The splitting of some records ends exactly for windows of a positive length, with the slots. -/
theorem splitIntoWindows_eq_some_iff {w : Int} {records : List TraceRecord} (hne : records ≠ [])
    (hdelta : ∀ r ∈ records, 0 ≤ r.deltaTsUs) {windows : List (List TraceRecord)} :
    (∃ fuel, splitIntoWindows w fuel records = some windows) ↔
      1 ≤ w ∧ windows = (slotRuns w records).map fun g => g.map Prod.fst := by
  have hempty : records.isEmpty = false := by simpa using hne
  simp only [splitIntoWindows, hempty, Bool.false_eq_true, if_false]
  by_cases hw : 1 ≤ w
  · -- enough fuel for the last slot
    have henough : ∀ fuel, ((records.map TraceRecord.deltaTsUs).sum / w).toNat < fuel →
        (records.foldlM (SplitState.addRecord w fuel) ⟨[], [], 0, 0⟩).map SplitState.flushed =
          some ((slotRuns w records).map fun g => g.map Prod.fst) := by
      intro fuel hfuel
      exact (SplitState.open_init w).addRecords hw hdelta (le_refl 0) (by rwa [zero_add])
    constructor
    · rintro ⟨fuel, h⟩
      obtain ⟨t, hfold, ht⟩ := Option.map_eq_some_iff.1 h
      have hlarge := addRecords_mono (Nat.le_add_right fuel
        (((records.map TraceRecord.deltaTsUs).sum / w).toNat + 1)) hfold
      have hslots := henough (fuel + (((records.map TraceRecord.deltaTsUs).sum / w).toNat + 1))
        (by omega)
      rw [hlarge, Option.map_some, ht] at hslots
      exact ⟨hw, Option.some.inj hslots⟩
    · rintro ⟨-, h⟩
      exact ⟨_, h ▸ henough _ (Nat.lt_succ_self _)⟩
  · -- the loop for the first record does not end
    refine iff_of_false ?_ fun h => hw h.1
    rintro ⟨fuel, h⟩
    cases records with
    | nil => exact hne rfl
    | cons r records =>
        have hr := hdelta r List.mem_cons_self
        rw [List.foldlM_cons, SplitState.addRecord, slide_eq_none (by omega) (by simpa using hr)] at h
        cases h

/-! ## What is posted -/

section Posted

variable {R τ : Type} [Field R] [LinearOrder R] (log : R → R)

/-- The slots of a dump with enough records. -/
def trainingWindows (args : TrainArgs) (file : ByteString) : List (List TraceRecord) :=
  ((slotRuns (args.windowSec * 1000000) (readRecords (file.drop headerSize))).map
    fun g => g.map Prod.fst).filter fun w => decide (args.minRecords ≤ w.length)

/-- The request that a dump should lead to. -/
def trainingRequest (args : TrainArgs) (file : ByteString) : TrainRequest R :=
  ⟨args.containerId, (trainingWindows args file).map fun w => extractFeatures log w 0, args.reason,
    20⟩

theorem length_extractFeatures (records : List TraceRecord) (windowStartTsUs : Int) :
    (extractFeatures log records windowStartTsUs).length = 594 := by
  rw [extractFeatures]
  split_ifs
  · exact List.length_replicate
  · exact length_fitTo _ _ _

/-- A file without a header or without records is not split. -/
theorem trainFromDump_of_no_records (decode : ByteString → τ) (args : TrainArgs) (healthy : Bool)
    {file : ByteString}
    (h : file.length < headerSize ∨ readRecords (file.drop headerSize) = []) :
    ∃ message, ∀ fuel,
      trainFromDump log decode args healthy file fuel = some (.stopped message) := by
  simp only [trainFromDump]
  by_cases hlen : file.length < headerSize
  · rw [parseDumpFile_of_lt decode hlen]
    exact ⟨_, fun _ => rfl⟩
  · have hnil := h.resolve_left hlen
    rw [parseDumpFile_of_le decode (not_lt.1 hlen)]
    simp only [hnil, List.length_nil, if_true]
    exact ⟨_, fun _ => rfl⟩

/-- Everything else is. -/
theorem trainFromDump_of_records (decode : ByteString → τ) (args : TrainArgs) (healthy : Bool)
    {file : ByteString} (hlen : headerSize ≤ file.length)
    (hne : readRecords (file.drop headerSize) ≠ []) (fuel : Nat) :
    trainFromDump log decode args healthy file fuel =
      (splitIntoWindows (args.windowSec * 1000000) fuel (readRecords (file.drop headerSize))).map
        (trainWindows log args healthy) := by
  rw [trainFromDump, parseDumpFile_of_le decode hlen]
  simp only [List.length_eq_zero_iff, hne, if_false]

theorem trainWindows_eq_posted_iff {args : TrainArgs} {healthy : Bool}
    {windows : List (List TraceRecord)} {request : TrainRequest R} :
    trainWindows log args healthy windows = .posted request ↔
      (args.dryRun = false ∧ healthy = true ∧
        10 ≤ (windows.filter fun w => decide (args.minRecords ≤ w.length)).length) ∧
      request = ⟨args.containerId,
        (windows.filter fun w => decide (args.minRecords ≤ w.length)).map
          fun w => extractFeatures log w 0, args.reason, 20⟩ := by
  rw [trainWindows]
  cases hdry : args.dryRun with
  | true => simp
  | false =>
      by_cases hfew : (windows.filter fun w => decide (args.minRecords ≤ w.length)).length < 10
      · simp only [hfew, and_self, if_true]
        exact ⟨fun h => (nomatch h), fun h => by omega⟩
      · cases healthy with
        | true =>
            simp only [hfew, false_and, if_false, Bool.false_eq_true, if_true, ToolEnd.posted.injEq]
            exact ⟨fun h => ⟨⟨trivial, trivial, by omega⟩, h.symm⟩, fun h => h.2.symm⟩
        | false => simp [hfew]

theorem windows_of_split {args : TrainArgs} {file : ByteString}
    (hne : readRecords (file.drop headerSize) ≠ []) {windows : List (List TraceRecord)} :
    (∃ fuel, splitIntoWindows (args.windowSec * 1000000) fuel
        (readRecords (file.drop headerSize)) = some windows) ↔
      1 ≤ args.windowSec ∧ windows = (slotRuns (args.windowSec * 1000000)
        (readRecords (file.drop headerSize))).map fun g => g.map Prod.fst := by
  have hsec : 1 ≤ args.windowSec * 1000000 ↔ 1 ≤ args.windowSec := by omega
  rw [splitIntoWindows_eq_some_iff hne fun r hr => deltaTsUs_nonneg hr, hsec]

theorem trainFromDump_posted_iff (decode : ByteString → τ) (args : TrainArgs) (healthy : Bool)
    (file : ByteString) (request : TrainRequest R) :
    (∃ fuel, trainFromDump log decode args healthy file fuel = some (.posted request)) ↔
      (headerSize ≤ file.length ∧ 1 ≤ args.windowSec ∧ args.dryRun = false ∧ healthy = true ∧
        10 ≤ (trainingWindows args file).length) ∧ request = trainingRequest log args file := by
  by_cases hstop : file.length < headerSize ∨ readRecords (file.drop headerSize) = []
  · obtain ⟨message, hmessage⟩ := trainFromDump_of_no_records log decode args healthy hstop
    refine iff_of_false ?_ ?_
    · rintro ⟨fuel, h⟩
      rw [hmessage] at h
      cases h
    · -- ten windows come from some records
      rintro ⟨⟨hlen, -, -, -, hten⟩, -⟩
      have hnil := hstop.resolve_left (not_lt.2 hlen)
      rw [trainingWindows, hnil] at hten
      exact absurd hten (by simp [slotRuns, stamp, runsBy])
  · obtain ⟨hlen, hne⟩ := not_or.1 hstop
    simp only [trainFromDump_of_records log decode args healthy (not_lt.1 hlen) hne]
    constructor
    · rintro ⟨fuel, h⟩
      obtain ⟨windows, hwindows, hrequest⟩ := Option.map_eq_some_iff.1 h
      obtain ⟨hw, rfl⟩ := (windows_of_split hne).1 ⟨fuel, hwindows⟩
      obtain ⟨⟨hdry, hhealthy, hten⟩, hrequest⟩ := (trainWindows_eq_posted_iff log).1 hrequest
      exact ⟨⟨not_lt.1 hlen, hw, hdry, hhealthy, hten⟩, hrequest⟩
    · rintro ⟨⟨-, hw, hdry, hhealthy, hten⟩, rfl⟩
      obtain ⟨fuel, hfuel⟩ := (windows_of_split hne).2 ⟨hw, rfl⟩
      refine ⟨fuel, ?_⟩
      rw [hfuel, Option.map_some, Option.some.injEq]
      exact (trainWindows_eq_posted_iff log).2 ⟨⟨hdry, hhealthy, hten⟩, rfl⟩

theorem trainFromDump_ends_iff (decode : ByteString → τ) (args : TrainArgs) (healthy : Bool)
    (file : ByteString) :
    (∃ fuel, (trainFromDump log decode args healthy file fuel).isSome) ↔
      file.length < headerSize ∨ readRecords (file.drop headerSize) = [] ∨ 1 ≤ args.windowSec := by
  by_cases hstop : file.length < headerSize ∨ readRecords (file.drop headerSize) = []
  · obtain ⟨message, hmessage⟩ := trainFromDump_of_no_records log decode args healthy hstop
    refine iff_of_true ⟨0, ?_⟩ (hstop.imp_right Or.inl)
    rw [hmessage]
    rfl
  · obtain ⟨hlen, hne⟩ := not_or.1 hstop
    simp only [trainFromDump_of_records log decode args healthy (not_lt.1 hlen) hne,
      Option.isSome_map, hlen, hne, false_or]
    constructor
    · rintro ⟨fuel, h⟩
      obtain ⟨windows, hwindows⟩ := Option.isSome_iff_exists.1 h
      exact ((windows_of_split hne).1 ⟨fuel, hwindows⟩).1
    · intro hw
      obtain ⟨fuel, hfuel⟩ := (windows_of_split hne).2 ⟨hw, rfl⟩
      exact ⟨fuel, by rw [hfuel]; rfl⟩

/-- Ten windows or more make a request that the schema accepts. -/
theorem validateTrainingData_trainingRequest {args : TrainArgs} {file : ByteString}
    (hten : 10 ≤ (trainingWindows args file).length) :
    validateTrainingData 594 (trainingRequest log args file).trainingData = none := by
  refine validateTrainingData_eq_none.2 ⟨?_, fun v hv => ?_⟩
  · rw [trainingRequest, List.length_map]
    exact hten
  · obtain ⟨w, -, rfl⟩ := List.mem_map.1 hv
    exact length_extractFeatures log w 0

/-- The tool posts exactly if the file has a header, the window has a length, no dry run is asked for,
the service is up and ten slots have enough records; it posts the vectors of these slots. It ends
unless it has records and a window of no length. Every request that it posts passes the schema, so that
the registry is trained with it. -/
theorem train_from_dump_exact {F : Type} (decode : ByteString → τ) (args : TrainArgs)
    (healthy : Bool) (file : ByteString) :
    (∀ request, (∃ fuel, trainFromDump log decode args healthy file fuel =
          some (.posted request)) ↔
        (headerSize ≤ file.length ∧ 1 ≤ args.windowSec ∧ args.dryRun = false ∧ healthy = true ∧
          10 ≤ (trainingWindows args file).length) ∧ request = trainingRequest log args file) ∧
      ((∃ fuel, (trainFromDump log decode args healthy file fuel).isSome) ↔
        file.length < headerSize ∨ readRecords (file.drop headerSize) = [] ∨
          1 ≤ args.windowSec) ∧
      ∀ request fuel, trainFromDump log decode args healthy file fuel = some (.posted request) →
        ∀ (sk : Sklearn (List R) F R) (anomalyThreshold : R) (failures : Failures F R)
          (s : Service F R) (now : Int),
          (s.handle sk anomalyThreshold 594 failures
              (.trainModel request.containerId request.trainingData now)).1.registry =
            (s.registry.trainModel sk request.containerId request.trainingData now).1 := by
  refine ⟨trainFromDump_posted_iff log decode args healthy file,
    trainFromDump_ends_iff log decode args healthy file,
    fun request fuel h sk anomalyThreshold failures s now => ?_⟩
  obtain ⟨⟨-, -, -, -, hten⟩, rfl⟩ :=
    (trainFromDump_posted_iff log decode args healthy file request).1 ⟨fuel, h⟩
  rw [handle_fst, forward, if_pos (validateTrainingData_trainingRequest log hten)]
  rfl

end Posted

/-- A dump of eleven records, one in each second but the first. -/
def secondsDump : ByteString :=
  List.replicate 80 0 ++ (List.replicate 11 (packRecord ⟨1000000, 0, 1, 0⟩)).flatten

/-- Windows of a second with one record each are posted. -/
theorem secondsDump_posted :
    ∃ fuel, trainFromDump (fun x : ℚ => x) (fun _ => ())
        { containerId := "web", windowSec := 1, minRecords := 1 } true secondsDump fuel =
      some (.posted (trainingRequest (fun x => x)
        { containerId := "web", windowSec := 1, minRecords := 1 } secondsDump)) :=
  ((train_from_dump_exact (F := Unit) (fun x : ℚ => x) (fun _ => ()) _ true secondsDump).1 _).2
    ⟨⟨by decide +kernel, by decide, rfl, rfl, by decide +kernel⟩, rfl⟩

end DeepKernel.Ml
