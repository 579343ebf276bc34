import DeepKernel.Ml.DumpFile

/-!
# The dump validator

`validate_dump` of `validate_dump.py` over the bytes of a readable file. The printing is left out and
taken to succeed; the numbers that are printed are kept, since a division by zero on the way to them ends
the validation. Quotients are exact: rounding makes a float zero only where the quotient is, as long as
there are fewer records than a file can hold.

The verdict comes from a list of texts (`issuesOf`), of which only two kinds count.
-/

set_option autoImplicit false

namespace DeepKernel.Ml

open DeepKernel.Lib

/-! ## Validator -/

/-- The exceptions of the statistics. -/
inductive PyError
  | zeroDivisionError
  deriving DecidableEq

/-- The operator `/`. -/
def trueDiv (a b : ℚ) : Except PyError ℚ :=
  if b = 0 then .error .zeroDivisionError else .ok (a / b)

/-- A `Counter`: the values in the order of their first occurrence, with their numbers. -/
def counter (values : List Int) : List (Int × Nat) :=
  values.eraseDups.map fun value => (value, values.count value)

/-- `most_common`. -/
def mostCommon (counts : List (Int × Nat)) (n : Nat) : List (Int × Nat) :=
  (counts.mergeSort fun a b => decide (b.2 ≤ a.2)).take n

/-- The numbers of the time analysis. -/
structure TimeAnalysis where
  totalTimeSec : ℚ
  avgDelta : ℚ
  syscallsPerSec : ℚ
  deriving DecidableEq

/-- The time analysis, which is skipped if there are no records. -/
def timeAnalysis (deltaValues : List Int) (recordsRead : Nat) :
    Except PyError (Option TimeAnalysis) :=
  if deltaValues = [] then .ok none
  else do
    let totalTimeUs : ℚ := deltaValues.sum
    let totalTimeSec ← trueDiv totalTimeUs 1000000
    let avgDelta ← trueDiv totalTimeUs deltaValues.length
    let syscallsPerSec ← trueDiv recordsRead totalTimeSec
    return some ⟨totalTimeSec, avgDelta, syscallsPerSec⟩

/-- The percentages of a distribution. -/
def percentages (counts : List (Int × Nat)) (recordsRead : Nat) : Except PyError (List ℚ) :=
  counts.mapM fun entry => trueDiv (100 * entry.2) recordsRead

/-- `part in text`. -/
def isPart (part text : String) : Bool := decide (part.toList <:+: text.toList)

/-- The issues of the validation summary. -/
def issuesOf (version : Int) (containerId : String) (remainder recordsRead : Nat) : List String :=
  (if version ≠ 1 then ["Unexpected version"] else []) ++
    (if containerId = "" then ["Empty container ID"] else []) ++
    (if remainder ≠ 0 then ["Trailing bytes"] else []) ++
    (if recordsRead < 100 then ["Very few records"] else [])

/-- The verdict on a list of issues. -/
def verdictOf (issues : List String) : Bool :=
  if issues = [] then true
  else (issues.filter fun i => isPart "Trailing" i || isPart "version" i).length == 0

/-- The part of `validate_dump` inside the `try`. -/
def analyze (decode : ByteString → String) (file : ByteString) : Except PyError Bool := do
  let header := unpackHeader decode (file.take headerSize)
  let records := readRecords (file.drop headerSize)
  let remainder := (file.length - headerSize) % recordSize
  let _time ← timeAnalysis (records.map TraceRecord.deltaTsUs) records.length
  let _syscalls ← percentages (mostCommon (counter (records.map TraceRecord.syscallId)) 10)
    records.length
  let _classes ← percentages
    ((counter (records.map TraceRecord.argClass)).mergeSort fun a b => decide (a.1 ≤ b.1))
    records.length
  return verdictOf (issuesOf header.version header.containerId remainder records.length)

/-- `validate_dump`; `decode` is `bytes.decode('utf-8', errors='replace')`. -/
def validateDump (decode : ByteString → String) (file : ByteString) : Bool :=
  if file.length < headerSize then false
  else
    match analyze decode file with
    | .ok verdict => verdict
    | .error _ => false

/-! ## Statistics -/

theorem trueDiv_of_ne {b : ℚ} (hb : b ≠ 0) (a : ℚ) : trueDiv a b = .ok (a / b) := if_neg hb

theorem percentages_ok {counts : List (Int × Nat)} {recordsRead : Nat}
    (h : recordsRead = 0 → counts = []) : ∃ pcts, percentages counts recordsRead = .ok pcts := by
  rcases Nat.eq_zero_or_pos recordsRead with hzero | hpos
  · rw [h hzero]
    exact ⟨[], rfl⟩
  · have hne : (recordsRead : ℚ) ≠ 0 := Nat.cast_ne_zero.2 hpos.ne'
    clear h
    induction counts with
    | nil => exact ⟨[], rfl⟩
    | cons entry counts ih =>
        obtain ⟨pcts, hpcts⟩ := ih
        refine ⟨100 * entry.2 / recordsRead :: pcts, ?_⟩
        rw [percentages] at hpcts ⊢
        rw [List.mapM_cons, trueDiv_of_ne hne, hpcts]
        rfl

/-- Without records nothing is counted, and nothing is divided. -/
theorem counter_eq_nil {records : List TraceRecord} (h : records.length = 0)
    (field : TraceRecord → Int) : counter (records.map field) = [] := by
  rw [List.length_eq_zero_iff.1 h]
  simp [counter]

theorem percentages_mostCommon_ok (records : List TraceRecord) (field : TraceRecord → Int)
    (n : Nat) :
    ∃ pcts, percentages (mostCommon (counter (records.map field)) n) records.length = .ok pcts := by
  apply percentages_ok
  intro hzero
  simp [counter_eq_nil hzero, mostCommon]

theorem percentages_sorted_ok (records : List TraceRecord) (field : TraceRecord → Int) :
    ∃ pcts, percentages ((counter (records.map field)).mergeSort fun a b => decide (a.1 ≤ b.1))
      records.length = .ok pcts := by
  apply percentages_ok
  intro hzero
  simp [counter_eq_nil hzero]

theorem deltaTsUs_nonneg {bytes : ByteString} {r : TraceRecord} (hr : r ∈ readRecords bytes) :
    0 ≤ r.deltaTsUs := by
  induction bytes using readRecords.induct with
  | case1 b₀ b₁ b₂ b₃ b₄ b₅ b₆ b₇ rest ih =>
      rw [readRecords] at hr
      rcases List.mem_cons.1 hr with rfl | hrest
      · exact Int.natCast_nonneg _
      · exact ih hrest
  | case2 bytes hshort =>
      rw [readRecords] at hr
      · cases hr
      · exact hshort

/-- The times of all the records are zero, and there are some. -/
def Timeless (records : List TraceRecord) : Prop :=
  records ≠ [] ∧ ∀ r ∈ records, r.deltaTsUs = 0

theorem sum_deltas_eq_zero_iff {records : List TraceRecord}
    (h : ∀ r ∈ records, 0 ≤ r.deltaTsUs) :
    (records.map TraceRecord.deltaTsUs).sum = 0 ↔ ∀ r ∈ records, r.deltaTsUs = 0 := by
  constructor
  · intro hsum r hr
    refine List.all_zero_of_le_zero_le_of_sum_eq_zero ?_ hsum (List.mem_map_of_mem hr)
    intro delta hdelta
    obtain ⟨r', hr', rfl⟩ := List.mem_map.1 hdelta
    exact h r' hr'
  · intro hzero
    refine List.sum_eq_zero fun delta hdelta => ?_
    obtain ⟨r', hr', rfl⟩ := List.mem_map.1 hdelta
    exact hzero r' hr'

/-- The time analysis fails exactly on records without time. -/
theorem timeAnalysis_cases {records : List TraceRecord} (h : ∀ r ∈ records, 0 ≤ r.deltaTsUs) :
    (Timeless records ∧ timeAnalysis (records.map TraceRecord.deltaTsUs) records.length =
        .error .zeroDivisionError) ∨
      (¬ Timeless records ∧
        ∃ time, timeAnalysis (records.map TraceRecord.deltaTsUs) records.length = .ok time) := by
  have hsum := sum_deltas_eq_zero_iff h
  have hmillion : (1000000 : ℚ) ≠ 0 := by norm_num
  have hmap : records.map TraceRecord.deltaTsUs = [] ↔ records = [] := List.map_eq_nil_iff
  rw [timeAnalysis, List.length_map]
  by_cases hempty : records = []
  · -- without records the analysis is left out
    rw [if_pos (hmap.2 hempty)]
    exact .inr ⟨fun htimeless => htimeless.1 hempty, none, rfl⟩
  · have hlen : (records.length : ℚ) ≠ 0 := by
      rw [Nat.cast_ne_zero, ne_eq, List.length_eq_zero_iff]
      exact hempty
    rw [if_neg (mt hmap.1 hempty)]
    dsimp only
    rw [trueDiv_of_ne hmillion, trueDiv_of_ne hlen]
    by_cases hzero : (records.map TraceRecord.deltaTsUs).sum = 0
    · -- the rate is divided by a time of zero
      rw [hzero]
      exact .inl ⟨⟨hempty, hsum.1 hzero⟩, by simp [trueDiv, bind, Except.bind]⟩
    · have hrate : ((records.map TraceRecord.deltaTsUs).sum : ℚ) / 1000000 ≠ 0 :=
        div_ne_zero (Int.cast_ne_zero.2 hzero) hmillion
      refine .inr ⟨fun htimeless => hzero (hsum.2 htimeless.2), ?_⟩
      simp only [bind, Except.bind, trueDiv_of_ne hrate]
      exact ⟨_, rfl⟩

/-! ## Verdicts -/

/-- An issue that counts. -/
def counts (issue : String) : Bool := isPart "Trailing" issue || isPart "version" issue

theorem verdictOf_iff (issues : List String) :
    verdictOf issues = true ↔ ∀ i ∈ issues, counts i = false := by
  have hfilter : (issues.filter counts).length = 0 ↔ ∀ i ∈ issues, counts i = false := by
    rw [List.length_eq_zero_iff, List.filter_eq_nil_iff]
    simp only [Bool.not_eq_true]
  rw [verdictOf, ← hfilter]
  split_ifs with hempty
  · rw [hempty]
    exact iff_of_true rfl rfl
  · exact beq_iff_eq

theorem forall_mem_ite_iff {P : Prop} [Decidable P] (text : String) :
    (∀ i ∈ if P then [text] else [], counts i = false) ↔ (P → counts text = false) := by
  split_ifs with h
  · simp [h]
  · simp [h]

/-- Only the version and the trailing bytes count. -/
theorem verdictOf_issuesOf (version : Int) (containerId : String) (remainder recordsRead : Nat) :
    verdictOf (issuesOf version containerId remainder recordsRead) = true ↔
      version = 1 ∧ remainder = 0 := by
  have hversion : counts "Unexpected version" = true := by decide
  have hcontainer : counts "Empty container ID" = false := by decide
  have htrailing : counts "Trailing bytes" = true := by decide
  have hfew : counts "Very few records" = false := by decide
  rw [verdictOf_iff, issuesOf]
  simp only [List.forall_mem_append, forall_mem_ite_iff, hversion, hcontainer, htrailing, hfew]
  simp

/-! ## The format -/

/-- The dump format: a header with the version 1, and whole records behind it. -/
structure IsDump (file : ByteString) : Prop where
  header : 80 ≤ file.length
  version : leNat (slice file 0 4) = 1
  whole : (file.length - 80) % 8 = 0

theorem analyze_cases (decode : ByteString → String) (file : ByteString) :
    (Timeless (readRecords (file.drop 80)) ∧ analyze decode file = .error .zeroDivisionError) ∨
      (¬ Timeless (readRecords (file.drop 80)) ∧
        ∃ verdict, analyze decode file = .ok verdict ∧
          (verdict = true ↔ leNat (slice file 0 4) = 1 ∧ (file.length - 80) % 8 = 0)) := by
  -- the header is a prefix of the file, and the version is its first field
  have hversion : (unpackHeader decode (file.take headerSize)).version = leNat (slice file 0 4) := by
    have hslice : slice (file.take headerSize) 0 4 = slice file 0 4 := by
      rw [slice, slice, List.drop_zero, List.drop_zero, List.take_take]
      rfl
    exact congrArg (fun bytes => (leNat bytes : Int)) hslice
  obtain ⟨syscalls, hsyscalls⟩ :=
    percentages_mostCommon_ok (readRecords (file.drop headerSize)) TraceRecord.syscallId 10
  obtain ⟨classes, hclasses⟩ :=
    percentages_sorted_ok (readRecords (file.drop headerSize)) TraceRecord.argClass
  have hnonneg : ∀ r ∈ readRecords (file.drop headerSize), 0 ≤ r.deltaTsUs :=
    fun r hr => deltaTsUs_nonneg hr
  rcases timeAnalysis_cases hnonneg with ⟨htimeless, herror⟩ | ⟨htimed, time, htime⟩
  · refine .inl ⟨htimeless, ?_⟩
    rw [analyze, herror]
    rfl
  · refine .inr ⟨htimed, verdictOf (issuesOf (unpackHeader decode (file.take headerSize)).version
      (unpackHeader decode (file.take headerSize)).containerId
      ((file.length - headerSize) % recordSize) (readRecords (file.drop headerSize)).length), ?_, ?_⟩
    · rw [analyze, htime, hsyscalls, hclasses]
      rfl
    · rw [verdictOf_issuesOf, hversion, Nat.cast_eq_one]
      rfl

theorem validateDump_iff (decode : ByteString → String) (file : ByteString) :
    validateDump decode file = true ↔
      IsDump file ∧ ¬ Timeless (readRecords (file.drop 80)) := by
  have hsize : headerSize = 80 := rfl
  rw [validateDump]
  split_ifs with hshort
  · refine iff_of_false not_false fun h => ?_
    have hheader := h.1.header
    omega
  · rcases analyze_cases decode file with ⟨htimeless, herror⟩ | ⟨htimed, verdict, hok, hverdict⟩
    · rw [herror]
      exact iff_of_false Bool.false_ne_true fun h => h.2 htimeless
    · rw [hok]
      refine hverdict.trans ⟨fun h => ⟨⟨by omega, h.1, h.2⟩, htimed⟩, fun h => ?_⟩
      exact ⟨h.1.version, h.1.whole⟩

/-! ## Files of the agent -/

section Agent

variable (syscallVocabSize : UInt32) (containerId : ByteString) (startTsNs : UInt64)
  (recs : List Agent.TraceRecord)

theorem isDump_encodeDump :
    IsDump (Agent.encodeDump (Agent.makeTraceHeader 1 syscallVocabSize containerId startTsNs) recs)
    where
  header := by
    rw [Agent.length_encodeDump]
    omega
  version := by
    have hsplit : Agent.encodeDump
        (Agent.makeTraceHeader 1 syscallVocabSize containerId startTsNs) recs =
        [] ++ leBytes 4 1 ++ (leBytes 4 syscallVocabSize.toNat ++ Agent.charField 64 containerId ++
          leBytes 8 startTsNs.toNat ++ recs.flatMap Agent.TraceRecord.encode) := by
      simp only [Agent.encodeDump, Agent.TraceHeader.encode, Agent.makeTraceHeader, List.nil_append,
        List.append_assoc]
      rfl
    rw [hsplit, slice_middle List.length_nil (length_leBytes 4 1), leNat_leBytes]
    rfl
  whole := by
    rw [Agent.length_encodeDump]
    omega

theorem readRecords_encodeDump (h : Agent.TraceHeader) :
    readRecords ((Agent.encodeDump h recs).drop 80) = recs.map TraceRecord.ofAgent := by
  rw [Agent.encodeDump, List.drop_left' h.length_encode, readRecords_encode]

theorem timeless_ofAgent_iff :
    Timeless (recs.map TraceRecord.ofAgent) ↔ ¬ (recs = [] ∨ ∃ r ∈ recs, r.deltaTsUs ≠ 0) := by
  have hdelta : ∀ r : Agent.TraceRecord, (TraceRecord.ofAgent r).deltaTsUs = 0 ↔ r.deltaTsUs = 0 := by
    intro r
    rw [← UInt32.toNat_inj]
    exact Int.natCast_eq_zero
  simp only [Timeless, ne_eq, List.map_eq_nil_iff, List.forall_mem_map, hdelta, not_or, not_exists,
    not_and, not_not]

end Agent

/-- The validator decides the format, but for dumps whose records all have the time zero. Of the files
that the agent writes it accepts those without records and those with some time in them. -/
theorem validate_dump_exact (decode : ByteString → String) :
    (∀ file, (validateDump decode file = true ↔ IsDump file) ↔
      ¬ (IsDump file ∧ Timeless (readRecords (file.drop 80)))) ∧
    ∀ (syscallVocabSize : UInt32) (containerId : ByteString) (startTsNs : UInt64)
      (recs : List Agent.TraceRecord),
      validateDump decode (Agent.encodeDump
          (Agent.makeTraceHeader 1 syscallVocabSize containerId startTsNs) recs) = true ↔
        recs = [] ∨ ∃ r ∈ recs, r.deltaTsUs ≠ 0 := by
  refine ⟨fun file => ?_, fun vocab containerId start recs => ?_⟩
  · rw [validateDump_iff]
    tauto
  · have hdump := isDump_encodeDump vocab containerId start recs
    rw [validateDump_iff, readRecords_encodeDump, timeless_ofAgent_iff, not_not]
    exact and_iff_right hdump

/-- A file of the agent with one record, at the time of the start. -/
theorem timeless_dump_rejected :
    IsDump (Agent.encodeDump (Agent.makeTraceHeader 1 256 [119, 101, 98] 123456789)
        [⟨0, 59, 2, 0⟩]) ∧
      validateDump (fun _ => "web") (Agent.encodeDump
        (Agent.makeTraceHeader 1 256 [119, 101, 98] 123456789) [⟨0, 59, 2, 0⟩]) = false := by
  refine ⟨isDump_encodeDump 256 [119, 101, 98] 123456789 [⟨0, 59, 2, 0⟩], ?_⟩
  decide +kernel

end DeepKernel.Ml
