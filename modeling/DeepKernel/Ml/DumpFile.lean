import DeepKernel.Agent.Serialization
import Mathlib.Data.Bool.AllAny
import Mathlib.Data.List.DropRight

/-!
# The dump parser of the training tool

`parse_dump_file` of `train_from_dump.py` over the bytes of a file. The decoder of the container id
is a parameter, so that what it is applied to can be compared.

The parser and the bytes that the agent writes are related in both directions: every dump is read
back, and every file of at least one header gives its whole records.
-/

set_option autoImplicit false

namespace DeepKernel.Ml

open DeepKernel.Lib

/-! ## Parser -/

/-- Binary dump file header; `τ` is the type of a decoded text. -/
structure TraceHeader (τ : Type) where
  version : Int
  syscallVocabSize : Int
  containerId : τ
  startTsNs : Int
  deriving DecidableEq

/-- Single syscall record from dump. -/
structure TraceRecord where
  deltaTsUs : Int
  syscallId : Int
  argClass : Int
  argBucket : Int
  deriving DecidableEq

/-- `HEADER_SIZE`: the size of the format `<II64sQ`. -/
def headerSize : Nat := 4 + 4 + 64 + 8

/-- `RECORD_SIZE`: the size of the format `<IHBB`. -/
def recordSize : Nat := 4 + 2 + 1 + 1

/-- `bytes[start : start + size]`. -/
def slice (bytes : ByteString) (start size : Nat) : ByteString := (bytes.drop start).take size

/-- `container_bytes.rstrip(b'\x00')`. -/
def rstripZeros (bytes : ByteString) : ByteString := bytes.rdropWhile (· = 0)

/-- `struct.unpack(HEADER_FORMAT, header_bytes)` and the header made of it. -/
def unpackHeader {τ : Type} (decode : ByteString → τ) (bytes : ByteString) : TraceHeader τ where
  version := leNat (slice bytes 0 4)
  syscallVocabSize := leNat (slice bytes 4 4)
  containerId := decode (rstripZeros (slice bytes 8 64))
  startTsNs := leNat (slice bytes 72 8)

/-- `struct.unpack(RECORD_FORMAT, record_bytes)` and the record made of it. -/
def unpackRecord (bytes : ByteString) : TraceRecord where
  deltaTsUs := leNat (slice bytes 0 4)
  syscallId := leNat (slice bytes 4 2)
  argClass := leNat (slice bytes 6 1)
  argBucket := leNat (slice bytes 7 1)

/-- The record loop: read eight bytes at a time until a read comes back short. -/
def readRecords : ByteString → List TraceRecord
  | b₀ :: b₁ :: b₂ :: b₃ :: b₄ :: b₅ :: b₆ :: b₇ :: rest =>
      unpackRecord [b₀, b₁, b₂, b₃, b₄, b₅, b₆, b₇] :: readRecords rest
  | _ => []

/-- `parse_dump_file` on the contents of the file; `decode` is
`bytes.decode('utf-8', errors='replace')`. -/
def parseDumpFile {τ : Type} (decode : ByteString → τ) (file : ByteString) :
    Except String (TraceHeader τ × List TraceRecord) :=
  let headerBytes := file.take headerSize
  if headerBytes.length < headerSize then
    .error ("File too small for header: " ++ toString headerBytes.length ++ " bytes")
  else .ok (unpackHeader decode headerBytes, readRecords (file.drop headerSize))

/-- `struct.pack(RECORD_FORMAT, …)` for values in range. -/
def packRecord (r : TraceRecord) : ByteString :=
  leBytes 4 r.deltaTsUs.toNat ++ leBytes 2 r.syscallId.toNat ++ leBytes 1 r.argClass.toNat ++
    leBytes 1 r.argBucket.toNat

/-- A record of the agent as the parser represents it. -/
def TraceRecord.ofAgent (r : Agent.TraceRecord) : TraceRecord where
  deltaTsUs := r.deltaTsUs.toNat
  syscallId := r.syscallId.toNat
  argClass := r.argClass.toNat
  argBucket := r.argBucket.toNat

/-! ## Records -/

theorem slice_middle {xs ys : ByteString} {start size : Nat} (hstart : xs.length = start)
    (hsize : ys.length = size) (zs : ByteString) : slice (xs ++ ys ++ zs) start size = ys := by
  rw [slice, List.append_assoc, ← hstart, List.drop_left, ← hsize, List.take_left]

theorem exists_eight {bytes : ByteString} (h : bytes.length = 8) :
    ∃ b₀ b₁ b₂ b₃ b₄ b₅ b₆ b₇, bytes = [b₀, b₁, b₂, b₃, b₄, b₅, b₆, b₇] := by
  match bytes, h with
  | [b₀, b₁, b₂, b₃, b₄, b₅, b₆, b₇], _ => exact ⟨b₀, b₁, b₂, b₃, b₄, b₅, b₆, b₇, rfl⟩

theorem readRecords_append {bytes : ByteString} (h : bytes.length = 8) (rest : ByteString) :
    readRecords (bytes ++ rest) = unpackRecord bytes :: readRecords rest := by
  obtain ⟨b₀, b₁, b₂, b₃, b₄, b₅, b₆, b₇, rfl⟩ := exists_eight h
  rfl

theorem unpackRecord_encode (r : Agent.TraceRecord) :
    unpackRecord r.encode = TraceRecord.ofAgent r := by
  have hdelta : leNat (slice r.encode 0 4) = r.deltaTsUs.toNat :=
    leNat_leBytes_of_lt (w := 4) r.deltaTsUs.toNat_lt
  have hsyscall : leNat (slice r.encode 4 2) = r.syscallId.toNat :=
    leNat_leBytes_of_lt (w := 2) r.syscallId.toNat_lt
  have hclass : leNat (slice r.encode 6 1) = r.argClass.toNat := rfl
  have hbucket : leNat (slice r.encode 7 1) = r.argBucket.toNat := rfl
  rw [unpackRecord, hdelta, hsyscall, hclass, hbucket, TraceRecord.ofAgent]

theorem readRecords_encode (recs : List Agent.TraceRecord) :
    readRecords (recs.flatMap Agent.TraceRecord.encode) = recs.map TraceRecord.ofAgent := by
  induction recs with
  | nil => rfl
  | cons r recs ih =>
      rw [List.flatMap_cons, readRecords_append r.length_encode, unpackRecord_encode, ih,
        List.map_cons]

theorem packRecord_unpackRecord (b₀ b₁ b₂ b₃ b₄ b₅ b₆ b₇ : UInt8) :
    packRecord (unpackRecord [b₀, b₁, b₂, b₃, b₄, b₅, b₆, b₇]) =
      [b₀, b₁, b₂, b₃, b₄, b₅, b₆, b₇] := by
  have hdelta : leBytes 4 (leNat [b₀, b₁, b₂, b₃]) = _ := leBytes_leNat [b₀, b₁, b₂, b₃]
  have hsyscall : leBytes 2 (leNat [b₄, b₅]) = _ := leBytes_leNat [b₄, b₅]
  have hclass : leBytes 1 (leNat [b₆]) = _ := leBytes_leNat [b₆]
  have hbucket : leBytes 1 (leNat [b₇]) = _ := leBytes_leNat [b₇]
  change leBytes 4 (leNat [b₀, b₁, b₂, b₃]) ++ leBytes 2 (leNat [b₄, b₅]) ++
    leBytes 1 (leNat [b₆]) ++ leBytes 1 (leNat [b₇]) = _
  rw [hdelta, hsyscall, hclass, hbucket]
  rfl

/-- The loop returns one record for every eight bytes, and packing them again gives those bytes. -/
theorem readRecords_spec (bytes : ByteString) :
    (readRecords bytes).length = bytes.length / 8 ∧
      (readRecords bytes).flatMap packRecord = bytes.take (8 * (bytes.length / 8)) := by
  induction bytes using readRecords.induct with
  | case1 b₀ b₁ b₂ b₃ b₄ b₅ b₆ b₇ rest ih =>
      obtain ⟨hlen, hpack⟩ := ih
      have hdiv : (rest.length + 1 + 1 + 1 + 1 + 1 + 1 + 1 + 1) / 8 = rest.length / 8 + 1 := by
        omega
      have hmul : 8 * (rest.length / 8 + 1) = 8 * (rest.length / 8) + 8 := by omega
      constructor
      · simp only [readRecords, List.length_cons, hlen, hdiv]
      · rw [readRecords, List.flatMap_cons, packRecord_unpackRecord, hpack]
        simp only [List.length_cons, hdiv, hmul, List.take_succ_cons, List.cons_append,
          List.nil_append]
  | case2 bytes hshort =>
      -- the induction principle says only that no eight bytes can be split off
      have hlen : bytes.length < 8 := by
        by_contra hge
        have htake : (bytes.take 8).length = 8 := by
          rw [List.length_take]
          omega
        obtain ⟨b₀, b₁, b₂, b₃, b₄, b₅, b₆, b₇, heq⟩ := exists_eight htake
        refine hshort b₀ b₁ b₂ b₃ b₄ b₅ b₆ b₇ (bytes.drop 8) ?_
        calc bytes = bytes.take 8 ++ bytes.drop 8 := (List.take_append_drop 8 bytes).symm
          _ = _ := by rw [heq]; rfl
      have hzero : bytes.length / 8 = 0 := Nat.div_eq_of_lt hlen
      have hnil : readRecords bytes = [] := by
        rw [readRecords]
        exact hshort
      rw [hnil, hzero]
      exact ⟨rfl, rfl⟩

/-! ## Header -/

theorem takeWhile_ne_zero {id : ByteString} (h : ∀ b ∈ id, b ≠ 0) :
    id.takeWhile (· ≠ 0) = id := by
  rw [List.takeWhile_eq_self_iff]
  intro b hb
  simpa using h b hb

/-- The name field of a NUL-free id comes back as its first 63 bytes. -/
theorem rstripZeros_charField {id : ByteString} (h : ∀ b ∈ id, b ≠ 0) :
    rstripZeros (Agent.charField 64 id) = id.take 63 := by
  have hstrip : ∀ (bytes : ByteString) (n : Nat), (∀ b ∈ bytes, b ≠ 0) →
      rstripZeros (bytes ++ List.replicate n 0) = bytes := by
    intro bytes n hne
    induction n with
    | zero =>
        rw [List.replicate_zero, List.append_nil, rstripZeros, List.rdropWhile_eq_self_iff]
        intro hnil
        simpa using hne _ (List.getLast_mem hnil)
    | succ n ih =>
        rw [List.replicate_succ', ← List.append_assoc, rstripZeros,
          List.rdropWhile_concat_pos _ _ _ (by simp)]
        exact ih
  rw [Agent.charField, takeWhile_ne_zero h]
  exact hstrip _ _ fun b hb => h b (List.mem_of_mem_take hb)

theorem unpackHeader_encode {τ : Type} (decode : ByteString → τ) (h : Agent.TraceHeader) :
    unpackHeader decode h.encode =
      { version := h.version.toNat
        syscallVocabSize := h.syscallVocabSize.toNat
        containerId := decode (rstripZeros h.containerId)
        startTsNs := h.startTsNs.toNat } := by
  -- each field is found between the fields before and behind it
  have hversion : slice h.encode 0 4 = leBytes 4 h.version.toNat := by
    have hsplit : h.encode = [] ++ leBytes 4 h.version.toNat ++
        (leBytes 4 h.syscallVocabSize.toNat ++ h.containerId ++ leBytes 8 h.startTsNs.toNat) := by
      simp only [Agent.TraceHeader.encode, List.nil_append, List.append_assoc]
    rw [hsplit]
    exact slice_middle rfl (length_leBytes _ _) _
  have hvocab : slice h.encode 4 4 = leBytes 4 h.syscallVocabSize.toNat := by
    have hsplit : h.encode = leBytes 4 h.version.toNat ++ leBytes 4 h.syscallVocabSize.toNat ++
        (h.containerId ++ leBytes 8 h.startTsNs.toNat) := by
      simp only [Agent.TraceHeader.encode, List.append_assoc]
    rw [hsplit]
    exact slice_middle (length_leBytes _ _) (length_leBytes _ _) _
  have hname : slice h.encode 8 64 = h.containerId := by
    refine slice_middle ?_ h.size_containerId _
    rw [List.length_append, length_leBytes, length_leBytes]
  have hstart : slice h.encode 72 8 = leBytes 8 h.startTsNs.toNat := by
    rw [Agent.TraceHeader.encode, ← List.append_nil (_ ++ leBytes 8 _)]
    refine slice_middle ?_ (length_leBytes _ _) _
    simp [h.size_containerId]
  -- the numbers fit in their fields
  have hversionNat : leNat (leBytes 4 h.version.toNat) = h.version.toNat :=
    leNat_leBytes_of_lt (w := 4) h.version.toNat_lt
  have hvocabNat : leNat (leBytes 4 h.syscallVocabSize.toNat) = h.syscallVocabSize.toNat :=
    leNat_leBytes_of_lt (w := 4) h.syscallVocabSize.toNat_lt
  have hstartNat : leNat (leBytes 8 h.startTsNs.toNat) = h.startTsNs.toNat :=
    leNat_leBytes_of_lt (w := 8) h.startTsNs.toNat_lt
  rw [unpackHeader, hversion, hvocab, hname, hstart, hversionNat, hvocabNat, hstartNat]

/-! ## Whole files -/

section File

variable {τ : Type} (decode : ByteString → τ)

theorem parseDumpFile_of_lt {file : ByteString} (h : file.length < headerSize) :
    parseDumpFile decode file =
      .error ("File too small for header: " ++ toString file.length ++ " bytes") := by
  have htake : file.take headerSize = file := List.take_of_length_le (Nat.le_of_lt h)
  rw [parseDumpFile, htake, if_pos h]

theorem parseDumpFile_of_le {file : ByteString} (h : headerSize ≤ file.length) :
    parseDumpFile decode file =
      .ok (unpackHeader decode (file.take headerSize), readRecords (file.drop headerSize)) := by
  have hlen : (file.take headerSize).length = headerSize := by
    rw [List.length_take, Nat.min_eq_left h]
  rw [parseDumpFile, hlen, if_neg (Nat.lt_irrefl _)]

/-- A file is accepted exactly when it holds a header; the records are its whole records. -/
structure ParsesPrefix (file : ByteString) : Prop where
  fails_iff : (∃ e, parseDumpFile decode file = .error e) ↔ file.length < 80
  records : ∀ h recs, parseDumpFile decode file = .ok (h, recs) →
    recs.length = (file.length - 80) / 8 ∧
      recs.flatMap packRecord = (file.drop 80).take (8 * recs.length)

theorem parsesPrefix (file : ByteString) : ParsesPrefix decode file := by
  have hsize : headerSize = 80 := rfl
  rcases Nat.lt_or_ge file.length headerSize with hlt | hge
  · have herr := parseDumpFile_of_lt decode hlt
    refine ⟨⟨fun _ => hlt, fun _ => ⟨_, herr⟩⟩, fun h recs hok => ?_⟩
    rw [herr] at hok
    exact absurd hok (by simp)
  · have hok := parseDumpFile_of_le decode hge
    obtain ⟨hlen, hpack⟩ := readRecords_spec (file.drop headerSize)
    rw [List.length_drop] at hlen hpack
    refine ⟨⟨fun ⟨e, he⟩ => ?_, fun hlt => absurd hge (by omega)⟩, fun h recs hparse => ?_⟩
    · rw [hok] at he
      exact absurd he (by simp)
    · rw [hok, Except.ok.injEq, Prod.mk.injEq] at hparse
      obtain ⟨-, rfl⟩ := hparse
      exact ⟨hlen, by rw [hlen]; exact hpack⟩

/-- The parser reads back a header and the records behind it. -/
theorem parseDumpFile_encodeDump (h : Agent.TraceHeader) (recs : List Agent.TraceRecord) :
    parseDumpFile decode (Agent.encodeDump h recs) =
      .ok ({ version := h.version.toNat
             syscallVocabSize := h.syscallVocabSize.toNat
             containerId := decode (rstripZeros h.containerId)
             startTsNs := h.startTsNs.toNat }, recs.map TraceRecord.ofAgent) := by
  have hlen : h.encode.length = headerSize := h.length_encode
  have hge : headerSize ≤ (Agent.encodeDump h recs).length := by
    rw [Agent.length_encodeDump]
    exact Nat.le_add_right _ _
  rw [parseDumpFile_of_le decode hge, Agent.encodeDump, ← hlen, List.take_left, List.drop_left,
    unpackHeader_encode, readRecords_encode]

/-- The parser reads back what the agent writes, and of any other file the header and the whole
records. -/
theorem parse_dump_round_trip :
    (∀ (version syscallVocabSize : UInt32) (startTsNs : UInt64) (containerId : ByteString)
        (recs : List Agent.TraceRecord), (∀ b ∈ containerId, b ≠ 0) →
      parseDumpFile decode (Agent.encodeDump
          (Agent.makeTraceHeader version syscallVocabSize containerId startTsNs) recs) =
        .ok ({ version := version.toNat
               syscallVocabSize := syscallVocabSize.toNat
               containerId := decode (containerId.take 63)
               startTsNs := startTsNs.toNat }, recs.map TraceRecord.ofAgent)) ∧
      ∀ file, ParsesPrefix decode file := by
  refine ⟨fun version vocab start id recs hid => ?_, parsesPrefix decode⟩
  have hname : rstripZeros (Agent.makeTraceHeader version vocab id start).containerId =
      id.take 63 := rstripZeros_charField hid
  rw [parseDumpFile_encodeDump, hname]
  rfl

/-- A dump with one record, read back. -/
theorem parse_dump_round_trip_one_record :
    parseDumpFile id (Agent.encodeDump (Agent.makeTraceHeader 1 256 [112, 114, 111, 100] 123456789)
        [{ deltaTsUs := 23, syscallId := 42, argClass := 3, argBucket := 7 }]) =
      .ok ({ version := 1
             syscallVocabSize := 256
             containerId := [112, 114, 111, 100]
             startTsNs := 123456789 },
        [{ deltaTsUs := 23, syscallId := 42, argClass := 3, argBucket := 7 }]) :=
  (parse_dump_round_trip id).1 1 256 123456789 [112, 114, 111, 100]
    [{ deltaTsUs := 23, syscallId := 42, argClass := 3, argBucket := 7 }]
    (List.all_iff_forall_prop.mp (by decide))

end File

end DeepKernel.Ml
