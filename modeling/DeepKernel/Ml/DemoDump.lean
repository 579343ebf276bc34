import DeepKernel.Ml.DumpFile

/-!
# The dump reader of the demo trainer

`parse_dump_file` of `train_demo_sensitive.py`, a second reader of the dump format. It takes a header of
64 bytes and records of 16 bytes, of which it unpacks 12; the agent writes 80 and 8. What it reads as
records lies across the fields of the file: the first one ends in the start timestamp of the header, and
each other one in the `delta_ts_us` of every second record (`triples_encodeDump`).
-/

set_option autoImplicit false

namespace DeepKernel.Ml.Demo

open DeepKernel.Lib

/-! ## Reader -/

/-- A system call id, an argument class and an argument bucket. -/
abbrev Triple := Int × Int × Int

/-- The exceptions of the reader. -/
inductive ReadError
  | valueError (message : String)
  | unicodeDecodeError
  deriving DecidableEq

/-- `bytes.decode('utf-8')`, which throws on bytes that are not UTF-8. -/
def decodeUtf8 (bytes : ByteString) : Option String := String.fromUTF8? ⟨bytes.toArray⟩

/-- The fields of `struct.unpack('<QHBB', record_data[:12])` behind the first one. -/
def unpackTriple (recordData : ByteString) : Triple :=
  (leNat (slice recordData 8 2), leNat (slice recordData 10 1), leNat (slice recordData 11 1))

/-- The record loop: sixteen bytes at a time, and a window for every 500 records. -/
def readWindows (records : List Triple) (windows : List (List Triple)) :
    ByteString → List (List Triple)
  | b₀ :: b₁ :: b₂ :: b₃ :: b₄ :: b₅ :: b₆ :: b₇ :: c₀ :: c₁ :: c₂ :: c₃ :: c₄ :: c₅ :: c₆ :: c₇ ::
      rest =>
      let records := records ++
        [unpackTriple [b₀, b₁, b₂, b₃, b₄, b₅, b₆, b₇, c₀, c₁, c₂, c₃, c₄, c₅, c₆, c₇]]
      if 500 ≤ records.length then readWindows [] (windows ++ [records]) rest
      else readWindows records windows rest
  | _ =>
      -- the last window, if it is not empty
      if records = [] then windows else windows ++ [records]

/-- `parse_dump_file`. -/
def parseDumpFile (file : ByteString) : Except ReadError (List (List Triple)) :=
  let header := file.take 64
  if header.length < 64 then .error (.valueError "Invalid dump file: header too short")
  else
    match decodeUtf8 (slice header 8 32) with
    | none => .error .unicodeDecodeError
    | some _ => .ok (readWindows [] [] (file.drop 64))

/-! ## What the loop reads -/

/-- The records of the loop, without the windows. -/
def triples : ByteString → List Triple
  | b₀ :: b₁ :: b₂ :: b₃ :: b₄ :: b₅ :: b₆ :: b₇ :: c₀ :: c₁ :: c₂ :: c₃ :: c₄ :: c₅ :: c₆ :: c₇ ::
      rest =>
      unpackTriple [b₀, b₁, b₂, b₃, b₄, b₅, b₆, b₇, c₀, c₁, c₂, c₃, c₄, c₅, c₆, c₇] ::
        triples rest
  | _ => []

/-- The windows are the records, one window behind the other. -/
theorem flatten_readWindows (records : List Triple) (windows : List (List Triple))
    (bytes : ByteString) :
    (readWindows records windows bytes).flatten = windows.flatten ++ records ++ triples bytes := by
  induction bytes using triples.induct generalizing records windows with
  | case1 b₀ b₁ b₂ b₃ b₄ b₅ b₆ b₇ c₀ c₁ c₂ c₃ c₄ c₅ c₆ c₇ rest ih =>
      rw [readWindows, triples]
      split_ifs with hfull
      · -- the window is full and is moved to the windows
        rw [ih, List.flatten_append, List.flatten_singleton]
        simp only [List.append_assoc, List.singleton_append]
      · rw [ih]
        simp only [List.append_assoc, List.singleton_append]
  | case2 bytes hshort =>
      have htriples : triples bytes = [] := by
        rw [triples]
        exact hshort
      rw [htriples, List.append_nil, readWindows]
      · split_ifs with hempty
        · rw [hempty, List.append_nil]
        · rw [List.flatten_append, List.flatten_singleton]
      · exact hshort

theorem triples_append {front back : ByteString} (hfront : front.length = 8)
    (hback : back.length = 8) (rest : ByteString) :
    triples (front ++ (back ++ rest)) = unpackTriple (front ++ back) :: triples rest := by
  obtain ⟨b₀, b₁, b₂, b₃, b₄, b₅, b₆, b₇, rfl⟩ := exists_eight hfront
  obtain ⟨c₀, c₁, c₂, c₃, c₄, c₅, c₆, c₇, rfl⟩ := exists_eight hback
  rfl

/-- The triple that is read where a little-endian number starts. -/
def overlay (n : Nat) : Triple :=
  ((n % 2 ^ 16 : Nat), (n / 2 ^ 16 % 2 ^ 8 : Nat), (n / 2 ^ 24 % 2 ^ 8 : Nat))

theorem unpackTriple_leBytes {front : ByteString} (hfront : front.length = 8) (n : Nat)
    (rest : ByteString) : unpackTriple (front ++ (leBytes 4 n ++ rest)) = overlay n := by
  obtain ⟨b₀, b₁, b₂, b₃, b₄, b₅, b₆, b₇, rfl⟩ := exists_eight hfront
  have hid : leNat [UInt8.ofNat n, UInt8.ofNat (n / 256)] = n % 2 ^ 16 := by
    simp only [leNat, UInt8.toNat_ofNat']
    omega
  have hclass : leNat [UInt8.ofNat (n / 256 / 256)] = n / 2 ^ 16 % 2 ^ 8 := by
    simp only [leNat, UInt8.toNat_ofNat']
    omega
  have hbucket : leNat [UInt8.ofNat (n / 256 / 256 / 256)] = n / 2 ^ 24 % 2 ^ 8 := by
    simp only [leNat, UInt8.toNat_ofNat']
    omega
  rw [overlay, ← hid, ← hclass, ← hbucket]
  rfl

/-- What is read in the place of the records: every second `delta_ts_us`. -/
def secondDeltas : List Agent.TraceRecord → List Triple
  | _ :: r :: recs => overlay r.deltaTsUs.toNat :: secondDeltas recs
  | _ => []

theorem length_secondDeltas (recs : List Agent.TraceRecord) :
    (secondDeltas recs).length = recs.length / 2 := by
  induction recs using secondDeltas.induct with
  | case1 r r' recs ih =>
      rw [secondDeltas, List.length_cons, ih, List.length_cons, List.length_cons]
      omega
  | case2 recs hshort =>
      rcases recs with _ | ⟨r, _ | ⟨r', recs⟩⟩
      · rfl
      · simp [secondDeltas]
      · exact absurd rfl (hshort r r' recs)

theorem triples_records (recs : List Agent.TraceRecord) :
    triples (recs.flatMap Agent.TraceRecord.encode) = secondDeltas recs := by
  induction recs using secondDeltas.induct with
  | case1 r r' recs ih =>
      rw [List.flatMap_cons, List.flatMap_cons,
        triples_append r.length_encode r'.length_encode, ih, secondDeltas]
      congr 1
      rw [Agent.TraceRecord.encode, List.append_assoc]
      exact unpackTriple_leBytes r.length_encode _ _
  | case2 recs hshort =>
      rcases recs with _ | ⟨r, _ | ⟨r', recs⟩⟩
      · rfl
      · -- eight bytes are half a record
        obtain ⟨b₀, b₁, b₂, b₃, b₄, b₅, b₆, b₇, hbytes⟩ := exists_eight r.length_encode
        rw [List.flatMap_singleton, hbytes]
        rfl
      · exact absurd rfl (hshort r r' recs)

/-! ## Dumps of the agent -/

section Dump

variable (h : Agent.TraceHeader) (recs : List Agent.TraceRecord)

/-- The reader cuts the dump inside the container id. -/
theorem encodeDump_split :
    Agent.encodeDump h recs =
      (leBytes 4 h.version.toNat ++ leBytes 4 h.syscallVocabSize.toNat ++ h.containerId.take 56) ++
        (h.containerId.drop 56 ++
          (leBytes 8 h.startTsNs.toNat ++ recs.flatMap Agent.TraceRecord.encode)) := by
  have hname := List.take_append_drop 56 h.containerId
  rw [Agent.encodeDump, Agent.TraceHeader.encode]
  simp only [List.append_assoc]
  rw [← List.append_assoc (h.containerId.take 56), hname]

theorem length_front :
    (leBytes 4 h.version.toNat ++ leBytes 4 h.syscallVocabSize.toNat ++
      h.containerId.take 56).length = 64 := by
  simp [h.size_containerId]

theorem triples_encodeDump :
    triples ((Agent.encodeDump h recs).drop 64) =
      overlay h.startTsNs.toNat :: secondDeltas recs := by
  have hname : (h.containerId.drop 56).length = 8 := by
    rw [List.length_drop, h.size_containerId]
  have hstart : leBytes 8 h.startTsNs.toNat = leBytes 4 h.startTsNs.toNat ++
      leBytes 4 (h.startTsNs.toNat / 256 / 256 / 256 / 256) := rfl
  rw [encodeDump_split, List.drop_left' (length_front h), triples_append hname (length_leBytes 8 _),
    triples_records, hstart, unpackTriple_leBytes hname]

/-- The container id that is decoded is the first half of the field. -/
theorem decoded_encodeDump :
    slice ((Agent.encodeDump h recs).take 64) 8 32 = h.containerId.take 32 := by
  have hnumbers : (leBytes 4 h.version.toNat ++ leBytes 4 h.syscallVocabSize.toNat).length = 8 := by
    simp
  rw [encodeDump_split, List.take_left' (length_front h), slice, List.drop_left' hnumbers, List.take_take]
  rfl

theorem parseDumpFile_encodeDump :
    parseDumpFile (Agent.encodeDump h recs) =
      match decodeUtf8 (h.containerId.take 32) with
      | none => .error .unicodeDecodeError
      | some _ => .ok (readWindows [] [] ((Agent.encodeDump h recs).drop 64)) := by
  have hlen : ¬ ((Agent.encodeDump h recs).take 64).length < 64 := by
    rw [List.length_take, Agent.length_encodeDump]
    omega
  rw [parseDumpFile, if_neg hlen, decoded_encodeDump]

end Dump

/-! ## Two readers -/

/-- The triple of a record that the agent wrote. -/
def tripleOf (r : Agent.TraceRecord) : Triple :=
  (r.syscallId.toNat, r.argClass.toNat, r.argBucket.toNat)

/-- Both readers return, and the windows of the one are the records of the other. -/
def ReadersAgree {τ : Type} (decode : ByteString → τ) (file : ByteString) : Prop :=
  ∃ windows header recs, parseDumpFile file = .ok windows ∧
    Ml.parseDumpFile decode file = .ok (header, recs) ∧
    windows.flatten = recs.map fun r => (r.syscallId, r.argClass, r.argBucket)

/-- The dumps in which the bytes in the wrong places happen to be those in the right ones: one record
that the start timestamp repeats, and perhaps a second one that repeats itself in its `delta_ts_us`. -/
def Coincides (h : Agent.TraceHeader) : List Agent.TraceRecord → Prop
  | [r] => overlay h.startTsNs.toNat = tripleOf r
  | [r, r'] => overlay h.startTsNs.toNat = tripleOf r ∧ overlay r'.deltaTsUs.toNat = tripleOf r'
  | _ => False

theorem overlay_cons_eq_iff (h : Agent.TraceHeader) (recs : List Agent.TraceRecord) :
    overlay h.startTsNs.toNat :: secondDeltas recs = recs.map tripleOf ↔ Coincides h recs := by
  rcases recs with _ | ⟨r, _ | ⟨r', _ | ⟨r'', recs⟩⟩⟩
  · exact iff_of_false (by simp) (by simp [Coincides])
  · simp [secondDeltas, Coincides]
  · simp [secondDeltas, Coincides]
  · -- one record more than half of them is too few
    refine iff_of_false (fun heq => ?_) (by simp [Coincides])
    have hlen := congrArg List.length heq
    rw [List.length_cons, length_secondDeltas, List.length_map] at hlen
    simp only [List.length_cons] at hlen
    omega

/-- The readers agree about a dump of the agent exactly when the first half of its container id is UTF-8
and its bytes coincide. -/
theorem readers_agree_iff {τ : Type} (decode : ByteString → τ) (h : Agent.TraceHeader)
    (recs : List Agent.TraceRecord) :
    ReadersAgree decode (Agent.encodeDump h recs) ↔
      (decodeUtf8 (h.containerId.take 32)).isSome ∧ Coincides h recs := by
  have hother := Ml.parseDumpFile_encodeDump decode h recs
  have htriples : (recs.map TraceRecord.ofAgent).map
      (fun r => (r.syscallId, r.argClass, r.argBucket)) = recs.map tripleOf := by
    rw [List.map_map]
    rfl
  have hflat : (readWindows [] [] ((Agent.encodeDump h recs).drop 64)).flatten =
      overlay h.startTsNs.toNat :: secondDeltas recs := by
    rw [flatten_readWindows, triples_encodeDump]
    rfl
  rw [← overlay_cons_eq_iff, ReadersAgree, parseDumpFile_encodeDump]
  cases hdecode : decodeUtf8 (h.containerId.take 32) with
  | none =>
      -- the decoder raises
      refine iff_of_false ?_ (by simp)
      rintro ⟨windows, header, parsed, hwindows, -⟩
      cases hwindows
  | some name =>
      constructor
      · rintro ⟨windows, header, parsed, hwindows, hparsed, heq⟩
        obtain rfl := Except.ok.inj hwindows
        rw [hother] at hparsed
        obtain ⟨-, rfl⟩ := Prod.mk.inj (Except.ok.inj hparsed)
        rw [hflat, htriples] at heq
        exact ⟨rfl, heq⟩
      · rintro ⟨-, heq⟩
        exact ⟨_, _, _, rfl, hother, by rw [hflat, htriples, heq]⟩

/-- A dump of three records. The second reader finds two, none of which the agent wrote. -/
theorem demo_reader_misaligned :
    parseDumpFile (Agent.encodeDump (Agent.makeTraceHeader 1 256 [119, 101, 98] 123456789)
        [⟨23, 42, 1, 7⟩, ⟨5, 59, 2, 0⟩, ⟨9, 2, 0, 3⟩]) =
      .ok [[(52501, 91, 7), (5, 0, 0)]] ∧
    ¬ ReadersAgree id (Agent.encodeDump (Agent.makeTraceHeader 1 256 [119, 101, 98] 123456789)
        [⟨23, 42, 1, 7⟩, ⟨5, 59, 2, 0⟩, ⟨9, 2, 0, 3⟩]) := by
  have hread : parseDumpFile (Agent.encodeDump
      (Agent.makeTraceHeader 1 256 [119, 101, 98] 123456789)
        [⟨23, 42, 1, 7⟩, ⟨5, 59, 2, 0⟩, ⟨9, 2, 0, 3⟩]) = .ok [[(52501, 91, 7), (5, 0, 0)]] := by
    decide +kernel
  refine ⟨hread, ?_⟩
  rintro ⟨windows, header, recs, hwindows, hparsed, heq⟩
  rw [hread] at hwindows
  obtain rfl := Except.ok.inj hwindows
  rw [Ml.parseDumpFile_encodeDump] at hparsed
  obtain ⟨-, rfl⟩ := Prod.mk.inj (Except.ok.inj hparsed)
  exact absurd (congrArg List.length heq) (by decide)

end DeepKernel.Ml.Demo
