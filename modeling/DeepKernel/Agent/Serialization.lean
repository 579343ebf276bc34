import DeepKernel.Lib.LittleEndian
import DeepKernel.Lib.OutputStream

/-!
# Event types and serialization of the agent

The records of `event_types.h`, the two encoders of a syscall event in `serialization.cpp`, and the
bytes of the packed structs that a dump file is made of. `buildWindowJson` counts microseconds from
the start of the window; `makeTraceRecord` counts them from a reference timestamp of its caller and
keeps 32 bits.

The sizes of the packed structs are `TraceHeader.length_encode` and `TraceRecord.length_encode`.
-/

set_option autoImplicit false

namespace DeepKernel.Agent

open DeepKernel.Lib

/-- The bytes of a text literal of the source. -/
def ascii (s : String) : ByteString := s.toList.map fun ch => UInt8.ofNat ch.toNat

/-- Decimal digits, as `operator<<` and `std::to_string` print an unsigned integer. -/
def decimal (n : Nat) : ByteString := ascii (toString n)

/-! ## Event types -/

/-- Event structure emitted from eBPF to user space. -/
structure KernelSyscallEvent where
  tsNs : UInt64
  pid : UInt32
  tid : UInt32
  cgroupId : UInt32
  syscallId : UInt16
  argClass : UInt8
  argBucket : UInt8
  deriving DecidableEq

/-- User-space representation of an event. -/
structure SyscallEvent where
  tsNs : UInt64
  pid : UInt32
  tid : UInt32
  cgroupId : UInt64
  syscallId : UInt16
  argClass : UInt8
  argBucket : UInt8
  deriving DecidableEq

/-- Compact trace record of a long dump. -/
structure TraceRecord where
  deltaTsUs : UInt32
  syscallId : UInt16
  argClass : UInt8
  argBucket : UInt8
  deriving DecidableEq

/-- Header of a dump file; `containerId` is the `char[64]` field. -/
structure TraceHeader where
  version : UInt32
  syscallVocabSize : UInt32
  containerId : ByteString
  size_containerId : containerId.length = 64
  startTsNs : UInt64

/-! ## Encoders -/

/-- Nanoseconds to microseconds. -/
def nsToUs (ns : UInt64) : UInt64 := ns / 1000

/-- The record of an event relative to the previous timestamp. -/
def makeTraceRecord (evt : SyscallEvent) (prevTsNs : UInt64) : TraceRecord where
  deltaTsUs := (nsToUs (evt.tsNs - prevTsNs)).toUInt32
  syscallId := evt.syscallId
  argClass := evt.argClass
  argBucket := evt.argBucket

/-- The JSON object of one event of a window. -/
def windowRecordJson (windowStartTsNs : UInt64) (ev : SyscallEvent) : ByteString :=
  ascii "\x7b\"delta_ts_us\":" ++ decimal (nsToUs (ev.tsNs - windowStartTsNs)).toNat ++
    ascii ",\"syscall_id\":" ++ decimal ev.syscallId.toNat ++
    ascii ",\"arg_class\":" ++ decimal ev.argClass.toNat ++
    ascii ",\"arg_bucket\":" ++ decimal ev.argBucket.toNat ++ ascii "\x7d"

/-- The payload of a short window. -/
def buildWindowJson (agentId containerId : ByteString) (windowStartTsNs : UInt64)
    (events : List SyscallEvent) : ByteString :=
  ascii "\x7b\"version\":1,\"agent_id\":\"" ++ agentId ++
    ascii "\",\"container_id\":\"" ++ containerId ++
    ascii "\",\"window_start_ts_ns\":" ++ decimal windowStartTsNs.toNat ++
    ascii ",\"records\":[" ++
    (ascii ",").intercalate (events.map (windowRecordJson windowStartTsNs)) ++ ascii "]\x7d"

/-- The payload of a dump completion. -/
def buildDumpCompleteJson (agentId containerId dumpPath : ByteString) (startTsNs : UInt64)
    (durationSec : Int32) (recordCount : Nat) : ByteString :=
  ascii "\x7b\"agent_id\":\"" ++ agentId ++
    ascii "\",\"container_id\":\"" ++ containerId ++
    ascii "\",\"dump_path\":\"" ++ dumpPath ++
    ascii "\",\"start_ts_ns\":" ++ decimal startTsNs.toNat ++
    ascii ",\"duration_sec\":" ++ ascii (toString durationSec.toInt) ++
    ascii ",\"record_count\":" ++ decimal recordCount ++ ascii "\x7d"

/-- Differences of timestamps are taken modulo `2 ^ 64`. -/
theorem toNat_sub_eq_emod (a b : UInt64) :
    ((a - b).toNat : Int) = ((a.toNat : Int) - b.toNat) % 2 ^ 64 := by
  have ha := a.toNat_lt
  have hb := b.toNat_lt
  rw [UInt64.toNat_sub]
  omega

theorem makeTraceRecord_eq (ev : SyscallEvent) (prevTsNs : UInt64) :
    makeTraceRecord ev prevTsNs =
      { deltaTsUs :=
          UInt32.ofNat ((((ev.tsNs.toNat : Int) - prevTsNs.toNat) % 2 ^ 64).toNat / 1000)
        syscallId := ev.syscallId
        argClass := ev.argClass
        argBucket := ev.argBucket } := by
  have hsub : (((ev.tsNs.toNat : Int) - prevTsNs.toNat) % 2 ^ 64).toNat =
      (ev.tsNs - prevTsNs).toNat := by
    rw [← toNat_sub_eq_emod, Int.toNat_natCast]
  have hdelta : (nsToUs (ev.tsNs - prevTsNs)).toUInt32 =
      UInt32.ofNat ((ev.tsNs - prevTsNs).toNat / 1000) := by
    apply UInt32.toNat_inj.1
    simp [nsToUs]
  rw [makeTraceRecord, hsub, hdelta]

/-! ## Packed structs -/

/-- A zero-initialised `char[n]` after `snprintf(field, n, "%s", s.c_str())`: the text up to the
first NUL, cut to `n - 1` bytes, then zeros. -/
def charField (n : Nat) (s : ByteString) : ByteString :=
  ((s.takeWhile (· ≠ 0)).take (n - 1)) ++
    List.replicate (n - ((s.takeWhile (· ≠ 0)).take (n - 1)).length) 0

theorem length_charField (n : Nat) (s : ByteString) : (charField n s).length = n := by
  have hle : ((s.takeWhile (· ≠ 0)).take (n - 1)).length ≤ n :=
    (List.length_take_le _ _).trans (Nat.sub_le n 1)
  rw [charField, List.length_append, List.length_replicate]
  omega

/-- The bytes of a packed `TraceRecord` on a little-endian host. -/
def TraceRecord.encode (r : TraceRecord) : ByteString :=
  leBytes 4 r.deltaTsUs.toNat ++ leBytes 2 r.syscallId.toNat ++ [r.argClass, r.argBucket]

@[simp] theorem TraceRecord.length_encode (r : TraceRecord) : r.encode.length = 8 := by
  simp [TraceRecord.encode]

/-- The header that `requestLongDump` fills in. -/
def makeTraceHeader (version syscallVocabSize : UInt32) (containerId : ByteString)
    (startTsNs : UInt64) : TraceHeader where
  version := version
  syscallVocabSize := syscallVocabSize
  containerId := charField 64 containerId
  size_containerId := length_charField 64 containerId
  startTsNs := startTsNs

/-- The bytes of a packed `TraceHeader` on a little-endian host. -/
def TraceHeader.encode (h : TraceHeader) : ByteString :=
  leBytes 4 h.version.toNat ++ leBytes 4 h.syscallVocabSize.toNat ++ h.containerId ++
    leBytes 8 h.startTsNs.toNat

@[simp] theorem TraceHeader.length_encode (h : TraceHeader) : h.encode.length = 80 := by
  simp [TraceHeader.encode, h.size_containerId]

/-- The bytes of a dump file: one header, then the records. -/
def encodeDump (h : TraceHeader) (recs : List TraceRecord) : ByteString :=
  h.encode ++ recs.flatMap TraceRecord.encode

theorem length_flatMap_encode (recs : List TraceRecord) :
    (recs.flatMap TraceRecord.encode).length = 8 * recs.length := by
  induction recs with
  | nil => rfl
  | cons r rs ih =>
      rw [List.flatMap_cons, List.length_append, ih, TraceRecord.length_encode, List.length_cons]
      omega

theorem length_encodeDump (h : TraceHeader) (recs : List TraceRecord) :
    (encodeDump h recs).length = 80 + 8 * recs.length := by
  rw [encodeDump, List.length_append, TraceHeader.length_encode, length_flatMap_encode]

theorem encodeDump_concat (h : TraceHeader) (recs : List TraceRecord) (r : TraceRecord) :
    encodeDump h (recs ++ [r]) = encodeDump h recs ++ r.encode := by
  simp [encodeDump]

end DeepKernel.Agent
