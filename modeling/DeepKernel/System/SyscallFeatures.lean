import DeepKernel.Agent.Dump
import DeepKernel.Features.ClassRatios
import DeepKernel.Features.WireTypes
import DeepKernel.Server.FeatureShape
import DeepKernel.System.Capture

/-!
# From the tracepoint to the feature vector

A window leaves the agent as a JSON text. The server reads it into a `ShortWindowPayload` and makes a
feature vector of that. Over any run of the ring buffer and the agent, the texts sent for a container
are consecutive blocks of its handled syscalls, and the vector of a text is determined by the
syscalls of its block (`captured_features`, `CallFeatures`).

A text is read exactly if the clock of its block fits the types of the server (`ClockFits`). The
records of several processors may come out of the ring buffer out of order; a syscall that is a
nanosecond older than the first one of its block makes the delta wrap, and the whole window is
rejected.
-/

set_option autoImplicit false

namespace DeepKernel.System

open DeepKernel.Lib DeepKernel.Agent DeepKernel.Kernel DeepKernel.Features

/-! ## Reading a window -/

/-- A text in UTF-8. -/
def utf8String (bytes : ByteString) : Option String := String.fromUTF8? ⟨bytes.toArray⟩

/-- The numbers of a record, read into a `TraceRecord`. -/
def readRecord (r : RecordJson) : Option Server.TraceRecord := do
  let deltaTsUs ← decodeInt r.deltaTsUs
  let syscallId ← decodeInt r.syscallId
  let argClass ← decodeInt r.argClass
  let argBucket ← decodeInt r.argBucket
  return { deltaTsUs, syscallId, argClass, argBucket }

/-- The body of a request to `ingestWindow`, read into its argument. -/
def readPayload (body : ByteString) : Option Server.ShortWindowPayload := do
  let window ← (decodeTree body).bind readWindowJson
  let version ← decodeInt window.version
  let agentId ← utf8String window.agentId
  let containerId ← utf8String window.containerId
  let start ← decodeLong window.windowStartTsNs
  let records ← window.records.mapM readRecord
  return { version, agentId, containerId, windowStartTsNs := start, records := some records }

/-- The ids of a window are texts that JSON takes as they are. -/
structure PlainIds (agentId containerId : ByteString) (agentName containerName : String) :
    Prop where
  agent_plain : ∀ b ∈ agentId, b ≠ 34 ∧ b ≠ 92 ∧ 32 ≤ b
  container_plain : ∀ b ∈ containerId, b ≠ 34 ∧ b ≠ 92 ∧ 32 ≤ b
  agent_eq : utf8String agentId = some agentName
  container_eq : utf8String containerId = some containerName

theorem readWindowJson_windowTree (agentId containerId : ByteString) (start : UInt64)
    (events : List SyscallEvent) :
    readWindowJson (windowTree agentId containerId start events) =
      some ⟨1, agentId, containerId, start.toNat, events.map (expectedRecord start)⟩ := by
  have hversion : member? "version" (windowTree agentId containerId start events) =
      some (.number (decimal 1)) := rfl
  have hagent : member? "agent_id" (windowTree agentId containerId start events) =
      some (.text agentId) := rfl
  have hcontainer : member? "container_id" (windowTree agentId containerId start events) =
      some (.text containerId) := rfl
  have hstart : member? "window_start_ts_ns" (windowTree agentId containerId start events) =
      some (.number (decimal start.toNat)) := rfl
  have hitems : member? "records" (windowTree agentId containerId start events) =
      some (.array (events.map (recordTree start))) := rfl
  have hrecords : (events.map (recordTree start)).mapM readRecordJson =
      some (events.map (expectedRecord start)) := by
    rw [List.mapM_map]
    exact (congrArg (fun f => events.mapM f) (funext (readRecordJson_recordTree start))).trans
      List.mapM_pure
  rw [readWindowJson, hversion, hagent, hcontainer, hstart, hitems]
  simp only [Option.bind_eq_bind, Option.bind_some, nat?_decimal, Agent.text?, items?, hrecords,
    Option.pure_def]

/-- The delta that is printed is the one that is read. -/
theorem readRecord_expectedRecord (start : UInt64) (ev : SyscallEvent) :
    readRecord (expectedRecord start ev) = decodeRecord start ev := by
  have hdelta : (expectedRecord start ev).deltaTsUs = (nsToUs (ev.tsNs - start)).toNat := by
    rw [expectedRecord, ← toNat_sub_eq_emod, Int.toNat_natCast, nsToUs, UInt64.toNat_div]
    rfl
  rw [readRecord, hdelta, decodeRecord]
  rfl

/-- The server reads the numbers of the window. -/
theorem readPayload_buildWindowJson {agentId containerId : ByteString}
    {agentName containerName : String} (h : PlainIds agentId containerId agentName containerName)
    (start : UInt64) (events : List SyscallEvent) :
    readPayload (buildWindowJson agentId containerId start events) =
      decodeWindow agentName containerName start events := by
  have hrecords : (events.map (expectedRecord start)).mapM readRecord =
      events.mapM (decodeRecord start) := by
    rw [List.mapM_map]
    exact congrArg (fun f => events.mapM f) (funext (readRecord_expectedRecord start))
  rw [readPayload, decodeTree_buildWindowJson h.agent_plain h.container_plain, Option.bind_some,
    readWindowJson_windowTree]
  simp only [Option.bind_eq_bind, Option.bind_some, hrecords, h.agent_eq, h.container_eq]
  rfl

/-! ## The texts of a run -/

/-- The bodies of the windows sent for a container. -/
def bodiesOf (c : ByteString) (ps : List Post) : List ByteString :=
  ps.filterMap fun p => (sentWindow c p).map fun _ => p.payload.body

/-- A window that is posted has the id of the agent. -/
def NamesAgent (cfg : Setup) (p : Post) : Prop :=
  ∀ agentId c start events, p.payload = .window agentId c start events → agentId = cfg.agentId

theorem namesAgent_dumpCompletePost (cfg : Setup) (net : Net) (b : ContainerBuffer) :
    NamesAgent cfg (dumpCompletePost cfg net b) := by
  intro agentId c start events h
  cases h

theorem namesAgent_handleOwn {cfg : Setup} {net : Net} {files : FileSystem} {b : ContainerBuffer}
    {k : ByteString} {ev : SyscallEvent} {p : Post}
    (hp : p ∈ (handleOwn cfg net files b k ev).2.2) : NamesAgent cfg p := by
  rw [handleOwn_eq] at hp
  rcases List.mem_append.1 hp with hp | hp
  · unfold appendLongDump at hp
    split at hp
    · split at hp
      · rw [List.mem_singleton.1 hp]
        exact namesAgent_dumpCompletePost cfg net _
      · cases hp
    · cases hp
  · split at hp
    · unfold processShortWindow at hp
      split at hp
      · cases hp
      · rw [List.mem_singleton.1 hp]
        intro agentId c start events h
        cases h
        rfl
    · cases hp

theorem namesAgent_step (cfg : Setup) (a : AgentState) (op : Op) {p : Post}
    (hp : p ∈ (step cfg a op).2) : NamesAgent cfg p := by
  rcases step_cases cfg op with ⟨k, d, env, rfl⟩ | ⟨-, h⟩ | ⟨net, k, ev, -, h⟩
  · cases hp
  · rw [h] at hp
    cases hp
  · rw [h, posts_handleAccepted] at hp
    rcases List.mem_append.1 hp with hp | hp
    · exact namesAgent_handleOwn hp
    · obtain ⟨e, -, hp⟩ := List.mem_flatMap.1 hp
      split at hp
      · rw [List.mem_singleton.1 hp]
        exact namesAgent_dumpCompletePost cfg net _
      · cases hp

theorem namesAgent_posts (cfg : Setup) (a : AgentState) (ops : List Op) :
    ∀ p ∈ posts cfg a ops, NamesAgent cfg p := by
  induction ops generalizing a with
  | nil => exact fun p hp => absurd hp List.not_mem_nil
  | cons op ops ih =>
      intro p hp
      rw [posts, outputs_cons] at hp
      rcases List.mem_append.1 hp with hp | hp
      · exact namesAgent_step cfg a op hp
      · exact ih _ p hp

theorem bodiesOf_eq {cfg : Setup} {ps : List Post} (h : ∀ p ∈ ps, NamesAgent cfg p)
    (c : ByteString) :
    bodiesOf c ps =
      (windowsOf c ps).map fun window => buildWindowJson cfg.agentId c window.1 window.2 := by
  rw [bodiesOf, windowsOf, List.map_filterMap]
  refine List.filterMap_congr fun p hp => ?_
  rw [sentWindow]
  cases hpayload : p.payload with
  | dumpComplete agentId c' path start duration count => rfl
  | window agentId c' start events =>
      rw [h p hp agentId c' start events hpayload]
      by_cases hc : c' = c
      · subst hc
        simp only [if_true, Option.map_some, Payload.body]
      · simp only [if_neg hc, Option.map_none]

theorem bodiesOf_capture (cfg : Setup) (files : FileSystem) (steps : List CaptureStep)
    (c : ByteString) :
    bodiesOf c (capturePosts cfg (.init files) steps) =
      (windowsOf c (capturePosts cfg (.init files) steps)).map fun window =>
        buildWindowJson cfg.agentId c window.1 window.2 := by
  refine bodiesOf_eq ?_ c
  have hposts := (capture_eq cfg (AgentState.init files) [] steps).2
  rw [List.map_nil] at hposts
  have hinit : Capture.init files = ⟨[], AgentState.init files⟩ := rfl
  rw [hinit, hposts]
  exact namesAgent_posts cfg _ _

/-! ## The blocks -/

/-- The event of a syscall in the agent. -/
def eventOf (call : SysEnter) : SyscallEvent := mapEvent (handleSysEnter call)

/-- A handled syscall is one of a container. -/
def belongsTo (cfg : Setup) (c : ByteString) (h : SysEnter × ByteString) : Bool :=
  passesFilter cfg (mapContainerId h.2 (eventOf h.1).cgroupId) &&
    decide (mapContainerId h.2 (eventOf h.1).cgroupId = c)

/-- The handled syscalls of a container. -/
def callsOf (cfg : Setup) (c : ByteString) (hs : List (SysEnter × ByteString)) : List SysEnter :=
  (hs.filter (belongsTo cfg c)).map Prod.fst

theorem filterMap_eventFor (cfg : Setup) (c : ByteString) (hs : List (SysEnter × ByteString)) :
    hs.filterMap (eventFor cfg c) = (callsOf cfg c hs).map eventOf := by
  have hevent : ∀ h, eventFor cfg c h =
      if belongsTo cfg c h = true then some (eventOf h.1) else none := by
    intro h
    exact if_congr (by rw [belongsTo, Bool.and_eq_true, decide_eq_true_iff]; rfl) rfl rfl
  rw [callsOf, List.map_map, ← List.filterMap_eq_map, List.filterMap_filter]
  exact List.filterMap_congr fun h _ => hevent h

/-- The blocks of syscalls that the windows of a container are made of, and the syscalls of the open
window. -/
def blocksOf (cfg : Setup) (c : ByteString) (hs : List (SysEnter × ByteString)) :
    List (List SysEnter) × List SysEnter :=
  segmentFrom (fun block => cutsWindow cfg (block.map eventOf)) [] (callsOf cfg c hs)

theorem flatten_blocksOf (cfg : Setup) (c : ByteString) (hs : List (SysEnter × ByteString)) :
    (blocksOf cfg c hs).1.flatten ++ (blocksOf cfg c hs).2 = callsOf cfg c hs :=
  flatten_segmentFrom _ [] _

/-- The windows of a run are the events of the blocks. -/
theorem windows_blocksOf (cfg : Setup) (files : FileSystem) (steps : List CaptureStep)
    (c : ByteString) :
    (windowsOf c (capturePosts cfg (.init files) steps)).map Prod.snd =
        (blocksOf cfg c (handled [] steps)).1.map (List.map eventOf) ∧
      (captureAfter cfg (.init files) steps).agent.openWindow c =
        (blocksOf cfg c (handled [] steps)).2.map eventOf := by
  have hwindows := (windows_capture cfg files steps c).1
  rw [filterMap_eventFor, ← List.map_nil (f := eventOf), segmentFrom_map] at hwindows
  exact Prod.mk.inj hwindows

/-! ## What a vector says of syscalls -/

/-- The symbol of a syscall. The event has room for 16 bits of its number. -/
def symbolOf (call : SysEnter) : Fin 24 :=
  Server.mapSyscallToAlphabet (Int32.ofNat call.id.toUInt64.toUInt16.toNat)

/-- The symbols of consecutive syscalls. -/
def pairsOf (calls : List SysEnter) : List (Fin 24 × Fin 24) := neighbours (calls.map symbolOf)

/-- The number of syscalls of a class. -/
def classCount (argClass : UInt8) (calls : List SysEnter) : Nat :=
  calls.countP fun call => decide (classifyArgClass call.id = argClass)

/-- The number of syscalls in an argument bucket. The program always writes the bucket 0, so that the
class decides alone: three of the twelve buckets are in use, two of them for two classes each. -/
def bucketCount (calls : List SysEnter) (b : Fin 12) : Nat :=
  if b = 0 then classCount argClassOther calls + classCount argClassProc calls
  else if b = 4 then classCount argClassFile calls + classCount argClassMem calls
  else if b = 8 then classCount argClassNet calls
  else 0

/-- The time from the first to the last syscall, in whole microseconds. -/
def spanOf (calls : List SysEnter) : Nat :=
  match calls.head?, calls.getLast? with
  | some first, some last => (last.ktimeNs.toNat - first.ktimeNs.toNat) / 1000
  | _, _ => 0

section Features

variable {R : Type} [Field R] [LinearOrder R]

/-- The feature vector of some syscalls. The file ratio counts the class `OTHER` and the network
ratio the class `FILE`. -/
structure CallFeatures (log : R → R) (calls : List SysEnter) (vec : List R) : Prop where
  length_eq : vec.length = 594
  cell_eq : ∀ i j : Fin 24, vec[24 * i.val + j.val]? =
    some (((pairsOf calls).count (i, j) : R) / (((pairsOf calls).map Prod.fst).count i : R))
  distinct_eq : vec[576]? = some ((pairsOf calls).dedup.length : R)
  entropy_eq : vec[577]? = some (Server.entropyOf log
    (((rowMajor 24 24).filter fun cell => decide (cell ∈ pairsOf calls)).map fun cell =>
      ((pairsOf calls).count cell : R) / ((max (calls.length - 1) 1 : Nat) : R)))
  file_eq : vec[578]? = some ((classCount argClassOther calls : R) / (calls.length : R))
  net_eq : vec[579]? = some ((classCount argClassFile calls : R) / (calls.length : R))
  duration_eq : vec[580]? = some ((spanOf calls : R) / 10 ^ 6)
  mean_eq : vec[581]? = some ((spanOf calls : R) / 10 ^ 6 / (calls.length : R))
  bucket_eq : ∀ b : Fin 12, vec[582 + b.val]? =
    some ((bucketCount calls b : R) / (calls.length : R))

omit [LinearOrder R] in
/-- The syscalls determine their vector. -/
theorem CallFeatures.unique {log : R → R} {calls : List SysEnter} {vec vec' : List R}
    (h : CallFeatures log calls vec) (h' : CallFeatures log calls vec') : vec = vec' := by
  refine List.ext_getElem? fun i => ?_
  by_cases hcell : i < 576
  · have hi : i = 24 * (i / 24) + i % 24 := by omega
    have hcells := (h.cell_eq ⟨i / 24, by omega⟩ ⟨i % 24, by omega⟩).trans
      (h'.cell_eq ⟨i / 24, by omega⟩ ⟨i % 24, by omega⟩).symm
    rwa [← hi] at hcells
  by_cases hstatistics : i < 582
  · obtain rfl | rfl | rfl | rfl | rfl | rfl :
        i = 576 ∨ i = 577 ∨ i = 578 ∨ i = 579 ∨ i = 580 ∨ i = 581 := by omega
    · rw [h.distinct_eq, h'.distinct_eq]
    · rw [h.entropy_eq, h'.entropy_eq]
    · rw [h.file_eq, h'.file_eq]
    · rw [h.net_eq, h'.net_eq]
    · rw [h.duration_eq, h'.duration_eq]
    · rw [h.mean_eq, h'.mean_eq]
  by_cases hbucket : i < 594
  · have hi : i = 582 + (i - 582) := by omega
    have hbuckets := (h.bucket_eq ⟨i - 582, by omega⟩).trans
      (h'.bucket_eq ⟨i - 582, by omega⟩).symm
    rwa [← hi] at hbuckets
  · have hlength := h.length_eq
    have hlength' := h'.length_eq
    rw [List.getElem?_eq_none (by omega), List.getElem?_eq_none (by omega)]

end Features

/-! ## The records of a block -/

/-- The record that the server reads for a syscall. -/
def recordOf (start : UInt64) (call : SysEnter) : Server.TraceRecord :=
  windowRecord start (eventOf call)

theorem twoGrams_recordOf (start : UInt64) (calls : List SysEnter) :
    Server.twoGrams (calls.map (recordOf start)) = pairsOf calls := by
  rw [Server.twoGrams, Server.symbols, List.map_map, pairsOf]
  rfl

theorem countP_recordOf (start : UInt64) (calls : List SysEnter) (argClass : UInt8) :
    (calls.map (recordOf start)).countP
        (fun r => decide (r.argClass = Int32.ofNat argClass.toNat)) = classCount argClass calls := by
  rw [List.countP_map, classCount]
  refine List.countP_congr fun call _ => ?_
  simp only [Function.comp_apply, decide_eq_true_eq]
  exact ofNat_toNat_eq_iff _ _

theorem classifyArgClass_cases (syscallId : Int64) :
    classifyArgClass syscallId = argClassOther ∨ classifyArgClass syscallId = argClassFile ∨
      classifyArgClass syscallId = argClassNet ∨ classifyArgClass syscallId = argClassProc ∨
      classifyArgClass syscallId = argClassMem := by
  unfold classifyArgClass
  split_ifs <;> simp

theorem bucketCount_append (calls calls' : List SysEnter) (b : Fin 12) :
    bucketCount (calls ++ calls') b = bucketCount calls b + bucketCount calls' b := by
  have hclass : ∀ argClass, classCount argClass (calls ++ calls') =
      classCount argClass calls + classCount argClass calls' := fun argClass => List.countP_append
  simp only [bucketCount, hclass]
  split_ifs <;> omega

theorem bucketCount_singleton (start : UInt64) (call : SysEnter) (b : Fin 12) :
    bucketCount [call] b = if Server.bucketIndex (recordOf start call) = b then 1 else 0 := by
  -- a record has its bucket from its class alone
  have hbucket : ∀ argClass : UInt8, classifyArgClass call.id = argClass →
      Server.bucketIndex (recordOf start call) =
        Server.bucketIndex ⟨0, 0, Int32.ofNat argClass.toNat, 0⟩ := by
    rintro argClass rfl
    rfl
  rcases classifyArgClass_cases call.id with h | h | h | h | h <;>
    rw [hbucket _ h] <;>
    simp only [bucketCount, classCount, List.countP_singleton, h] <;>
    revert b <;>
    decide

/-- The buckets of the records are those of the classes. -/
theorem count_bucketIndex (start : UInt64) (calls : List SysEnter) (b : Fin 12) :
    ((calls.map (recordOf start)).map Server.bucketIndex).count b = bucketCount calls b := by
  induction calls with
  | nil =>
      unfold bucketCount
      split_ifs <;> rfl
  | cons call calls ih =>
      rw [List.map_cons, List.map_cons, List.count_cons, ih, ← List.singleton_append,
        bucketCount_append, bucketCount_singleton start, Nat.add_comm]
      simp only [beq_iff_eq]

/-! ## The vector of a block -/

/-- The clock of some syscalls fits the types of the server: none is before the first one, and none
`2 ^ 31` microseconds or more after it. -/
def ClockFits (calls : List SysEnter) : Prop :=
  ∀ first ∈ calls.head?, first.ktimeNs.toNat < 2 ^ 63 ∧
    ∀ call ∈ calls, first.ktimeNs.toNat ≤ call.ktimeNs.toNat ∧
      call.ktimeNs.toNat - first.ktimeNs.toNat < 2 ^ 31 * 1000

/-- From a start below `2 ^ 63` a delta fits exactly if it did not wrap and is small enough: one that
wrapped is above `2 ^ 62`. -/
theorem nsToUs_sub_lt_iff {start ts : UInt64} (hstart : start.toNat < 2 ^ 63) :
    (nsToUs (ts - start)).toNat < 2 ^ 31 ↔
      start.toNat ≤ ts.toNat ∧ ts.toNat - start.toNat < 2 ^ 31 * 1000 := by
  have hts := ts.toNat_lt
  have hthousand : (1000 : UInt64).toNat = 1000 := rfl
  rw [nsToUs, UInt64.toNat_div, hthousand, UInt64.toNat_sub]
  omega

section Block

variable {calls : List SysEnter} {first : SysEnter} (hfirst : calls.head? = some first)
  (agentName containerName : String)

include hfirst

theorem clockFits_iff :
    ClockFits calls ↔ first.ktimeNs.toNat < 2 ^ 63 ∧ ∀ ev ∈ calls.map eventOf,
      (nsToUs (ev.tsNs - first.ktimeNs)).toNat < 2 ^ 31 := by
  rw [ClockFits, hfirst]
  simp only [Option.mem_some_iff, forall_eq', List.forall_mem_map]
  refine and_congr_right fun hstart => forall₂_congr fun call _ => ?_
  exact (nsToUs_sub_lt_iff hstart).symm

/-- A block whose clock fits is read record by record. -/
theorem decodeWindow_of_clockFits (h : ClockFits calls) :
    decodeWindow agentName containerName first.ktimeNs (calls.map eventOf) =
      some ⟨1, agentName, containerName, Int64.ofNat first.ktimeNs.toNat,
        some (calls.map (recordOf first.ktimeNs))⟩ := by
  obtain ⟨hstart, hdeltas⟩ := (clockFits_iff hfirst).1 h
  have hlong : decodeLong first.ktimeNs.toNat = some (Int64.ofNat first.ktimeNs.toNat) :=
    if_pos hstart
  rw [decodeWindow, hlong, mapM_decodeRecord_of_lt hdeltas, List.map_map]
  rfl

theorem decodeWindow_of_not_clockFits (h : ¬ ClockFits calls) :
    decodeWindow agentName containerName first.ktimeNs (calls.map eventOf) = none := by
  rw [decodeWindow]
  by_cases hstart : first.ktimeNs.toNat < 2 ^ 63
  · -- some delta is out of range
    rw [clockFits_iff hfirst] at h
    simp only [hstart, true_and, not_forall] at h
    obtain ⟨ev, hev, hdelta⟩ := h
    rw [mapM_decodeRecord_eq_none hev hdelta]
    cases decodeLong first.ktimeNs.toNat with
    | none => rfl
    | some start => rfl
  · rw [decodeLong, if_neg hstart]
    rfl

/-- The last record has the span of the block as its delta. -/
theorem deltaTsUs_getLast (h : ClockFits calls) :
    ∃ r, (calls.map (recordOf first.ktimeNs)).getLast? = some r ∧
      r.deltaTsUs.toInt = spanOf calls := by
  have hne : calls ≠ [] := List.ne_nil_of_mem (List.mem_of_mem_head? hfirst)
  have hlast := List.getLast?_eq_some_getLast hne
  obtain ⟨hstart, hdeltas⟩ := (clockFits_iff hfirst).1 h
  have hdelta := hdeltas _ (List.mem_map_of_mem (List.getLast_mem hne))
  obtain ⟨-, hcalls⟩ := h first hfirst
  obtain ⟨hle, -⟩ := hcalls _ (List.getLast_mem hne)
  refine ⟨recordOf first.ktimeNs (calls.getLast hne), by rw [List.getLast?_map, hlast]; rfl, ?_⟩
  have hspan : (nsToUs ((eventOf (calls.getLast hne)).tsNs - first.ktimeNs)).toNat =
      spanOf calls := by
    have hts : (eventOf (calls.getLast hne)).tsNs = (calls.getLast hne).ktimeNs := rfl
    rw [hts, nsToUs, UInt64.toNat_div,
      UInt64.toNat_sub_of_le _ _ (UInt64.le_iff_toNat_le.2 hle), spanOf, hfirst, hlast]
    rfl
  rw [recordOf, windowRecord, ← hspan]
  exact Int32.toInt_ofNat_of_lt hdelta

end Block

section Vector

variable {R : Type} [Field R] [LinearOrder R] [IsStrictOrderedRing R]

/-- The terms of the entropy, from the pairs alone. -/
theorem probabilities_eq {s : Server.Scan R} {records : List Server.TraceRecord}
    (h : s.Counts records) (n : Nat) :
    s.probabilities n =
      ((rowMajor 24 24).filter fun cell => decide (cell ∈ Server.twoGrams records)).map fun cell =>
        ((Server.twoGrams records).count cell : R) / (n : R) := by
  have hcells : s.positiveCells =
      (rowMajor 24 24).filter fun cell => decide (cell ∈ Server.twoGrams records) := by
    refine List.filter_congr fun cell _ => ?_
    rw [decide_eq_decide]
    exact h.normalized_pos_iff cell
  rw [Server.Scan.probabilities, hcells]
  refine List.map_congr_left fun cell hcell => ?_
  rw [h.probability_eq (of_decide_eq_true (List.mem_filter.1 hcell).2)]

theorem callFeatures_extract (log : R → R) {calls : List SysEnter} {first : SysEnter}
    (hfirst : calls.head? = some first) (h : ClockFits calls) (agentName containerName : String) :
    CallFeatures log calls (Server.extract log ⟨1, agentName, containerName,
      Int64.ofNat first.ktimeNs.toNat, some (calls.map (recordOf first.ktimeNs))⟩) := by
  have hne : calls ≠ [] := List.ne_nil_of_mem (List.mem_of_mem_head? hfirst)
  have hrecords : calls.map (recordOf first.ktimeNs) ≠ [] := by simpa using hne
  have hpos : 0 < (calls.map (recordOf first.ktimeNs)).length := List.length_pos_of_ne_nil hrecords
  have hcounts := Server.counts_scanWindow (R := R) (Int64.ofNat first.ktimeNs.toNat)
    (calls.map (recordOf first.ktimeNs))
  have hshape := hcounts.featureShape hrecords log (Int64.ofNat first.ktimeNs.toNat)
  obtain ⟨hfile, hnet, hduration, hmean⟩ := Server.vector_ratios
    (Server.scanWindow (Int64.ofNat first.ktimeNs.toNat) (calls.map (recordOf first.ktimeNs)) :
      Server.Scan R) log (Int64.ofNat first.ktimeNs.toNat) hpos
  obtain ⟨hfileOps, hnetOps⟩ := Server.scanWindow_ops (R := R) (Int64.ofNat first.ktimeNs.toNat)
    (calls.map (recordOf first.ktimeNs))
  -- the distance of the last timestamp from the start
  obtain ⟨r, hlast, hdelta⟩ := deltaTsUs_getLast hfirst h
  have hlastTs := Server.scanWindow_lastTs (R := R) (Int64.ofNat first.ktimeNs.toNat) _ hlast
  have hmicro : (((spanOf calls : Int) * 1000 : Int) : R) / 10 ^ 9 = (spanOf calls : R) / 10 ^ 6 := by
    push_cast
    field_simp
    ring
  rw [hlastTs, Server.timestamp_sub_start, hdelta, hmicro] at hduration hmean
  rw [List.length_map] at hfile hnet hmean
  have hentropy := (Server.vector_layout (Server.scanWindow (Int64.ofNat first.ktimeNs.toNat)
    (calls.map (recordOf first.ktimeNs)) : Server.Scan R) log (Int64.ofNat first.ktimeNs.toNat)
    (calls.map (recordOf first.ktimeNs)).length).getElem?_second (i := 1) (by omega)
  have hbucket := hcounts.getElem?_bucket log (Int64.ofNat first.ktimeNs.toNat)
    (calls.map (recordOf first.ktimeNs)).length
  have hmax : max (calls.map (recordOf first.ktimeNs)).length 1 = calls.length := by
    rw [List.length_map] at hpos ⊢
    omega
  rw [Server.extract_of_ne_nil log rfl hrecords]
  refine ⟨hshape.length_eq, fun i j => ?_, ?_, ?_, ?_, ?_, ?_, ?_, fun b => ?_⟩
  · rw [hshape.cell_eq, twoGrams_recordOf]
  · rw [hshape.distinct_eq, twoGrams_recordOf]
  · refine hentropy.trans ?_
    rw [Server.Scan.statistics, List.getElem?_cons_succ, List.getElem?_cons_zero,
      probabilities_eq hcounts, twoGrams_recordOf, List.length_map]
  · rw [List.length_map, hfile, hfileOps]
    exact congrArg (fun n : Nat => some ((n : R) / (calls.length : R)))
      (countP_recordOf first.ktimeNs calls argClassOther)
  · rw [List.length_map, hnet, hnetOps]
    exact congrArg (fun n : Nat => some ((n : R) / (calls.length : R)))
      (countP_recordOf first.ktimeNs calls argClassFile)
  · exact hduration
  · rw [List.length_map]
    exact hmean
  · rw [hbucket, count_bucketIndex, hmax]

/-! ## Runs -/

/-- The argument of `ingestWindow` for a block. -/
structure PayloadOf (log : R → R) (containerName : String) (block : List SysEnter)
    (payload : Server.ShortWindowPayload) : Prop where
  containerId_eq : payload.containerId = containerName
  start_eq : block.head?.map (fun call => (call.ktimeNs.toNat : Int)) =
    some payload.windowStartTsNs.toInt
  features : CallFeatures log block (Server.extract log payload)

/-- The text of a window and the block of syscalls that it is made of. -/
structure ReadAs (log : R → R) (containerName : String) (body : ByteString)
    (block : List SysEnter) : Prop where
  ne_nil : block ≠ []
  read_of_clockFits : ClockFits block →
    ∃ payload, readPayload body = some payload ∧ PayloadOf log containerName block payload
  rejected_of_not_clockFits : ¬ ClockFits block → readPayload body = none

theorem readAs_window (log : R → R) {cfg : Setup} {c : ByteString} {agentName containerName : String}
    (hids : PlainIds cfg.agentId c agentName containerName) {start : UInt64}
    {block : List SysEnter} (hhead : (block.map eventOf).head?.map (·.tsNs) = some start) :
    ReadAs log containerName (buildWindowJson cfg.agentId c start (block.map eventOf)) block := by
  obtain ⟨first, hfirst, hstart⟩ : ∃ first, block.head? = some first ∧ first.ktimeNs = start := by
    cases block with
    | nil => cases hhead
    | cons first block => exact ⟨first, rfl, Option.some.inj hhead⟩
  subst hstart
  have hread := readPayload_buildWindowJson hids first.ktimeNs (block.map eventOf)
  refine ⟨List.ne_nil_of_mem (List.mem_of_mem_head? hfirst), fun h => ?_, fun h => ?_⟩
  · rw [decodeWindow_of_clockFits hfirst agentName containerName h] at hread
    refine ⟨_, hread, rfl, ?_, callFeatures_extract log hfirst h agentName containerName⟩
    rw [hfirst, Option.map_some, Int64.toInt_ofNat_of_lt (h first hfirst).1]
  · rw [hread, decodeWindow_of_not_clockFits hfirst agentName containerName h]

/-- Every text of a run is that of its block. -/
theorem readAs_blocksOf (log : R → R) (cfg : Setup) (files : FileSystem)
    (steps : List CaptureStep) {c : ByteString} {agentName containerName : String}
    (hids : PlainIds cfg.agentId c agentName containerName) :
    List.Forall₂ (ReadAs log containerName) (bodiesOf c (capturePosts cfg (.init files) steps))
      (blocksOf cfg c (handled [] steps)).1 := by
  have hequal : List.Forall₂ (· = ·)
      ((windowsOf c (capturePosts cfg (.init files) steps)).map Prod.snd)
      ((blocksOf cfg c (handled [] steps)).1.map (List.map eventOf)) := by
    rw [List.forall₂_eq_eq_eq]
    exact (windows_blocksOf cfg files steps c).1
  have hblocks := List.forall₂_map_left_iff.1 (List.forall₂_map_right_iff.1 hequal)
  have hheads := (windows_capture cfg files steps c).2
  rw [bodiesOf_capture, List.forall₂_map_left_iff]
  refine ((List.forall₂_and_left _ _).2 ⟨hheads, hblocks⟩).imp fun window block h => ?_
  obtain ⟨hhead, hevents⟩ := h
  rw [hevents] at hhead ⊢
  exact readAs_window log hids hhead

/-- In every run the handled syscalls of a container are consecutive blocks, one for each text that is
sent for it, and the ones in the open window. The server makes of a text the feature vector of its
block if the clock of the block fits, and rejects it otherwise. -/
theorem captured_features (log : R → R) (cfg : Setup) (files : FileSystem)
    (steps : List CaptureStep) (c : ByteString) {agentName containerName : String}
    (hids : PlainIds cfg.agentId c agentName containerName) :
    ∃ blocks rest,
      blocks.flatten ++ rest = callsOf cfg c (handled [] steps) ∧
        rest.map eventOf = (captureAfter cfg (.init files) steps).agent.openWindow c ∧
        List.Forall₂ (ReadAs log containerName) (bodiesOf c (capturePosts cfg (.init files) steps))
          blocks :=
  ⟨_, _, flatten_blocksOf cfg c _, (windows_blocksOf cfg files steps c).2.symm,
    readAs_blocksOf log cfg files steps hids⟩

end Vector

/-- Windows of two events. -/
def pairSetup : Setup := { minEventsPerWindow := 2 }

/-- Two syscalls of a container on two processors, the second one a nanosecond older, and two of
another container in order, five seconds apart. -/
def swappedCalls : List CaptureStep :=
  [.sysEnter ⟨0, 5000, 0, 7⟩ true, .sysEnter ⟨1, 4999, 0, 7⟩ true,
    .sysEnter ⟨0, 6000, 0, 8⟩ true, .sysEnter ⟨1, 5000006000, 0, 8⟩ true,
    .consume (ascii "web") fun _ _ _ => true, .consume (ascii "web") fun _ _ _ => true,
    .consume (ascii "db") fun _ _ _ => true, .consume (ascii "db") fun _ _ _ => true]

/-- Both windows are sent. The one in order is read, the other one is rejected. -/
theorem captured_features_swappedCalls :
    (∃ body, bodiesOf (ascii "web") (capturePosts pairSetup (.init Table.empty) swappedCalls) =
        [body] ∧ readPayload body = none) ∧
      ∃ body payload,
        bodiesOf (ascii "db") (capturePosts pairSetup (.init Table.empty) swappedCalls) = [body] ∧
          readPayload body = some payload ∧
          PayloadOf (fun x : ℚ => x - 1) "db" [⟨0, 6000, 0, 8⟩, ⟨1, 5000006000, 0, 8⟩] payload := by
  -- the only window of a container is made of all its syscalls
  have honly : ∀ {c : ByteString} {name : String}, PlainIds pairSetup.agentId c "node-1" name →
      (bodiesOf c (capturePosts pairSetup (.init Table.empty) swappedCalls)).length = 1 →
      (captureAfter pairSetup (.init Table.empty) swappedCalls).agent.openWindow c = [] →
      ∃ body, bodiesOf c (capturePosts pairSetup (.init Table.empty) swappedCalls) = [body] ∧
        ReadAs (fun x : ℚ => x - 1) name body (callsOf pairSetup c (handled [] swappedCalls)) := by
    intro c name hids hone hopen
    obtain ⟨body, hbody⟩ := List.length_eq_one_iff.1 hone
    obtain ⟨blocks, rest, hflat, hrest, hread⟩ :=
      captured_features (fun x : ℚ => x - 1) pairSetup Table.empty swappedCalls c hids
    rw [hbody] at hread
    obtain ⟨block, blocks', hblock, hnil, rfl⟩ := List.forall₂_cons_left_iff.1 hread
    obtain rfl := List.forall₂_nil_left_iff.1 hnil
    obtain rfl := List.map_eq_nil_iff.1 (hrest.trans hopen)
    rw [List.flatten_singleton, List.append_nil] at hflat
    exact ⟨body, hbody, hflat ▸ hblock⟩
  have hweb : PlainIds pairSetup.agentId (ascii "web") "node-1" "web" :=
    ⟨List.all_iff_forall_prop.mp (by decide), List.all_iff_forall_prop.mp (by decide),
      by decide +kernel, by decide +kernel⟩
  have hdb : PlainIds pairSetup.agentId (ascii "db") "node-1" "db" :=
    ⟨List.all_iff_forall_prop.mp (by decide), List.all_iff_forall_prop.mp (by decide),
      by decide +kernel, by decide +kernel⟩
  obtain ⟨body, hbody, hread⟩ := honly hweb (by decide +kernel) (by decide +kernel)
  obtain ⟨body', hbody', hread'⟩ := honly hdb (by decide +kernel) (by decide +kernel)
  have hcalls : callsOf pairSetup (ascii "web") (handled [] swappedCalls) =
      [⟨0, 5000, 0, 7⟩, ⟨1, 4999, 0, 7⟩] := rfl
  have hcalls' : callsOf pairSetup (ascii "db") (handled [] swappedCalls) =
      [⟨0, 6000, 0, 8⟩, ⟨1, 5000006000, 0, 8⟩] := rfl
  rw [hcalls] at hread
  rw [hcalls'] at hread'
  obtain ⟨payload, hpayload, hof⟩ := hread'.read_of_clockFits (by
    rintro first ⟨⟩
    refine ⟨by decide, fun call hcall => ?_⟩
    rcases List.mem_cons.1 hcall with rfl | hcall
    · exact ⟨by decide, by decide⟩
    · obtain rfl := List.mem_singleton.1 hcall
      exact ⟨by decide, by decide⟩)
  refine ⟨⟨body, hbody, hread.rejected_of_not_clockFits fun hfits => ?_⟩,
    body', payload, hbody', hpayload, hof⟩
  have hlate := ((hfits _ rfl).2 ⟨1, 4999, 0, 7⟩ (by simp)).1
  exact absurd hlate (by decide)

end DeepKernel.System
