import DeepKernel.Agent.DumpRecords
import DeepKernel.Ml.TrainFromDump
import DeepKernel.System.SyscallFeatures

/-!
# From the tracepoint to the trained model

A dump is requested while syscalls go through the ring buffer, and `train_from_dump.py` is started
on the file of the dump once a late syscall has closed it. The file holds the syscalls of the
container that the agent handled between the request and the end of the dump, and the tool posts one
vector for each time slot with enough of them (`captured_training`).

A training vector and the vector that the server scores for the same syscalls agree in the
transitions, the entropy and the buckets (`TrainingFeatures.getElem?_eq`). They differ in the two
class ratios, and in the timing, where the tool takes the last gap for the duration.
-/

set_option autoImplicit false

namespace DeepKernel.System

open DeepKernel.Lib DeepKernel.Agent DeepKernel.Kernel DeepKernel.Features

/-! ## The dumped syscalls -/

theorem agentOps_append (waiting : List SysEnter) (pre post : List CaptureStep) :
    agentOps waiting (pre ++ post) = agentOps waiting pre ++ agentOps (left waiting pre) post := by
  induction pre generalizing waiting with
  | nil => rfl
  | cons step pre ih =>
      cases step with
      | sysEnter ctx reserved => exact ih _
      | consume containerName net =>
          cases waiting with
          | nil => exact ih []
          | cons ctx waiting => exact congrArg _ (ih waiting)
      | request containerId durationSec env => exact congrArg _ (ih waiting)

/-- The agent after a run. -/
theorem agent_captureAfter (cfg : Setup) (files : FileSystem) (steps : List CaptureStep) :
    (captureAfter cfg (.init files) steps).agent =
      after cfg (.init files) (agentOps [] steps) :=
  congrArg Capture.agent (capture_eq cfg (AgentState.init files) [] steps).1

/-- A handled syscall is late for a dump. The ones of other containers end the dump as well. -/
def endsDump (cfg : Setup) (endTsNs : UInt64) (h : SysEnter × ByteString) : Bool :=
  passesFilter cfg (mapContainerId h.2 (eventOf h.1).cgroupId) &&
    decide (endTsNs ≤ h.1.ktimeNs)

/-- The syscalls of a container in front of the first late one. -/
def dumpedCalls (cfg : Setup) (c : ByteString) (endTsNs : UInt64)
    (hs : List (SysEnter × ByteString)) : List SysEnter :=
  callsOf cfg c (hs.takeWhile fun h => !endsDump cfg endTsNs h)

theorem closes_event (cfg : Setup) (endTsNs : UInt64) (ctx : SysEnter) (containerName : ByteString)
    (net : Net) :
    closes cfg endTsNs (.event (handleSysEnter ctx) containerName net) =
      endsDump cfg endTsNs (ctx, containerName) := by
  simp only [closes, accepted, endsDump, eventOf]
  cases passesFilter cfg (mapContainerId containerName
      (mapEvent (handleSysEnter ctx)).cgroupId) with
  | false => rfl
  | true => rfl

theorem acceptedOf_openPart (cfg : Setup) (c : ByteString) (endTsNs : UInt64)
    (waiting : List SysEnter) (steps : List CaptureStep) :
    acceptedOf cfg c (openPart cfg endTsNs (agentOps waiting steps)) =
      (dumpedCalls cfg c endTsNs (handled waiting steps)).map eventOf := by
  rw [dumpedCalls, ← filterMap_eventFor]
  induction steps generalizing waiting with
  | nil => rfl
  | cons step steps ih =>
      cases step with
      | sysEnter ctx reserved => exact ih _
      | consume containerName net =>
          cases waiting with
          | nil => exact ih []
          | cons ctx waiting =>
              have hcloses := closes_event cfg endTsNs ctx containerName net
              rw [agentOps, handled, openPart]
              cases hends : endsDump cfg endTsNs (ctx, containerName) with
              | true =>
                  rw [List.takeWhile_cons_of_neg (by rw [hcloses, hends]; decide),
                    List.takeWhile_cons_of_neg (by rw [hends]; decide)]
                  rfl
              | false =>
                  rw [List.takeWhile_cons_of_pos (by rw [hcloses, hends]; rfl),
                    List.takeWhile_cons_of_pos (by rw [hends]; rfl), acceptedOf_cons,
                    acceptedFor_event]
                  have hrest := ih waiting
                  rw [openPart] at hrest
                  rw [hrest, List.filterMap_cons]
                  cases eventFor cfg c (ctx, containerName) with
                  | none => rfl
                  | some event => rfl
      | request containerId durationSec env =>
          rw [agentOps, handled, openPart, List.takeWhile_cons_of_pos rfl, acceptedOf_cons]
          exact ih waiting

/-! ## The records of a dump -/

/-- A syscall of a dump, with the gap before it and its time in the dump, as the file has them. -/
structure TimedCall where
  call : SysEnter
  gapUs : Nat
  clockUs : Nat

/-- The record that the tool reads. -/
def TimedCall.record (t : TimedCall) : Ml.TraceRecord where
  deltaTsUs := t.gapUs
  syscallId := (eventOf t.call).syscallId.toNat
  argClass := (eventOf t.call).argClass.toNat
  argBucket := (eventOf t.call).argBucket.toNat

/-- The gap before a syscall, in whole microseconds and 32 bits. -/
def gapUs (prevTsNs : UInt64) (call : SysEnter) : Nat :=
  (call.ktimeNs - prevTsNs).toNat / 1000 % 2 ^ 32

/-- The syscalls of a dump with their times. -/
def timedCalls : UInt64 → Nat → List SysEnter → List TimedCall
  | _, _, [] => []
  | prevTsNs, clockUs, call :: calls =>
      ⟨call, gapUs prevTsNs call, clockUs + gapUs prevTsNs call⟩ ::
        timedCalls call.ktimeNs (clockUs + gapUs prevTsNs call) calls

theorem records_timedCalls (prevTsNs : UInt64) (clockUs : Nat) (calls : List SysEnter) :
    (expectedRecords prevTsNs (calls.map eventOf)).map Ml.TraceRecord.ofAgent =
      (timedCalls prevTsNs clockUs calls).map TimedCall.record := by
  induction calls generalizing prevTsNs clockUs with
  | nil => rfl
  | cons call calls ih =>
      have hgap : (UInt32.ofNat (((((eventOf call).tsNs.toNat : Int) - prevTsNs.toNat) %
          2 ^ 64).toNat / 1000)).toNat = gapUs prevTsNs call := by
        rw [← toNat_sub_eq_emod, Int.toNat_natCast, UInt32.toNat_ofNat']
        rfl
      rw [List.map_cons, expectedRecords, List.map_cons, timedCalls, List.map_cons]
      exact congrArg₂ _ (by rw [Ml.TraceRecord.ofAgent, hgap, TimedCall.record])
        (ih call.ktimeNs (clockUs + gapUs prevTsNs call))

/-- The tool puts the records into slots by their times. -/
theorem stamp_timedCalls (slotUs : Int) (prevTsNs : UInt64) (clockUs : Nat)
    (calls : List SysEnter) :
    Ml.stamp slotUs clockUs ((timedCalls prevTsNs clockUs calls).map TimedCall.record) =
      (timedCalls prevTsNs clockUs calls).map fun t => (t.record, (t.clockUs : Int) / slotUs) := by
  induction calls generalizing prevTsNs clockUs with
  | nil => rfl
  | cons call calls ih =>
      have hrest := ih call.ktimeNs (clockUs + gapUs prevTsNs call)
      rw [Nat.cast_add] at hrest
      rw [timedCalls, List.map_cons, List.map_cons, Ml.stamp]
      exact congrArg _ hrest

/-- The time slots with enough syscalls. -/
def slotsOf (args : Ml.TrainArgs) (startTsNs : UInt64) (calls : List SysEnter) :
    List (List TimedCall) :=
  (runsBy (fun t => (t.clockUs : Int) / (args.windowSec * 1000000))
    (timedCalls startTsNs 0 calls)).filter fun slot => decide (args.minRecords ≤ slot.length)

/-- The windows that the tool takes from a dump are the slots. -/
theorem trainingWindows_encodeDump (args : Ml.TrainArgs) (h : TraceHeader) (startTsNs : UInt64)
    (calls : List SysEnter) :
    Ml.trainingWindows args (encodeDump h (expectedRecords startTsNs (calls.map eventOf))) =
      (slotsOf args startTsNs calls).map (List.map TimedCall.record) := by
  have hrecords : Ml.readRecords
      ((encodeDump h (expectedRecords startTsNs (calls.map eventOf))).drop Ml.headerSize) =
        (timedCalls startTsNs 0 calls).map TimedCall.record := by
    rw [encodeDump, Ml.headerSize, List.drop_left' h.length_encode, Ml.readRecords_encode,
      records_timedCalls startTsNs 0]
  have hstamp := stamp_timedCalls (args.windowSec * 1000000) startTsNs 0 calls
  rw [Nat.cast_zero] at hstamp
  have hslot : (fun g => List.map Prod.fst g) ∘ List.map (fun t : TimedCall =>
      (t.record, (t.clockUs : Int) / (args.windowSec * 1000000))) = List.map TimedCall.record :=
    funext fun g => List.map_map
  rw [Ml.trainingWindows, hrecords, Ml.slotRuns, hstamp, runsBy_map, List.map_map, hslot,
    List.filter_map, slotsOf]
  refine congrArg _ (List.filter_congr fun slot _ => ?_)
  rw [Function.comp_apply, List.length_map]

theorem ne_nil_of_mem_slotsOf {args : Ml.TrainArgs} {startTsNs : UInt64} {calls : List SysEnter}
    {slot : List TimedCall} (h : slot ∈ slotsOf args startTsNs calls) : slot ≠ [] :=
  List.ne_nil_of_mem_splitBy (List.mem_filter.1 h).1

/-! ## The vector of a slot -/

section Features

variable {R : Type} [Field R] [LinearOrder R]

/-- The training vector of a slot: the transitions, the entropy and the buckets of its syscalls, the
fractions of the classes `FILE` and `NET`, and the last gap for the duration. -/
structure TrainingFeatures (log : R → R) (slot : List TimedCall) (vec : List R) : Prop where
  length_eq : vec.length = 594
  cell_eq : ∀ i j : Fin 24, vec[24 * i.val + j.val]? =
    some (((pairsOf (slot.map (·.call))).count (i, j) : R) /
      (((pairsOf (slot.map (·.call))).map Prod.fst).count i : R))
  distinct_eq : vec[576]? = some ((pairsOf (slot.map (·.call))).dedup.length : R)
  entropy_eq : vec[577]? = some (Ml.entropyOf log
    (((rowMajor 24 24).filter fun cell => decide (cell ∈ pairsOf (slot.map (·.call)))).map
      fun cell => ((pairsOf (slot.map (·.call))).count cell : R) /
        ((max (slot.length - 1) 1 : Nat) : R)))
  file_eq : vec[578]? =
    some ((classCount argClassFile (slot.map (·.call)) : R) / (slot.length : R))
  net_eq : vec[579]? =
    some ((classCount argClassNet (slot.map (·.call)) : R) / (slot.length : R))
  duration_eq : ∀ last ∈ slot.getLast?, vec[580]? = some ((last.gapUs : R) / 10 ^ 6)
  mean_eq : ∀ last ∈ slot.getLast?,
    vec[581]? = some ((last.gapUs : R) / 10 ^ 6 / (slot.length : R))
  bucket_eq : ∀ b : Fin 12, vec[582 + b.val]? =
    some ((bucketCount (slot.map (·.call)) b : R) / (slot.length : R))

omit [LinearOrder R] in
/-- Outside of the class ratios and the timing, training and scoring see the same in some
syscalls. -/
theorem TrainingFeatures.getElem?_eq {log : R → R} {slot : List TimedCall} {vec scored : List R}
    (h : TrainingFeatures log slot vec) (h' : CallFeatures log (slot.map (·.call)) scored) {i : Nat}
    (hi : i < 578 ∨ 582 ≤ i) : vec[i]? = scored[i]? := by
  by_cases hcell : i < 576
  · have hsplit : i = 24 * (i / 24) + i % 24 := by omega
    have hcells := (h.cell_eq ⟨i / 24, by omega⟩ ⟨i % 24, by omega⟩).trans
      (h'.cell_eq ⟨i / 24, by omega⟩ ⟨i % 24, by omega⟩).symm
    rwa [← hsplit] at hcells
  by_cases hstatistics : i < 582
  · obtain rfl | rfl : i = 576 ∨ i = 577 := by omega
    · rw [h.distinct_eq, h'.distinct_eq]
    · rw [h.entropy_eq, h'.entropy_eq, List.length_map]
      rfl
  by_cases hbucket : i < 594
  · have hsplit : i = 582 + (i - 582) := by omega
    have hbuckets := (h.bucket_eq ⟨i - 582, by omega⟩).trans
      ((h'.bucket_eq ⟨i - 582, by omega⟩).trans (by rw [List.length_map])).symm
    rwa [← hsplit] at hbuckets
  · have hlength := h.length_eq
    have hlength' := h'.length_eq
    rw [List.getElem?_eq_none (by omega), List.getElem?_eq_none (by omega)]

end Features

section Vector

variable {R : Type} [Field R] [LinearOrder R] [IsStrictOrderedRing R]

/-- The syscalls at the time zero, for what does not depend on the clock. -/
def atRest (calls : List SysEnter) : List SysEnter :=
  calls.map fun call => { call with ktimeNs := 0 }

theorem clockFits_atRest (calls : List SysEnter) : ClockFits (atRest calls) := by
  have hzero : ∀ call ∈ atRest calls, call.ktimeNs.toNat = 0 := by
    intro call hcall
    obtain ⟨_, -, rfl⟩ := List.mem_map.1 hcall
    rfl
  intro first hfirst
  rw [hzero first (List.mem_of_mem_head? hfirst)]
  refine ⟨by omega, fun call hcall => ?_⟩
  rw [hzero call hcall]
  omega

theorem pairsOf_atRest (calls : List SysEnter) : pairsOf (atRest calls) = pairsOf calls := by
  rw [pairsOf, atRest, List.map_map, pairsOf]
  rfl

theorem bucketCount_atRest (calls : List SysEnter) (b : Fin 12) :
    bucketCount (atRest calls) b = bucketCount calls b := by
  have hclass : ∀ argClass, classCount argClass (atRest calls) = classCount argClass calls := by
    intro argClass
    rw [classCount, atRest, List.countP_map, classCount]
    rfl
  simp only [bucketCount, hclass]

theorem noDelta_lt : 0 < 2 ^ 31 := by decide

/-- The syscalls of a slot as records without deltas. -/
def tracedOf (slot : List TimedCall) : List TracedSyscall :=
  slot.map fun t => ⟨t.call, 0, noDelta_lt⟩

theorem undated_tracedOf (slot : List TimedCall) :
    (slot.map TimedCall.record).map Ml.TraceRecord.undated =
      ((tracedOf slot).map TracedSyscall.record).map WireRecord.toMl := by
  simp only [tracedOf, List.map_map]
  rfl

/-- The same records as the server reads them for the syscalls at rest. -/
theorem payloadOf_tracedOf (slot : List TimedCall) :
    payloadOf 1 "" "" 0 ((tracedOf slot).map TracedSyscall.record) =
      ⟨1, "", "", Int64.ofNat (0 : UInt64).toNat,
        some ((atRest (slot.map (·.call))).map (recordOf 0))⟩ := by
  have hdelta : nsToUs (0 - 0) = 0 := by decide
  have hrecord : WireRecord.toServer ∘ TracedSyscall.record ∘
      (fun t : TimedCall => (⟨t.call, 0, by decide⟩ : TracedSyscall)) =
        recordOf 0 ∘ (fun call : SysEnter => { call with ktimeNs := 0 }) ∘ TimedCall.call := by
    funext t
    simp only [Function.comp_apply, recordOf, windowRecord, eventOf, mapEvent, handleSysEnter,
      hdelta]
    rfl
  simp only [payloadOf, tracedOf, atRest, List.map_map]
  rw [hrecord]
  rfl

theorem countClass_tracedOf (argClass : UInt8) (slot : List TimedCall) :
    countClass argClass (tracedOf slot) = classCount argClass (slot.map (·.call)) := by
  rw [countClass, tracedOf, List.countP_map, classCount, List.countP_map]
  rfl

/-- The vector that the tool makes of a slot. -/
theorem trainingFeatures_extractFeatures (log : R → R) {slot : List TimedCall} (hne : slot ≠ []) :
    TrainingFeatures log slot (Ml.extractFeatures log (slot.map TimedCall.record) 0) := by
  have hrecords : slot.map TimedCall.record ≠ [] := by simpa using hne
  have htraced : tracedOf slot ≠ [] := by simpa [tracedOf] using hne
  have hwire : (tracedOf slot).map TracedSyscall.record ≠ [] := by simpa using htraced
  have hpos : 0 < (slot.map TimedCall.record).length := List.length_pos_of_ne_nil hrecords
  obtain ⟨first, hfirst⟩ : ∃ first, (atRest (slot.map (·.call))).head? = some first :=
    Option.isSome_iff_exists.1 (by simpa [atRest] using hne)
  have hzero : first.ktimeNs = 0 := by
    obtain ⟨_, -, rfl⟩ := List.mem_map.1 (List.mem_of_mem_head? hfirst)
    rfl
  -- the two extractors on the records without deltas
  have hagree := fun i hi => getElem?_extractors log 1 "" "" 0 0 hwire (i := i) hi
  have hcall := callFeatures_extract log hfirst (clockFits_atRest _) "" ""
  obtain ⟨hfile, hnet⟩ := ml_ratios log 0 htraced
  rw [payloadOf_tracedOf, ← undated_tracedOf] at hagree
  rw [hzero] at hcall
  rw [← undated_tracedOf] at hfile hnet
  have hvec := fun i hi => Ml.getElem?_extractFeatures_undated log hrecords 0 (i := i) hi
  have hcalls : (atRest (slot.map (·.call))).length = slot.length := by simp [atRest]
  -- the timing is that of the last record
  obtain ⟨-, -, hduration, hmean⟩ := Ml.vector_ratios
    (Ml.scanWindow 0 (slot.map TimedCall.record) : Ml.Scan R) log 0 hpos
  have hlast : ∀ last ∈ slot.getLast?,
      (Ml.scanWindow 0 (slot.map TimedCall.record) : Ml.Scan R).lastTs = last.gapUs := by
    intro last hlast
    have hrecord : (slot.map TimedCall.record).getLast? = some last.record := by
      rw [List.getLast?_map, hlast, Option.map_some]
    rw [Ml.scanWindow_lastTs 0 _ hrecord, zero_add]
    rfl
  rw [← Ml.extractFeatures_of_ne_nil log hrecords] at hduration hmean
  rw [List.length_map] at hmean
  refine ⟨Ml.length_extractFeatures log _ 0, fun i j => ?_, ?_, ?_, ?_, ?_, fun last h => ?_,
    fun last h => ?_, fun b => ?_⟩
  · rw [← hvec _ (by omega), ← hagree _ (by omega), hcall.cell_eq, pairsOf_atRest]
  · rw [← hvec _ (by omega), ← hagree _ (by omega), hcall.distinct_eq, pairsOf_atRest]
  · rw [← hvec _ (by omega), ← hagree _ (by omega), hcall.entropy_eq, pairsOf_atRest, hcalls]
    rfl
  · rw [← hvec _ (by omega), hfile, countClass_tracedOf, tracedOf, List.length_map]
  · rw [← hvec _ (by omega), hnet, countClass_tracedOf, tracedOf, List.length_map]
  · rw [hduration, hlast last h]
    push_cast
    rw [sub_zero]
  · rw [hmean, hlast last h]
    push_cast
    rw [sub_zero]
  · rw [← hvec _ (by omega), ← hagree _ (by omega), hcall.bucket_eq,
      bucketCount_atRest, hcalls]

omit [IsStrictOrderedRing R]

/-- The vectors of the slots. -/
def vectorsOf (log : R → R) (args : Ml.TrainArgs) (startTsNs : UInt64) (calls : List SysEnter) :
    List (List R) :=
  (slotsOf args startTsNs calls).map fun slot =>
    Ml.extractFeatures log (slot.map TimedCall.record) 0

theorem trainingRequest_encodeDump (log : R → R) (args : Ml.TrainArgs) (h : TraceHeader)
    (startTsNs : UInt64) (calls : List SysEnter) :
    Ml.trainingRequest log args (encodeDump h (expectedRecords startTsNs (calls.map eventOf))) =
      ⟨args.containerId, vectorsOf log args startTsNs calls, args.reason, 20⟩ := by
  rw [Ml.trainingRequest, trainingWindows_encodeDump, List.map_map, vectorsOf]
  rfl

end Vector

/-! ## Runs -/

section Run

variable (cfg : Setup) (files : FileSystem) (pre post : List CaptureStep) (c : ByteString)
  (d : Int32) (env : DumpEnv)

/-- The agent after a request for a dump. -/
def agentAtRequest : AgentState :=
  (captureAfter cfg (.init files) (pre ++ [.request c d env])).agent

/-- The syscalls that a dump should hold. -/
def requestedCalls : List SysEnter :=
  dumpedCalls cfg c ((agentAtRequest cfg files pre c d env).buffer c).longDumpEndTsNs
    (handled (left [] pre) post)

/-- A dump that is opened, not disturbed and over: no other request opens its file, there is no
second request for the container before its end, the clock is past zero, and a late syscall is
handled. Only then is the stream closed, so that all bytes are in the file. -/
structure DumpUndisturbed : Prop where
  opens : requestOpens cfg (captureAfter cfg (.init files) pre).agent c env = true
  unopened_before : neverOpens cfg (dumpFilePath cfg c env.timestamp) (.init files)
    (agentOps [] pre) = true
  unopened_after : neverOpens cfg (dumpFilePath cfg c env.timestamp)
    (agentAtRequest cfg files pre c d env) (agentOps (left [] pre) post) = true
  unrepeated : ∀ op ∈ openPart cfg
    ((agentAtRequest cfg files pre c d env).buffer c).longDumpEndTsNs (agentOps (left [] pre) post),
    requests c op = false
  clock_pos : ∀ call ∈ requestedCalls cfg files pre post c d env, call.ktimeNs ≠ 0
  ended : ∃ h ∈ handled (left [] pre) post,
    endsDump cfg ((agentAtRequest cfg files pre c d env).buffer c).longDumpEndTsNs h = true

variable {cfg files pre post c d env}

/-- The request starts a recording without records. -/
theorem recording_agentAtRequest (h : DumpUndisturbed cfg files pre post c d env) :
    ∃ plan : DumpPlan, plan.path = dumpFilePath cfg c env.timestamp ∧
      Recording c plan (dumpHeader cfg c plan.startTsNs) [] (agentAtRequest cfg files pre c d env) ∧
      ((agentAtRequest cfg files pre c d env).dump c).prevTsNs = plan.startTsNs := by
  have hrequest : agentAtRequest cfg files pre c d env =
      (Agent.step cfg (after cfg (.init files) (agentOps [] pre)) (.request c d env)).1 := by
    rw [agentAtRequest, agent_captureAfter, agentOps_append, ← after_concat]
    rfl
  have hopens := h.opens
  rw [agent_captureAfter] at hopens
  obtain ⟨hsynced, hfree⟩ := unopened_run (synced_init files)
    (fun _ => Option.some_ne_none _ ∘ Eq.symm) h.unopened_before
  rw [hrequest]
  exact ⟨_, rfl, recording_request hsynced d hopens fun k _ => hfree k⟩

theorem captureAfter_request (cfg : Setup) (files : FileSystem) (pre post : List CaptureStep)
    (c : ByteString) (d : Int32) (env : DumpEnv) :
    (captureAfter cfg (.init files) (pre ++ .request c d env :: post)).agent =
      after cfg (agentAtRequest cfg files pre c d env) (agentOps (left [] pre) post) := by
  rw [agentAtRequest, agent_captureAfter, agent_captureAfter, agentOps_append, agentOps_append,
    after_append, after_append]
  rfl

/-- The file of the dump at the end of the run. -/
theorem file_captureAfter (h : DumpUndisturbed cfg files pre post c d env) :
    (captureAfter cfg (.init files) (pre ++ .request c d env :: post)).agent.files.find?
        (dumpFilePath cfg c env.timestamp) =
      some (encodeDump
        (dumpHeader cfg c ((agentAtRequest cfg files pre c d env).buffer c).longDumpStartTsNs)
        (expectedRecords ((agentAtRequest cfg files pre c d env).buffer c).longDumpStartTsNs
          ((requestedCalls cfg files pre post c d env).map eventOf))) := by
  obtain ⟨plan, hpath, hrec, hprev⟩ := recording_agentAtRequest h
  rw [← hpath]
  have houtcome := dumpOutcome_of_recording hrec hprev (hpath ▸ h.unopened_after) h.unrepeated (by
    rw [acceptedOf_openPart]
    intro ev hev
    obtain ⟨call, hcall, rfl⟩ := List.mem_map.1 hev
    exact h.clock_pos call hcall)
  have hfile := houtcome.file
  rw [acceptedOf_openPart] at hfile
  rw [captureAfter_request, requestedCalls]
  exact hfile

/-- A late syscall is an event that ends the dump. -/
theorem closes_of_endsDump {endTsNs : UInt64} {waiting : List SysEnter}
    {steps : List CaptureStep}
    (h : ∃ entry ∈ handled waiting steps, endsDump cfg endTsNs entry = true) :
    ∃ op ∈ agentOps waiting steps, closes cfg endTsNs op = true := by
  induction steps generalizing waiting with
  | nil =>
      obtain ⟨_, hmem, -⟩ := h
      cases hmem
  | cons step steps ih =>
      cases step with
      | sysEnter ctx reserved => exact ih h
      | consume containerName net =>
          cases waiting with
          | nil => exact ih h
          | cons ctx waiting =>
              obtain ⟨entry, hmem, hends⟩ := h
              rcases List.mem_cons.1 hmem with rfl | hmem
              · refine ⟨_, List.mem_cons_self, ?_⟩
                rw [closes_event]
                exact hends
              · obtain ⟨op, hop, hcloses⟩ := ih ⟨entry, hmem, hends⟩
                exact ⟨op, List.mem_cons_of_mem _ hop, hcloses⟩
      | request containerId durationSec env =>
          obtain ⟨op, hop, hcloses⟩ := ih h
          exact ⟨op, List.mem_cons_of_mem _ hop, hcloses⟩

/-- At the end of the run the file of the dump is closed. -/
theorem closed_captureAfter (h : DumpUndisturbed cfg files pre post c d env) (k : ByteString) :
    ((captureAfter cfg (.init files) (pre ++ .request c d env :: post)).agent.dump k).stream.file ≠
      some (dumpFilePath cfg c env.timestamp) := by
  obtain ⟨plan, hpath, hrec, -⟩ := recording_agentAtRequest h
  have hunrepeated := h.unrepeated
  have hended := closes_of_endsDump h.ended
  have hend : ((agentAtRequest cfg files pre c d env).buffer c).longDumpEndTsNs = plan.endTsNs :=
    hrec.endTsNs
  rw [hend] at hunrepeated hended
  rw [captureAfter_request, ← hpath]
  exact hrec.unopened_of_closes (hpath ▸ h.unopened_after) hunrepeated hended k

end Run

section Training

variable {R F τ : Type} [Field R] [LinearOrder R] [IsStrictOrderedRing R] (log : R → R)
  (decode : ByteString → τ)

/-- What the tool does with a dump of some syscalls, and the ML service with its request. -/
structure Trains (args : Ml.TrainArgs) (healthy : Bool) (file : ByteString) (startTsNs : UInt64)
    (calls : List SysEnter) (vectors : List (List R)) : Prop where
  features : List.Forall₂ (TrainingFeatures log) (slotsOf args startTsNs calls) vectors
  posted_iff : ∀ request, (∃ fuel, Ml.trainFromDump log decode args healthy file fuel =
      some (.posted request)) ↔
    (1 ≤ args.windowSec ∧ args.dryRun = false ∧ healthy = true ∧ 10 ≤ vectors.length) ∧
      request = ⟨args.containerId, vectors, args.reason, 20⟩
  trained : 10 ≤ vectors.length →
    ∀ (sk : Ml.Sklearn (List R) F R) (anomalyThreshold : R) (failures : Ml.Failures F R)
      (s : Ml.Service F R) (now : Int),
      (s.handle sk anomalyThreshold 594 failures
          (.trainModel args.containerId vectors now)).1.registry =
        (s.registry.trainModel sk args.containerId vectors now).1

theorem trains_encodeDump (args : Ml.TrainArgs) (healthy : Bool) (header : TraceHeader)
    (startTsNs : UInt64) (calls : List SysEnter) :
    Trains (F := F) log decode args healthy
      (encodeDump header (expectedRecords startTsNs (calls.map eventOf))) startTsNs calls
      (vectorsOf log args startTsNs calls) := by
  have hwindows := trainingWindows_encodeDump args header startTsNs calls
  have hrequest := trainingRequest_encodeDump log args header startTsNs calls
  have hlength : (Ml.trainingWindows args
      (encodeDump header (expectedRecords startTsNs (calls.map eventOf)))).length =
        (vectorsOf log args startTsNs calls).length := by
    rw [hwindows, List.length_map, vectorsOf, List.length_map]
  refine ⟨?_, fun request => ?_, fun hten sk anomalyThreshold failures s now => ?_⟩
  · rw [vectorsOf, List.forall₂_map_right_iff, List.forall₂_same]
    exact fun slot hslot => trainingFeatures_extractFeatures log (ne_nil_of_mem_slotsOf hslot)
  · have hheader : Ml.headerSize ≤
        (encodeDump header (expectedRecords startTsNs (calls.map eventOf))).length := by
      rw [length_encodeDump]
      exact Nat.le_add_right _ _
    rw [Ml.trainFromDump_posted_iff, hrequest, hlength]
    simp only [hheader, true_and]
  · have hvalid := Ml.validateTrainingData_trainingRequest log (hlength ▸ hten)
    rw [hrequest] at hvalid
    rw [Ml.handle_fst, Ml.forward, if_pos hvalid]
    rfl

/-- The file of an undisturbed dump is closed, and given to the tool it makes it post one vector for
each time slot with enough of the dumped syscalls; the ML service trains the model with these
vectors. -/
theorem captured_training {cfg : Setup} {files : FileSystem} {pre post : List CaptureStep}
    {c : ByteString} {d : Int32} {env : DumpEnv}
    (h : DumpUndisturbed cfg files pre post c d env) (args : Ml.TrainArgs) (healthy : Bool) :
    (∀ k, ((captureAfter cfg (.init files)
        (pre ++ .request c d env :: post)).agent.dump k).stream.file ≠
          some (dumpFilePath cfg c env.timestamp)) ∧
      ∃ file vectors,
        (captureAfter cfg (.init files) (pre ++ .request c d env :: post)).agent.files.find?
            (dumpFilePath cfg c env.timestamp) = some file ∧
          Trains (F := F) log decode args healthy file
            ((agentAtRequest cfg files pre c d env).buffer c).longDumpStartTsNs
            (requestedCalls cfg files pre post c d env) vectors :=
  ⟨closed_captureAfter h, _, _, file_captureAfter h,
    trains_encodeDump log decode args healthy _ _ _⟩

end Training

/-- A syscall of the container in every second, handled at once. -/
def secondCalls : List CaptureStep :=
  (List.range 12).flatMap fun i =>
    [.sysEnter ⟨0, UInt64.ofNat (1 + (i + 1) * 10 ^ 9), 0, 7⟩ true,
      .consume (ascii "web") fun _ _ _ => true]

/-- A request at the time one. -/
def requestEnvAt1 : DumpEnv := ⟨ascii "20250101-000000", true, 1⟩

/-- Eleven seconds of a dump become eleven vectors; the syscall of the twelfth second ends it. -/
theorem captured_training_secondCalls :
    (∀ k, ((captureAfter defaultSetup (.init Table.empty)
        ([] ++ .request (ascii "web") 12 requestEnvAt1 :: secondCalls)).agent.dump k).stream.file ≠
          some (dumpFilePath defaultSetup (ascii "web") (ascii "20250101-000000"))) ∧
      ∃ file vectors,
        (captureAfter defaultSetup (.init Table.empty)
            ([] ++ .request (ascii "web") 12 requestEnvAt1 :: secondCalls)).agent.files.find?
            (dumpFilePath defaultSetup (ascii "web") (ascii "20250101-000000")) = some file ∧
          vectors.length = 11 ∧
          ∃ fuel, Ml.trainFromDump (fun x : ℚ => x) (fun _ => ())
            { containerId := "web", windowSec := 1, minRecords := 1 } true file fuel =
              some (.posted ⟨"web", vectors, "baseline_training", 20⟩) := by
  have hundisturbed : DumpUndisturbed defaultSetup Table.empty [] secondCalls (ascii "web") 12
      requestEnvAt1 :=
    ⟨by decide +kernel, by decide +kernel, by decide +kernel,
      List.all_iff_forall_prop.mp (by decide +kernel),
      List.forall_iff_forall_mem.1 (by decide +kernel),
      List.any_eq_true.1 (by decide +kernel)⟩
  obtain ⟨hclosed, file, vectors, hfile, htrains⟩ := captured_training (F := Unit)
    (fun x : ℚ => x) (fun _ => ()) hundisturbed
    { containerId := "web", windowSec := 1, minRecords := 1 } true
  have hslots : (slotsOf { containerId := "web", windowSec := 1, minRecords := 1 }
      ((agentAtRequest defaultSetup Table.empty [] (ascii "web") 12 requestEnvAt1).buffer
        (ascii "web")).longDumpStartTsNs
      (requestedCalls defaultSetup Table.empty [] secondCalls (ascii "web") 12
        requestEnvAt1)).length = 11 := by decide +kernel
  have hlength : vectors.length = 11 := by rw [← htrains.features.length_eq, hslots]
  exact ⟨hclosed, file, vectors, hfile, hlength,
    (htrains.posted_iff _).2 ⟨⟨by decide, rfl, rfl, by omega⟩, rfl⟩⟩

end DeepKernel.System
