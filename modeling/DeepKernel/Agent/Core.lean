import DeepKernel.Agent.Serialization
import DeepKernel.Lib.Execution

/-!
# The agent

The state and the methods of `Agent` in `agent.cpp`. A run is a list of `Op`: the calls of
`handleEvent` and `requestLongDump` in the order in which they happen, each with what the
environment answers during the call (the name the container mapper finds, the outcome of every HTTP
attempt, the local time, whether a file can be opened).

What leaves the agent is a list of `Post`. A post keeps the arguments of `buildWindowJson` or
`buildDumpCompleteJson`; `Payload.body` is the text. What the agent prints is left out.
-/

set_option autoImplicit false

namespace DeepKernel.Agent

open DeepKernel.Lib

/-! ## Configuration -/

/-- The settings of `AgentConfig` that the methods below read, with their defaults. -/
structure AgentConfig where
  agentId : ByteString := ascii "node-1"
  serverUrl : ByteString := ascii "http://localhost:9090"
  shortWindowSec : Int32 := 5
  minEventsPerWindow : Int32 := 20
  dumpDir : ByteString := ascii "/var/lib/deepkernel/dumps"
  syscallVocabSize : Int32 := 256
  containerFilterRegex : ByteString := []

/-- A configured agent. `regexSearch pattern text` is `std::regex_search`, with `none` for the
`std::regex_error` of an invalid pattern. -/
structure Setup extends AgentConfig where
  regexSearch : ByteString → ByteString → Option Bool := fun _ _ => none

/-! ## Outgoing requests -/

/-- The arguments of the two JSON builders. -/
inductive Payload
  | window (agentId containerId : ByteString) (windowStartTsNs : UInt64)
      (events : List SyscallEvent)
  | dumpComplete (agentId containerId dumpPath : ByteString) (startTsNs : UInt64)
      (durationSec : Int32) (recordCount : Nat)
  deriving DecidableEq

/-- The request body. -/
def Payload.body : Payload → ByteString
  | .window agentId containerId start events => buildWindowJson agentId containerId start events
  | .dumpComplete agentId containerId path start duration count =>
      buildDumpCompleteJson agentId containerId path start duration count

/-- Outcomes of `postJson`: for a URL and a body, whether the attempt with the given number ends
with `CURLE_OK`. -/
abbrev Net := ByteString → ByteString → Nat → Bool

/-- A call of `postJsonWithRetry`: the request, the number of attempts made and the result. -/
structure Post where
  url : ByteString
  payload : Payload
  attempts : Nat
  ok : Bool
  deriving DecidableEq

/-- The loop of `postJsonWithRetry` with `left` attempts left and `made` attempts made: the result
and the number of attempts. -/
def retryLoop (postJson : Nat → Bool) : Nat → Nat → Bool × Nat
  | 0, made => (false, made)
  | left + 1, made => if postJson made then (true, made + 1) else retryLoop postJson left (made + 1)

/-- The loop ends with the first attempt that succeeds, or after the last one. -/
theorem retryLoop_cases (postJson : Nat → Bool) (left made : Nat) :
    (∃ n, n < left ∧ postJson (made + n) = true ∧ (∀ m < n, postJson (made + m) = false) ∧
        retryLoop postJson left made = (true, made + n + 1)) ∨
      ((∀ m < left, postJson (made + m) = false) ∧
        retryLoop postJson left made = (false, made + left)) := by
  induction left generalizing made with
  | zero => exact Or.inr ⟨fun m hm => absurd hm (Nat.not_lt_zero m), rfl⟩
  | succ left ih =>
      cases hfirst : postJson made with
      | true =>
          refine Or.inl ⟨0, Nat.succ_pos left, hfirst, fun m hm => absurd hm (Nat.not_lt_zero m), ?_⟩
          rw [retryLoop, hfirst]
          rfl
      | false =>
          -- the attempts of the rest of the loop are counted from the next one
          have hshift : ∀ {k : Nat}, (∀ m < k, postJson (made + 1 + m) = false) →
              ∀ m < k + 1, postJson (made + m) = false := by
            intro k h m hm
            cases m with
            | zero => exact hfirst
            | succ m => rw [← h m (by omega), Nat.add_right_comm, Nat.add_assoc]
          rw [retryLoop, hfirst]
          rcases ih (made + 1) with ⟨n, hn, hok, hbefore, hloop⟩ | ⟨hall, hloop⟩
          · refine Or.inl ⟨n + 1, Nat.succ_lt_succ hn, ?_, hshift hbefore, ?_⟩
            · rw [← hok, Nat.add_right_comm, Nat.add_assoc]
            · rw [if_neg Bool.false_ne_true, hloop, Nat.add_right_comm made 1 n, Nat.add_assoc made]
          · refine Or.inr ⟨hshift hall, ?_⟩
            rw [if_neg Bool.false_ne_true, hloop, Nat.add_assoc, Nat.add_comm 1]

/-- `HttpClient::postJsonWithRetry`. -/
def postJsonWithRetry (net : Net) (url : ByteString) (payload : Payload) (maxRetries : Nat) :
    Post where
  url := url
  payload := payload
  attempts := (retryLoop (net url payload.body) maxRetries 0).2
  ok := (retryLoop (net url payload.body) maxRetries 0).1

/-! ## State -/

/-- `ContainerBuffer`. The record counter is a natural number: it counts records of a file. -/
structure ContainerBuffer where
  containerId : ByteString := []
  windowStartTsNs : UInt64 := 0
  lastEventTsNs : UInt64 := 0
  currentShortWindow : List SyscallEvent := []
  isLongDumpActive : Bool := false
  longDumpStartTsNs : UInt64 := 0
  longDumpEndTsNs : UInt64 := 0
  lastDumpTsNs : UInt64 := 0
  longDumpStream : OfStream := {}
  longDumpFilePath : ByteString := []
  longDumpRecordCount : Nat := 0
  longDumpDurationSec : Int32 := 0

/-- The members of `Agent` that change, and the files of the host. -/
structure AgentState where
  buffers : Table ByteString ContainerBuffer
  lastBufferCleanupNs : UInt64
  files : FileSystem

/-- A started agent with the files that are already there. -/
def AgentState.init (files : FileSystem) : AgentState where
  buffers := Table.empty
  lastBufferCleanupNs := 0
  files := files

/-- `buffers_[containerId]`. -/
def AgentState.buffer (a : AgentState) (containerId : ByteString) : ContainerBuffer :=
  (a.buffers.find? containerId).getD {}

/-! ## Methods -/

section Methods

variable (cfg : Setup) (net : Net)

/-- `notifyDumpComplete`: the request. -/
def dumpCompletePost (buffer : ContainerBuffer) : Post :=
  postJsonWithRetry net (cfg.serverUrl ++ ascii "/api/v1/agent/long-dump-complete")
    (.dumpComplete cfg.agentId buffer.containerId buffer.longDumpFilePath buffer.longDumpStartTsNs
      buffer.longDumpDurationSec buffer.longDumpRecordCount) 3

/-- `notifyDumpComplete`: the reset of the dump state after it. -/
def resetDump (buffer : ContainerBuffer) : ContainerBuffer :=
  { buffer with longDumpFilePath := [], longDumpRecordCount := 0, longDumpDurationSec := 0 }

/-- Close the stream, mark the dump as ended and reset it: what both ways of ending a dump do. -/
def finishDump (buffer : ContainerBuffer) : ContainerBuffer :=
  resetDump
    { buffer with longDumpStream := buffer.longDumpStream.close, isLongDumpActive := false }

/-- `appendLongDump`. -/
def appendLongDump (files : FileSystem) (buffer : ContainerBuffer) (evt : SyscallEvent) :
    FileSystem × ContainerBuffer × List Post :=
  if buffer.isLongDumpActive && buffer.longDumpStream.isOpen then
    if buffer.longDumpEndTsNs ≤ evt.tsNs then
      -- the event that ends the dump is not recorded
      (files, finishDump buffer, [dumpCompletePost cfg net buffer])
    else
      let prev := if buffer.lastDumpTsNs = 0 then buffer.longDumpStartTsNs else buffer.lastDumpTsNs
      let written := buffer.longDumpStream.write files (makeTraceRecord evt prev).encode
      (written.1,
        { buffer with
          longDumpStream := written.2
          lastDumpTsNs := evt.tsNs
          longDumpRecordCount := buffer.longDumpRecordCount + 1 }, [])
  else (files, buffer, [])

/-- `processShortWindow`. -/
def processShortWindow (buffer : ContainerBuffer) : ContainerBuffer × List Post :=
  if buffer.currentShortWindow.isEmpty then (buffer, [])
  else
    ({ buffer with currentShortWindow := [], windowStartTsNs := 0 },
      [postJsonWithRetry net (cfg.serverUrl ++ ascii "/api/v1/agent/windows")
        (.window cfg.agentId buffer.containerId buffer.windowStartTsNs buffer.currentShortWindow) 3])

/-- `mapContainerId`: the name the container mapper found, else a name made of the cgroup id. -/
def mapContainerId (containerName : ByteString) (cgroupId : UInt64) : ByteString :=
  if containerName ≠ [] then containerName else ascii "host-" ++ decimal cgroupId.toNat

/-- The container filter of `handleEvent`. An invalid pattern filters nothing out. -/
def passesFilter (containerId : ByteString) : Bool :=
  cfg.containerFilterRegex.isEmpty ||
    (cfg.regexSearch cfg.containerFilterRegex containerId).getD true

/-- The buffer of an event's container after the event has been stored in its window. -/
def pushEvent (buffer : ContainerBuffer) (containerId : ByteString) (evt : SyscallEvent) :
    ContainerBuffer :=
  { buffer with
    containerId := containerId
    windowStartTsNs :=
      if buffer.currentShortWindow.isEmpty then evt.tsNs else buffer.windowStartTsNs
    lastEventTsNs := evt.tsNs
    currentShortWindow := buffer.currentShortWindow ++ [evt] }

/-- The test of `handleEvent` for a complete window. The size is compared as an `int`. -/
def windowComplete (buffer : ContainerBuffer) (evt : SyscallEvent) : Bool :=
  cfg.shortWindowSec.toInt64.toUInt64 * 1000000000 ≤ evt.tsNs - buffer.windowStartTsNs &&
    cfg.minEventsPerWindow ≤ Int32.ofNat buffer.currentShortWindow.length

/-- The part of `handleEvent` that works on the buffer of the event's own container. -/
def handleOwn (files : FileSystem) (buffer : ContainerBuffer) (containerId : ByteString)
    (evt : SyscallEvent) : FileSystem × ContainerBuffer × List Post :=
  let appended := appendLongDump cfg net files (pushEvent buffer containerId evt) evt
  let cut :=
    if windowComplete cfg appended.2.1 evt then processShortWindow cfg net appended.2.1
    else (appended.2.1, [])
  (appended.1, cut.1, appended.2.2 ++ cut.2)

/-- The test of `stopExpiredLongDumps`. -/
def isExpired (nowNs : UInt64) (buffer : ContainerBuffer) : Bool :=
  buffer.isLongDumpActive && buffer.longDumpEndTsNs ≤ nowNs

/-- What the sweep of `stopExpiredLongDumps` does to a buffer. Closing a stream that is closed
changes nothing, so the test for an open stream is not repeated here. -/
def expire (nowNs : UInt64) (b : ContainerBuffer) : ContainerBuffer :=
  if isExpired nowNs b then finishDump b else b

/-- `stopExpiredLongDumps`. -/
def stopExpiredLongDumps (nowNs : UInt64) (a : AgentState) : AgentState × List Post :=
  ({ a with buffers := a.buffers.mapValues fun _ b => expire nowNs b },
    a.buffers.entries.flatMap fun e =>
      if isExpired nowNs e.2 then [dumpCompletePost cfg net e.2] else [])

/-- Interval between two cleanups: 60 seconds. -/
def kCleanupIntervalNs : UInt64 := 60 * 1000000000

/-- Silence after which a buffer is inactive: 5 minutes. -/
def kInactiveThresholdNs : UInt64 := 300 * 1000000000

/-- The test of `cleanupInactiveBuffers`: silent for more than five minutes, no dump, no window. -/
def isInactive (nowNs : UInt64) (buffer : ContainerBuffer) : Bool :=
  kInactiveThresholdNs < nowNs - buffer.lastEventTsNs && !buffer.isLongDumpActive &&
    buffer.currentShortWindow.isEmpty

/-- `cleanupInactiveBuffers`, which runs at most once a minute. -/
def cleanupInactiveBuffers (nowNs : UInt64) (a : AgentState) : AgentState :=
  if nowNs - a.lastBufferCleanupNs < kCleanupIntervalNs then a
  else
    { a with
      lastBufferCleanupNs := nowNs
      buffers := a.buffers.filter fun _ b => !isInactive nowNs b }

/-- The user-space form of a kernel event. -/
def mapEvent (evt : KernelSyscallEvent) : SyscallEvent where
  tsNs := evt.tsNs
  pid := evt.pid
  tid := evt.tid
  cgroupId := evt.cgroupId.toUInt64
  syscallId := evt.syscallId
  argClass := evt.argClass
  argBucket := evt.argBucket

/-- `handleEvent` for an event that passes the filter. -/
def handleAccepted (a : AgentState) (containerId : ByteString) (mapped : SyscallEvent) :
    AgentState × List Post :=
  let own := handleOwn cfg net a.files (a.buffer containerId) containerId mapped
  -- the sweep runs over all containers, with the timestamp of this container's event
  let stopped := stopExpiredLongDumps cfg net mapped.tsNs
    { a with files := own.1, buffers := a.buffers.set containerId own.2.1 }
  (cleanupInactiveBuffers mapped.tsNs stopped.1, own.2.2 ++ stopped.2)

/-- `handleEvent`; `containerName` is the answer of the container mapper. -/
def handleEvent (a : AgentState) (evt : KernelSyscallEvent) (containerName : ByteString) :
    AgentState × List Post :=
  let mapped := mapEvent evt
  let containerId := mapContainerId containerName mapped.cgroupId
  if passesFilter cfg containerId then handleAccepted cfg net a containerId mapped else (a, [])

end Methods

/-- `sanitizeContainerId`: slashes and backslashes become underscores. -/
def sanitizeContainerId (id : ByteString) : ByteString :=
  id.map fun ch => if ch = 47 ∨ ch = 92 then 95 else ch

/-- `fs::path(dir) / name` for a relative name. -/
def joinPath (dir name : ByteString) : ByteString :=
  if dir = [] ∨ dir.getLast? = some 47 then dir ++ name else dir ++ ascii "/" ++ name

/-- The path of a dump file; `timestamp` is the value of `nowTimestampForFile()`. -/
def dumpFilePath (cfg : Setup) (containerId timestamp : ByteString) : ByteString :=
  joinPath cfg.dumpDir
    (sanitizeContainerId containerId ++ ascii "-" ++ timestamp ++ ascii ".dkdump")

/-- What the environment answers during a `requestLongDump` call. -/
structure DumpEnv where
  timestamp : ByteString
  canOpen : Bool
  monotonicNowNs : UInt64
  deriving DecidableEq

/-- The header that starts a dump. -/
def dumpHeader (cfg : Setup) (containerId : ByteString) (startTsNs : UInt64) : TraceHeader :=
  makeTraceHeader 1 cfg.syscallVocabSize.toUInt32 containerId startTsNs

/-- The first timestamp of a dump: that of the container's last event, else the current time. -/
def dumpStart (buffer : ContainerBuffer) (env : DumpEnv) : UInt64 :=
  if buffer.lastEventTsNs ≠ 0 then buffer.lastEventTsNs else env.monotonicNowNs

/-- The timestamp that ends a dump. -/
def dumpEnd (startTsNs : UInt64) (durationSec : Int32) : UInt64 :=
  startTsNs + durationSec.toInt64.toUInt64 * 1000000000

/-- The buffer of a container whose dump has just been set up, before the header is written. -/
def startDump (buffer : ContainerBuffer) (path : ByteString) (durationSec : Int32)
    (env : DumpEnv) (stream : OfStream) : ContainerBuffer :=
  { buffer with
    longDumpStream := stream
    longDumpStartTsNs := dumpStart buffer env
    longDumpEndTsNs := dumpEnd (dumpStart buffer env) durationSec
    lastDumpTsNs := 0
    isLongDumpActive := true
    longDumpFilePath := path
    longDumpRecordCount := 0
    longDumpDurationSec := durationSec }

/-- `requestLongDump`. -/
def requestLongDump (cfg : Setup) (a : AgentState) (containerId : ByteString)
    (durationSec : Int32) (env : DumpEnv) : AgentState :=
  let buffer := { a.buffer containerId with containerId := containerId }
  let path := dumpFilePath cfg containerId env.timestamp
  let opened := buffer.longDumpStream.openFile a.files path env.canOpen
  if opened.2.isOpen then
    let header := dumpHeader cfg containerId (dumpStart buffer env)
    let written := opened.2.write opened.1 header.encode
    { a with
      files := written.1
      buffers := a.buffers.set containerId (startDump buffer path durationSec env written.2) }
  else
    -- the early return: only the stream's state and the id have changed
    { a with
      files := opened.1
      buffers := a.buffers.set containerId { buffer with longDumpStream := opened.2 } }

/-! ## Runs -/

/-- One call into the agent with the answers of its environment. -/
inductive Op
  | event (evt : KernelSyscallEvent) (containerName : ByteString) (net : Net)
  | request (containerId : ByteString) (durationSec : Int32) (env : DumpEnv)

/-- One call. -/
def step (cfg : Setup) (a : AgentState) : Op → AgentState × List Post
  | .event evt containerName net => handleEvent cfg net a evt containerName
  | .request containerId durationSec env => (requestLongDump cfg a containerId durationSec env, [])

/-- The state after a run. -/
abbrev after (cfg : Setup) (a : AgentState) (ops : List Op) : AgentState :=
  finalState (step cfg) a ops

/-- The posts of a run. -/
abbrev posts (cfg : Setup) (a : AgentState) (ops : List Op) : List Post :=
  outputs (step cfg) a ops

theorem after_append (cfg : Setup) (a : AgentState) (ops ops' : List Op) :
    after cfg a (ops ++ ops') = after cfg (after cfg a ops) ops' :=
  finalState_append (step cfg) a ops ops'

theorem after_concat (cfg : Setup) (a : AgentState) (ops : List Op) (op : Op) :
    after cfg a (ops ++ [op]) = (step cfg (after cfg a ops) op).1 :=
  finalState_concat (step cfg) a ops op

/-- The accepted event of a call, with its container. -/
def accepted (cfg : Setup) : Op → Option (ByteString × SyscallEvent)
  | .event evt containerName _ =>
      let containerId := mapContainerId containerName (mapEvent evt).cgroupId
      if passesFilter cfg containerId then some (containerId, mapEvent evt) else none
  | .request _ _ _ => none

/-- The accepted event of a call if it belongs to the container. -/
def acceptedFor (cfg : Setup) (c : ByteString) (op : Op) : Option SyscallEvent :=
  (accepted cfg op).bind fun e => if e.1 = c then some e.2 else none

/-- The accepted events of a container. -/
def acceptedOf (cfg : Setup) (c : ByteString) (ops : List Op) : List SyscallEvent :=
  ops.filterMap (acceptedFor cfg c)

theorem acceptedOf_cons (cfg : Setup) (c : ByteString) (op : Op) (ops : List Op) :
    acceptedOf cfg c (op :: ops) = (acceptedFor cfg c op).toList ++ acceptedOf cfg c ops := by
  cases h : acceptedFor cfg c op <;> simp [acceptedOf, h]

theorem acceptedFor_toList {cfg : Setup} {op : Op} {k : ByteString} {ev : SyscallEvent}
    (h : accepted cfg op = some (k, ev)) (c : ByteString) :
    (acceptedFor cfg c op).toList = if k = c then [ev] else [] := by
  by_cases hk : k = c <;> simp [acceptedFor, h, hk]

/-! ## What one call can do -/

/-- A call is a dump request, an event that is filtered out and changes nothing, or an accepted
event. -/
theorem step_cases (cfg : Setup) (op : Op) :
    (∃ c d env, op = .request c d env) ∨
      (accepted cfg op = none ∧ ∀ a, step cfg a op = (a, [])) ∨
      ∃ net c ev, accepted cfg op = some (c, ev) ∧
        ∀ a, step cfg a op = handleAccepted cfg net a c ev := by
  cases op with
  | request c d env => exact Or.inl ⟨c, d, env, rfl⟩
  | event evt name net =>
      right
      cases h : passesFilter cfg (mapContainerId name (mapEvent evt).cgroupId) with
      | false => exact Or.inl ⟨by simp [accepted, h], fun a => by simp [step, handleEvent, h]⟩
      | true =>
          exact Or.inr ⟨net, mapContainerId name (mapEvent evt).cgroupId, mapEvent evt,
            by simp [accepted, h], fun a => by simp [step, handleEvent, h]⟩

/-- Buffers that `cleanupInactiveBuffers` leaves in the map. -/
def survives (a : AgentState) (nowNs : UInt64) (b : ContainerBuffer) : Bool :=
  decide (nowNs - a.lastBufferCleanupNs < kCleanupIntervalNs) || !isInactive nowNs b

theorem files_cleanupInactiveBuffers (nowNs : UInt64) (a : AgentState) :
    (cleanupInactiveBuffers nowNs a).files = a.files := by
  unfold cleanupInactiveBuffers
  split <;> rfl

theorem find?_cleanupInactiveBuffers (nowNs : UInt64) (a : AgentState) (c : ByteString) :
    (cleanupInactiveBuffers nowNs a).buffers.find? c =
      (a.buffers.find? c).filter (survives a nowNs) := by
  by_cases h : nowNs - a.lastBufferCleanupNs < kCleanupIntervalNs
  · have hall : survives a nowNs = fun _ => true := by
      funext b
      simp [survives, h]
    rw [cleanupInactiveBuffers, if_pos h, hall]
    cases a.buffers.find? c <;> rfl
  · have hidle : survives a nowNs = fun b => !isInactive nowNs b := by
      funext b
      simp [survives, h]
    rw [cleanupInactiveBuffers, if_neg h, Table.find?_filter, hidle]

section Accepted

variable (cfg : Setup) (net : Net) (a : AgentState) (k : ByteString) (ev : SyscallEvent)

@[simp] theorem files_handleAccepted :
    (handleAccepted cfg net a k ev).1.files =
      (handleOwn cfg net a.files (a.buffer k) k ev).1 :=
  files_cleanupInactiveBuffers _ _

/-- The binding of a container after an accepted event: the event's own buffer or the old one,
then the two sweeps. -/
theorem find?_handleAccepted (c : ByteString) :
    (handleAccepted cfg net a k ev).1.buffers.find? c =
      ((if c = k then some (handleOwn cfg net a.files (a.buffer k) k ev).2.1
        else a.buffers.find? c).map (expire ev.tsNs)).filter (survives a ev.tsNs) := by
  rw [handleAccepted]
  simp only [stopExpiredLongDumps]
  rw [find?_cleanupInactiveBuffers, Table.find?_mapValues, Table.find?_set]
  rfl

theorem buffer_handleAccepted (c : ByteString) :
    (handleAccepted cfg net a k ev).1.buffer c =
      (((if c = k then some (handleOwn cfg net a.files (a.buffer k) k ev).2.1
        else a.buffers.find? c).map (expire ev.tsNs)).filter (survives a ev.tsNs)).getD {} := by
  rw [AgentState.buffer, find?_handleAccepted]

theorem posts_handleAccepted :
    (handleAccepted cfg net a k ev).2 =
      (handleOwn cfg net a.files (a.buffer k) k ev).2.2 ++
        ((a.buffers.set k (handleOwn cfg net a.files (a.buffer k) k ev).2.1).entries.flatMap
          fun e => if isExpired ev.tsNs e.2 then [dumpCompletePost cfg net e.2] else []) := rfl

end Accepted

/-! ## An agent with the default settings -/

/-- A kernel event at a given time. -/
def kernelEventAt (tsNs : UInt64) : KernelSyscallEvent where
  tsNs := tsNs
  pid := 1
  tid := 1
  cgroupId := 1
  syscallId := 0
  argClass := 1
  argBucket := 0

/-- An event of a container named `a`, at a given time. -/
def eventAt (tsNs : UInt64) : Op := .event (kernelEventAt tsNs) (ascii "a") fun _ _ _ => true

/-- The default configuration: five seconds, twenty events. -/
def defaultSetup : Setup := {}

theorem accepted_eventAt (tsNs : UInt64) :
    accepted defaultSetup (eventAt tsNs) = some (ascii "a", mapEvent (kernelEventAt tsNs)) := rfl

theorem acceptedFor_eventAt (tsNs : UInt64) :
    acceptedFor defaultSetup (ascii "a") (eventAt tsNs) = some (mapEvent (kernelEventAt tsNs)) := rfl

end DeepKernel.Agent
