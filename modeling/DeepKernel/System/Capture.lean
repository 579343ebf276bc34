import DeepKernel.Agent.Windowing
import DeepKernel.Agent.WindowJson
import DeepKernel.Kernel.Classify

/-!
# From the tracepoint to the windows

The eBPF program writes an event into a slot of the ring buffer, if it gets one, and the agent reads
the slots one after another, between requests for dumps. An event crosses as the 24 bytes of
`dk_syscall_event_t`. The syscalls that got a slot are those that the agent has handled, followed by
those that wait (`handled_append_left`), and the windows of a container with the one that is still
open are the handled events of the container (`captured_windows`): none is lost, doubled or out of
order.

The event has room for 32 bits of the cgroup id only, so processes outside of containers share a
window exactly if their ids agree in these bits (`host_windows`).
-/

set_option autoImplicit false

namespace DeepKernel.System

open DeepKernel.Lib DeepKernel.Agent DeepKernel.Kernel

/-! ## Events as bytes -/

/-- The bytes of a `dk_syscall_event_t` on a little-endian host; the struct has no padding. -/
def encodeEvent (e : KernelSyscallEvent) : ByteString :=
  leBytes 8 e.tsNs.toNat ++ (leBytes 4 e.pid.toNat ++ (leBytes 4 e.tid.toNat ++
    (leBytes 4 e.cgroupId.toNat ++ (leBytes 2 e.syscallId.toNat ++ [e.argClass, e.argBucket]))))

/-- The struct at an address, as the cast in `handleEventThunk` reads it. -/
def decodeEvent (data : ByteString) : KernelSyscallEvent where
  tsNs := UInt64.ofNat (leNat (data.take 8))
  pid := UInt32.ofNat (leNat ((data.drop 8).take 4))
  tid := UInt32.ofNat (leNat ((data.drop 12).take 4))
  cgroupId := UInt32.ofNat (leNat ((data.drop 16).take 4))
  syscallId := UInt16.ofNat (leNat ((data.drop 20).take 2))
  argClass := (data.drop 22).headD 0
  argBucket := (data.drop 23).headD 0

@[simp] theorem length_encodeEvent (e : KernelSyscallEvent) : (encodeEvent e).length = 24 := by
  simp [encodeEvent]

theorem drop_leBytes_append (w n k : Nat) (rest : ByteString) (h : w ≤ k) :
    (leBytes w n ++ rest).drop k = rest.drop (k - w) := by
  rw [List.drop_append, List.drop_eq_nil_of_le (by rw [length_leBytes]; exact h), length_leBytes,
    List.nil_append]

theorem take_leBytes_append (w n : Nat) (rest : ByteString) :
    (leBytes w n ++ rest).take w = leBytes w n :=
  List.take_left' (length_leBytes w n)

/-- The agent reads the event that the program wrote. -/
theorem decodeEvent_encodeEvent (e : KernelSyscallEvent) : decodeEvent (encodeEvent e) = e := by
  obtain ⟨tsNs, pid, tid, cgroupId, syscallId, argClass, argBucket⟩ := e
  have hts := tsNs.toNat_lt
  have hpid := pid.toNat_lt
  have htid := tid.toNat_lt
  have hcgroup := cgroupId.toNat_lt
  have hid := syscallId.toNat_lt
  simp only [decodeEvent, encodeEvent, drop_leBytes_append, take_leBytes_append, Nat.reduceLeDiff,
    Nat.reduceSub, List.drop_zero, Nat.le_refl]
  rw [leNat_leBytes_of_lt (by omega), leNat_leBytes_of_lt (by omega),
    leNat_leBytes_of_lt (by omega), leNat_leBytes_of_lt (by omega),
    leNat_leBytes_of_lt (by omega)]
  simp

/-- `handleEventThunk`. -/
def handleEventThunk (cfg : Setup) (net : Net) (a : AgentState) (data : ByteString)
    (containerName : ByteString) : AgentState × List Post :=
  if data.length < 24 then (a, [])
  else handleEvent cfg net a (decodeEvent data) containerName

theorem handleEventThunk_encodeEvent (cfg : Setup) (net : Net) (a : AgentState)
    (e : KernelSyscallEvent) (containerName : ByteString) :
    handleEventThunk cfg net a (encodeEvent e) containerName =
      handleEvent cfg net a e containerName := by
  rw [handleEventThunk, if_neg (by simp), decodeEvent_encodeEvent]

/-! ## The ring buffer -/

/-- The records that wait in the ring buffer, and the agent. -/
structure Capture where
  ring : List ByteString
  agent : AgentState

/-- A syscall is entered, and the program gets a slot of the ring buffer or not; the agent takes the
next record, with the answer of the container mapper; a long dump is requested. -/
inductive CaptureStep
  | sysEnter (ctx : SysEnter) (reserved : Bool)
  | consume (containerName : ByteString) (net : Net)
  | request (containerId : ByteString) (durationSec : Int32) (env : DumpEnv)

/-- One step. -/
def captureStep (cfg : Setup) (s : Capture) : CaptureStep → Capture × List Post
  | .sysEnter ctx reserved =>
      (if reserved then { s with ring := s.ring ++ [encodeEvent (handleSysEnter ctx)] } else s, [])
  | .consume containerName net =>
      match s.ring with
      | [] => (s, [])
      | data :: ring =>
          let handled := handleEventThunk cfg net s.agent data containerName
          (⟨ring, handled.1⟩, handled.2)
  | .request containerId durationSec env =>
      ({ s with agent := requestLongDump cfg s.agent containerId durationSec env }, [])

/-- The ring buffer and the agent after some steps. -/
abbrev captureAfter (cfg : Setup) (s : Capture) (steps : List CaptureStep) : Capture :=
  finalState (captureStep cfg) s steps

/-- The posts of some steps. -/
abbrev capturePosts (cfg : Setup) (s : Capture) (steps : List CaptureStep) : List Post :=
  outputs (captureStep cfg) s steps

/-- The ring buffer is empty and the agent is started. -/
def Capture.init (files : FileSystem) : Capture := ⟨[], AgentState.init files⟩

/-! ## What is handled -/

/-- The syscalls that got a slot. -/
def submitted : List CaptureStep → List SysEnter
  | [] => []
  | .sysEnter ctx true :: steps => ctx :: submitted steps
  | _ :: steps => submitted steps

/-- The calls into the agent, where `waiting` are the syscalls in the ring buffer. -/
def agentOps (waiting : List SysEnter) : List CaptureStep → List Op
  | [] => []
  | .sysEnter ctx reserved :: steps => agentOps (if reserved then waiting ++ [ctx] else waiting) steps
  | .consume containerName net :: steps =>
      match waiting with
      | [] => agentOps [] steps
      | ctx :: waiting => .event (handleSysEnter ctx) containerName net :: agentOps waiting steps
  | .request containerId durationSec env :: steps =>
      .request containerId durationSec env :: agentOps waiting steps

/-- The syscalls that the agent handles, with the names of their containers. -/
def handled (waiting : List SysEnter) : List CaptureStep → List (SysEnter × ByteString)
  | [] => []
  | .sysEnter ctx reserved :: steps => handled (if reserved then waiting ++ [ctx] else waiting) steps
  | .consume containerName _ :: steps =>
      match waiting with
      | [] => handled [] steps
      | ctx :: waiting => (ctx, containerName) :: handled waiting steps
  | .request _ _ _ :: steps => handled waiting steps

/-- The syscalls that are left in the ring buffer. -/
def left (waiting : List SysEnter) : List CaptureStep → List SysEnter
  | [] => waiting
  | .sysEnter ctx reserved :: steps => left (if reserved then waiting ++ [ctx] else waiting) steps
  | .consume _ _ :: steps => left waiting.tail steps
  | .request _ _ _ :: steps => left waiting steps

/-- The event of a handled syscall, if it belongs to a container and passes the filter. -/
def eventFor (cfg : Setup) (c : ByteString) (h : SysEnter × ByteString) : Option SyscallEvent :=
  let event := mapEvent (handleSysEnter h.1)
  let containerId := mapContainerId h.2 event.cgroupId
  if passesFilter cfg containerId = true ∧ containerId = c then some event else none

/-- The syscalls that got a slot are the handled ones and those that wait, in order. -/
theorem handled_append_left (waiting : List SysEnter) (steps : List CaptureStep) :
    (handled waiting steps).map Prod.fst ++ left waiting steps = waiting ++ submitted steps := by
  induction steps generalizing waiting with
  | nil => simp [handled, left, submitted]
  | cons step steps ih =>
      cases step with
      | sysEnter ctx reserved =>
          cases reserved with
          | true =>
              simp only [handled, left, submitted, if_true, ih]
              simp
          | false =>
              simp only [handled, left, submitted, Bool.false_eq_true, if_false, ih]
      | consume containerName net =>
          cases waiting with
          | nil => exact ih []
          | cons ctx waiting =>
              simp only [handled, left, submitted, List.tail_cons, List.map_cons, List.cons_append,
                ih]
      | request containerId durationSec env => exact ih waiting

/-- A run of the ring buffer and the agent is a run of the agent on the events in their order. -/
theorem capture_eq (cfg : Setup) (a : AgentState) (waiting : List SysEnter)
    (steps : List CaptureStep) :
    captureAfter cfg ⟨waiting.map fun ctx => encodeEvent (handleSysEnter ctx), a⟩ steps =
        ⟨(left waiting steps).map fun ctx => encodeEvent (handleSysEnter ctx),
          after cfg a (agentOps waiting steps)⟩ ∧
      capturePosts cfg ⟨waiting.map fun ctx => encodeEvent (handleSysEnter ctx), a⟩ steps =
        posts cfg a (agentOps waiting steps) := by
  induction steps generalizing a waiting with
  | nil => exact ⟨rfl, rfl⟩
  | cons step steps ih =>
      rw [captureAfter, capturePosts, finalState_cons, outputs_cons]
      cases step with
      | sysEnter ctx reserved =>
          cases reserved with
          | true =>
              have hrec := ih a (waiting ++ [ctx])
              rw [List.map_append] at hrec
              exact hrec
          | false => exact ih a waiting
      | consume containerName net =>
          cases waiting with
          | nil => exact ih a []
          | cons ctx waiting =>
              -- the record at the front is the event of the first syscall that waits
              have hrec := ih (handleEvent cfg net a (handleSysEnter ctx) containerName).1 waiting
              simp only [captureStep, List.map_cons, handleEventThunk_encodeEvent]
              refine ⟨hrec.1, ?_⟩
              rw [agentOps, posts, outputs_cons]
              exact congrArg _ hrec.2
      | request containerId durationSec env =>
          exact ih (requestLongDump cfg a containerId durationSec env) waiting

theorem acceptedFor_event (cfg : Setup) (c : ByteString) (ctx : SysEnter)
    (containerName : ByteString) (net : Net) :
    acceptedFor cfg c (.event (handleSysEnter ctx) containerName net) =
      eventFor cfg c (ctx, containerName) := by
  simp only [acceptedFor, accepted, eventFor]
  cases passesFilter cfg (mapContainerId containerName (mapEvent (handleSysEnter ctx)).cgroupId) with
  | false => simp
  | true => simp

/-- The events that the agent accepts for a container are those of its handled syscalls. -/
theorem acceptedOf_agentOps (cfg : Setup) (c : ByteString) (waiting : List SysEnter)
    (steps : List CaptureStep) :
    acceptedOf cfg c (agentOps waiting steps) =
      (handled waiting steps).filterMap (eventFor cfg c) := by
  induction steps generalizing waiting with
  | nil => rfl
  | cons step steps ih =>
      cases step with
      | sysEnter ctx reserved => exact ih _
      | consume containerName net =>
          cases waiting with
          | nil => exact ih []
          | cons ctx waiting =>
              rw [agentOps, handled, acceptedOf_cons, ih, acceptedFor_event]
              cases heq : eventFor cfg c (ctx, containerName) with
              | none => rw [List.filterMap_cons_none heq]; rfl
              | some event => rw [List.filterMap_cons_some heq]; rfl
      | request containerId durationSec env =>
          rw [agentOps, handled, acceptedOf_cons, ih]
          rfl

/-! ## The windows -/

/-- The windows of a container: the segmentation of the events of its handled syscalls, each with the
time of its first event. -/
theorem windows_capture (cfg : Setup) (files : FileSystem) (steps : List CaptureStep)
    (c : ByteString) :
    ((windowsOf c (capturePosts cfg (.init files) steps)).map Prod.snd,
        (captureAfter cfg (.init files) steps).agent.openWindow c) =
      segmentFrom (cutsWindow cfg) [] ((handled [] steps).filterMap (eventFor cfg c)) ∧
      ∀ window ∈ windowsOf c (capturePosts cfg (.init files) steps),
        window.2.head?.map (·.tsNs) = some window.1 := by
  obtain ⟨hafter, hposts⟩ := capture_eq cfg (AgentState.init files) [] steps
  have hinit : Capture.init files =
      ⟨([] : List SysEnter).map fun ctx => encodeEvent (handleSysEnter ctx),
        AgentState.init files⟩ := rfl
  rw [hinit, hafter, hposts, ← acceptedOf_agentOps]
  exact windows_eq_segmentFrom cfg (startsMatch_init files) (agentOps [] steps) c

theorem flatten_windows_append_open (cfg : Setup) (files : FileSystem) (steps : List CaptureStep)
    (c : ByteString) :
    ((windowsOf c (capturePosts cfg (.init files) steps)).map Prod.snd).flatten ++
        (captureAfter cfg (.init files) steps).agent.openWindow c =
      (handled [] steps).filterMap (eventFor cfg c) := by
  obtain ⟨hsent, hopen⟩ := Prod.mk.inj (windows_capture cfg files steps c).1
  rw [hsent, hopen, flatten_segmentFrom, List.nil_append]

/-- In every run the windows sent for a container, with the one that is open, are the events of the
handled syscalls of the container, and the handled syscalls are those that got a slot, up to the ones
whose records still wait. -/
theorem captured_windows (cfg : Setup) (files : FileSystem) (steps : List CaptureStep)
    (c : ByteString) :
    ((windowsOf c (capturePosts cfg (.init files) steps)).map Prod.snd).flatten ++
          (captureAfter cfg (.init files) steps).agent.openWindow c =
        (handled [] steps).filterMap (eventFor cfg c) ∧
      (handled [] steps).map Prod.fst ++ left [] steps = submitted steps ∧
      (captureAfter cfg (.init files) steps).ring =
        (left [] steps).map fun ctx => encodeEvent (handleSysEnter ctx) := by
  have hinit : Capture.init files =
      ⟨([] : List SysEnter).map fun ctx => encodeEvent (handleSysEnter ctx),
        AgentState.init files⟩ := rfl
  refine ⟨flatten_windows_append_open cfg files steps c, handled_append_left [] steps, ?_⟩
  rw [hinit, (capture_eq cfg (AgentState.init files) [] steps).1]

/-! ## Processes outside of containers -/

theorem decimal_injective {m n : Nat} (h : decimal m = decimal n) : m = n := by
  have hm := nat?_decimal m
  rw [h, nat?_decimal] at hm
  exact (Option.some.inj hm).symm

/-- The name that the agent gives a process outside of containers. -/
def hostName (n : Nat) : ByteString := ascii "host-" ++ decimal n

theorem mapContainerId_host (ctx : SysEnter) :
    mapContainerId [] (mapEvent (handleSysEnter ctx)).cgroupId =
      hostName (ctx.cgroupId.toNat % 2 ^ 32) := by
  have hid : (mapEvent (handleSysEnter ctx)).cgroupId.toNat = ctx.cgroupId.toNat % 2 ^ 32 := by
    simp [mapEvent, handleSysEnter]
  rw [mapContainerId, if_neg (by simp), hid]
  rfl

/-- In a run without containers and without filter, the windows of a host name are the events of the
processes whose cgroup id has these low 32 bits. -/
theorem host_windows {cfg : Setup} (hfilter : cfg.containerFilterRegex = []) (files : FileSystem)
    {steps : List CaptureStep} (hnames : ∀ h ∈ handled [] steps, h.2 = []) (n : Nat) :
    ((windowsOf (hostName n) (capturePosts cfg (.init files) steps)).map Prod.snd).flatten ++
        (captureAfter cfg (.init files) steps).agent.openWindow (hostName n) =
      ((handled [] steps).filter fun h => decide (h.1.cgroupId.toNat % 2 ^ 32 = n)).map
        fun h => mapEvent (handleSysEnter h.1) := by
  rw [flatten_windows_append_open cfg files steps (hostName n)]
  have hevent : ∀ h ∈ handled [] steps, eventFor cfg (hostName n) h =
      if h.1.cgroupId.toNat % 2 ^ 32 = n then some (mapEvent (handleSysEnter h.1)) else none := by
    intro h hh
    have hpass : ∀ id, passesFilter cfg id = true := by
      intro id
      rw [passesFilter, hfilter]
      rfl
    have hname : hostName (h.1.cgroupId.toNat % 2 ^ 32) = hostName n ↔
        h.1.cgroupId.toNat % 2 ^ 32 = n :=
      ⟨fun heq => decimal_injective (List.append_cancel_left heq), fun heq => by rw [heq]⟩
    simp only [eventFor, hnames h hh, mapContainerId_host, hpass, true_and, hname]
  rw [List.filterMap_congr hevent, ← List.filterMap_eq_map, List.filterMap_filter]
  simp only [Function.comp_apply, decide_eq_true_eq]

/-- Two syscalls of processes outside of containers, whose cgroup ids differ by `2 ^ 32`. -/
def twoHosts : List CaptureStep :=
  [.sysEnter ⟨0, 1, 0, 7⟩ true, .sysEnter ⟨1, 2, 0, 4294967303⟩ true,
    .consume [] fun _ _ _ => true, .consume [] fun _ _ _ => true]

theorem host_windows_twoHosts :
    ((windowsOf (hostName 7) (capturePosts defaultSetup (.init Table.empty) twoHosts)).map
        Prod.snd).flatten ++
        (captureAfter defaultSetup (.init Table.empty) twoHosts).agent.openWindow (hostName 7) =
      [⟨1, 0, 0, 7, 0, 1, 0⟩, ⟨2, 0, 0, 7, 1, 1, 0⟩] := by
  rw [host_windows rfl _ (by decide)]
  decide

end DeepKernel.System
