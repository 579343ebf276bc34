import Mathlib.Data.Bool.AllAny
import DeepKernel.Agent.Dump
import DeepKernel.Server.Routes
import DeepKernel.Server.Training

/-!
# Training over two programs

The agent and the server together. A training start on the server sends a dump command to the
agent; the agent's report that the dump is complete is dispatched by the server's request mappings.
Every HTTP request is delivered and answered, so a report has been dispatched when the call of the
agent that sent it returns.

The agent reports to a path that no controller is mapped to (`handlerOf_dumpComplete`), so no
training job is ever completed by its dump.
-/

set_option autoImplicit false

namespace DeepKernel.System

open DeepKernel.Lib DeepKernel.Agent DeepKernel.Server

/-! ## The two programs -/

/-- What the JSON libraries make of the two bodies. `command` is the container and the duration
that the agent reads from a dump command of the server, `none` if it rejects it; `completion` is
the container that the server reads from a report of the agent. -/
structure Wire where
  command : String → Int32 → Option (ByteString × Int32)
  completion : ByteString → Option String

/-- An agent that is configured with the address of the server. -/
structure Deployment where
  setup : Setup
  origin : Origin
  serverUrl_eq : setup.serverUrl = origin.url
  wire : Wire

/-- The state of both programs. -/
structure SystemState where
  agent : AgentState
  server : TrainingState

/-- Both programs have just been started. -/
def SystemState.init (files : FileSystem) : SystemState := ⟨.init files, .init⟩

/-- A request of the agent and the controller method that got it. -/
structure Delivery where
  post : Post
  handler : Option Handler
  deriving DecidableEq

/-- A call into one of the programs. `event` and `request` are calls of the agent, the second one
by a client such as `request_dump.py`; the others are requests to the server. -/
inductive Op
  | event (evt : KernelSyscallEvent) (containerName : ByteString)
  | request (containerId : ByteString) (durationSec : Int32) (env : DumpEnv)
  | start (containerId : String) (durationSec : Int32) (remote : Option ModelMeta) (now : Int)
      (env : DumpEnv)
  | getMeta (containerId : String) (remote : Option ModelMeta) (now : Int)
  | sync (answers : List ModelRegistry.SyncAnswer)
  | clear

section Step

variable (D : Deployment)

/-- The controller method that gets a request of the agent. -/
def handlerOf (p : Post) : Option Handler := dispatch .post (urlPath p.url)

/-- What a request of the agent does to jobs and registry. Of the methods that it can reach, only
`handleDumpComplete` changes them. -/
def deliver (server : TrainingState) (p : Post) : TrainingState :=
  match handlerOf p with
  | some .handleDumpComplete =>
      match D.wire.completion p.payload.body with
      | some containerId => server.handleDumpComplete containerId
      | none => server
  | _ => server

/-- A dump command of the server. The adapter of the server logs what goes wrong and returns. -/
def sendCommand (agent : AgentState) (containerId : String) (durationSec : Int32) (env : DumpEnv) :
    AgentState :=
  match D.wire.command containerId durationSec with
  | some (k, d) => requestLongDump D.setup agent k d env
  | none => agent

/-- One call. -/
def step (s : SystemState) : Op → SystemState × List Delivery
  | .event evt containerName =>
      let handled := handleEvent D.setup (fun _ _ _ => true) s.agent evt containerName
      (⟨handled.1, handled.2.foldl (deliver D) s.server⟩,
        handled.2.map fun p => ⟨p, handlerOf p⟩)
  | .request k d env => (⟨requestLongDump D.setup s.agent k d env, s.server⟩, [])
  | .start c d remote now env =>
      (⟨sendCommand D s.agent c d env, (s.server.startOrchestratedTraining c remote now false).1⟩,
        [])
  | .getMeta c remote now => (⟨s.agent, s.server.step (.getMeta c remote now)⟩, [])
  | .sync answers => (⟨s.agent, s.server.step (.sync answers)⟩, [])
  | .clear => (⟨s.agent, s.server.step .clear⟩, [])

end Step

/-- The call is a start, a synchronisation or a clearing that concerns the container. -/
def Op.concerns (c : String) : Op → Bool
  | .start k _ _ _ _ => decide (k = c)
  | .sync answers => answers.any fun a => decide (a.containerId = c)
  | .clear => true
  | _ => false

/-- The call asks the agent for a dump of the container. -/
def Op.requests (D : Deployment) (k : ByteString) : Op → Bool
  | .request k' _ _ => decide (k' = k)
  | .start c d _ _ _ => decide ((D.wire.command c d).map Prod.fst = some k)
  | _ => false

/-! ## Dispatch of the agent's requests -/

theorem url_processShortWindow {cfg : Setup} {net : Net} {b : ContainerBuffer} {p : Post}
    (hp : p ∈ (processShortWindow cfg net b).2) :
    p.url = cfg.serverUrl ++ ascii "/api/v1/agent/windows" ∧ ∀ c, sentCompletion c p = none := by
  unfold processShortWindow at hp
  split at hp
  · cases hp
  · rw [List.mem_singleton.1 hp]
    exact ⟨rfl, fun _ => rfl⟩

theorem url_appendLongDump {cfg : Setup} {net : Net} {files : FileSystem} {b : ContainerBuffer}
    {ev : SyscallEvent} {p : Post} (hp : p ∈ (appendLongDump cfg net files b ev).2.2) :
    p.url = cfg.serverUrl ++ ascii "/api/v1/agent/long-dump-complete" := by
  unfold appendLongDump at hp
  split at hp
  · split at hp
    · rw [List.mem_singleton.1 hp]
      rfl
    · cases hp
  · cases hp

theorem url_handleOwn {cfg : Setup} {net : Net} {files : FileSystem} {b : ContainerBuffer}
    {k : ByteString} {ev : SyscallEvent} {p : Post}
    (hp : p ∈ (handleOwn cfg net files b k ev).2.2) :
    (p.url = cfg.serverUrl ++ ascii "/api/v1/agent/windows" ∧ ∀ c, sentCompletion c p = none) ∨
      p.url = cfg.serverUrl ++ ascii "/api/v1/agent/long-dump-complete" := by
  rw [handleOwn_eq] at hp
  rcases List.mem_append.1 hp with hp | hp
  · exact Or.inr (url_appendLongDump hp)
  · left
    split at hp
    · exact url_processShortWindow hp
    · cases hp

/-- The agent posts to two paths of the server, and completions to the second one. -/
theorem url_handleEvent {cfg : Setup} {net : Net} {a : AgentState} {evt : KernelSyscallEvent}
    {name : ByteString} {p : Post} (hp : p ∈ (handleEvent cfg net a evt name).2) :
    (p.url = cfg.serverUrl ++ ascii "/api/v1/agent/windows" ∧ ∀ c, sentCompletion c p = none) ∨
      p.url = cfg.serverUrl ++ ascii "/api/v1/agent/long-dump-complete" := by
  have hstep : (Agent.step cfg a (.event evt name net)).2 = (handleEvent cfg net a evt name).2 :=
    rfl
  rw [← hstep] at hp
  rcases Agent.step_cases cfg (.event evt name net) with
    ⟨_, _, _, h⟩ | ⟨-, h⟩ | ⟨net', k, ev, -, h⟩
  · cases h
  · rw [h] at hp
    cases hp
  · -- The posts of the own container come first, then those of the dumps that expired.
    rw [h, posts_handleAccepted] at hp
    rcases List.mem_append.1 hp with hp | hp
    · exact url_handleOwn hp
    · obtain ⟨e, -, hp⟩ := List.mem_flatMap.1 hp
      split at hp
      · rw [List.mem_singleton.1 hp]
        exact Or.inr rfl
      · cases hp

section Dispatch

variable (D : Deployment)

theorem handlerOf_eq {p : Post} {path : ByteString} (hp : p.url = D.setup.serverUrl ++ path)
    (hslash : path.head? = some 47) (hplain : ∀ b ∈ path, b ≠ 63 ∧ b ≠ 35) :
    handlerOf p = dispatch .post path := by
  rw [handlerOf, hp, D.serverUrl_eq, urlPath_append D.origin hslash hplain]

/-- The path of the agent's completion reports is mapped to no controller. -/
theorem handlerOf_dumpComplete {p : Post}
    (hp : p.url = D.setup.serverUrl ++ ascii "/api/v1/agent/long-dump-complete") :
    handlerOf p = none := by
  rw [handlerOf_eq D hp rfl (List.all_iff_forall_prop.mp (by decide))]
  decide +kernel

theorem handlerOf_window {p : Post}
    (hp : p.url = D.setup.serverUrl ++ ascii "/api/v1/agent/windows") :
    handlerOf p = some .ingestWindow := by
  rw [handlerOf_eq D hp rfl (List.all_iff_forall_prop.mp (by decide))]
  decide +kernel

/-- No request of the agent changes jobs or registry. -/
theorem foldl_deliver {a : AgentState} {evt : KernelSyscallEvent} {net : Net} {name : ByteString}
    (server : TrainingState) :
    (handleEvent D.setup net a evt name).2.foldl (deliver D) server = server := by
  apply foldl_invariant (I := fun t => t = server)
    (P := fun p => p.url = D.setup.serverUrl ++ ascii "/api/v1/agent/windows" ∨
      p.url = D.setup.serverUrl ++ ascii "/api/v1/agent/long-dump-complete")
  · rintro t p hp rfl
    rcases hp with hp | hp
    · rw [deliver, handlerOf_window D hp]
    · rw [deliver, handlerOf_dumpComplete D hp]
  · rfl
  · exact fun p hp => (url_handleEvent hp).imp And.left id

end Dispatch

/-! ## A job in flight -/

/-- The container is in training: its latest entry, in training, is that of its job. -/
def InTraining (c : String) (e : ModelVersion) (s : TrainingState) : Prop :=
  s.registry.latest c = some e ∧ s.jobs.find? c = some e.version

theorem inTraining_start (s : TrainingState) (c : String) (remote : Option ModelMeta)
    (now : Int) :
    InTraining c (trainingVersion c (s.registry.baseVersion c remote + 1) now)
      (s.startOrchestratedTraining c remote now false).1 := by
  have hslot := slot_beginTraining s c c remote now
  rw [if_pos rfl] at hslot
  refine ⟨?_, congrArg Prod.snd hslot⟩
  have hlist := congrArg Prod.fst hslot
  exact (congrArg List.getLast? hlist).trans List.getLast?_concat

/-- An operation that leaves the versions and the job of a container keeps it in training. -/
theorem InTraining.of_slot {c : String} {e : ModelVersion} {s s' : TrainingState}
    (h : InTraining c e s) (hslot : s'.slot c = s.slot c) : InTraining c e s' := by
  have hlist : s'.registry.list c = s.registry.list c := congrArg Prod.fst hslot
  have hjob : s'.jobs.find? c = s.jobs.find? c := congrArg Prod.snd hslot
  rw [InTraining, ModelRegistry.latest, hlist, hjob]
  exact h

theorem list_foldl_syncOne_of_not_mem {c : String} {answers : List ModelRegistry.SyncAnswer}
    (h : ∀ a ∈ answers, a.containerId ≠ c) (r : ModelRegistry) :
    (answers.foldl ModelRegistry.syncOne r).list c = r.list c := by
  apply foldl_invariant (I := fun r' : ModelRegistry => r'.list c = r.list c)
    (P := fun a : ModelRegistry.SyncAnswer => a.containerId ≠ c)
  · intro r' a ha hr'
    rw [ModelRegistry.list_syncOne, if_neg (Ne.symm ha), hr']
  · rfl
  · exact h

/-- Calls that do not concern the container keep it in training. -/
theorem InTraining.step {D : Deployment} {c : String} {e : ModelVersion} {s : SystemState}
    (h : InTraining c e s.server) {op : Op} (hop : op.concerns c = false) :
    InTraining c e (step D s op).1.server := by
  cases op with
  | event evt name =>
      -- whatever the agent posts, no handler of the server changes a job
      refine h.of_slot ?_
      simp only [System.step, foldl_deliver]
  | request k d env => exact h
  | start k d remote now env =>
      have hne : c ≠ k := fun hk => by simp [Op.concerns, hk] at hop
      exact h.of_slot (by rw [System.step]; exact (slot_beginTraining _ c k _ _).trans (if_neg hne))
  | getMeta k remote now =>
      refine h.of_slot (Prod.ext ?_ rfl)
      -- The container has an entry, so `getMeta` stores nothing for it.
      have hne : s.server.registry.list c ≠ [] := by
        rw [ne_eq, ← ModelRegistry.latest_eq_none_iff, h.1]
        simp
      have hlist := ModelRegistry.list_getMeta s.server.registry c k remote now
      by_cases hk : c = k
      · subst hk
        rw [if_pos rfl, ModelRegistry.cachedBy, if_neg hne, List.append_nil] at hlist
        exact hlist
      · rw [if_neg hk] at hlist
        exact hlist
  | sync answers =>
      refine h.of_slot (Prod.ext ?_ rfl)
      apply list_foldl_syncOne_of_not_mem
      intro a ha hc
      simp only [Op.concerns, List.any_eq_false, decide_eq_true_eq] at hop
      exact hop a ha hc
  | clear => simp [Op.concerns] at hop

/-! ## Training runs -/

/-- A run in which a dump that a training start requested completes: calls before the start, the
start, calls that neither concern the container nor ask for another dump of it, and the event at
which the agent sends the completion of the dump. -/
structure TrainingRun (D : Deployment) where
  files : FileSystem
  pre : List Op
  containerId : String
  durationSec : Int32
  remote : Option ModelMeta
  now : Int
  env : DumpEnv
  mid : List Op
  quiet : ∀ op ∈ mid, op.concerns containerId = false
  agentContainer : ByteString
  agentDuration : Int32
  command_eq : D.wire.command containerId durationSec = some (agentContainer, agentDuration)
  own : ∀ op ∈ mid, op.requests D agentContainer = false
  evt : KernelSyscallEvent
  containerName : ByteString
  delivery : Delivery
  sent : delivery ∈ (step D (finalState (step D) (.init files)
    (pre ++ .start containerId durationSec remote now env :: mid)) (.event evt containerName)).2
  completes : (sentCompletion agentContainer delivery.post).isSome

namespace TrainingRun

variable {D : Deployment}

/-- The state before the start. -/
def before (r : TrainingRun D) : SystemState := finalState (step D) (.init r.files) r.pre

/-- The state before the event that ends the dump. -/
def waiting (r : TrainingRun D) : SystemState :=
  finalState (step D) (.init r.files)
    (r.pre ++ .start r.containerId r.durationSec r.remote r.now r.env :: r.mid)

/-- The state after the completion has been sent and answered. -/
def after (r : TrainingRun D) : SystemState :=
  (step D r.waiting (.event r.evt r.containerName)).1

/-- The version that the start creates. -/
def version (r : TrainingRun D) : Int32 :=
  r.before.server.registry.baseVersion r.containerId r.remote + 1

/-- The completion is dispatched to `handleDumpComplete`, the job is gone and the latest entry has
the version of the job and is ready. -/
def JobCompleted (r : TrainingRun D) : Prop :=
  r.delivery.handler = some .handleDumpComplete ∧
    r.after.server.jobs.find? r.containerId = none ∧
    ∃ e, r.after.server.registry.latest r.containerId = some e ∧ e.version = r.version ∧
      e.status = .ready

/-- The container is still in training when its dump completes, and after that. -/
theorem inTraining_after (r : TrainingRun D) :
    InTraining r.containerId (trainingVersion r.containerId r.version r.now) r.after.server := by
  have hstart : InTraining r.containerId (trainingVersion r.containerId r.version r.now)
      (step D r.before (.start r.containerId r.durationSec r.remote r.now r.env)).1.server :=
    inTraining_start _ _ _ _
  have hwaiting : InTraining r.containerId (trainingVersion r.containerId r.version r.now)
      r.waiting.server := by
    rw [waiting, finalState_append, finalState_cons]
    exact finalState_invariant
      (I := fun s : SystemState =>
        InTraining r.containerId (trainingVersion r.containerId r.version r.now) s.server)
      (P := fun op : Op => op.concerns r.containerId = false) (fun s op hop h => h.step hop) hstart
      r.quiet
  exact hwaiting.step rfl

/-- The completion of the dump is dispatched to no controller method. -/
theorem handler_delivery (r : TrainingRun D) : r.delivery.handler = none := by
  obtain ⟨p, hp, hdelivery⟩ := List.mem_map.1 r.sent
  have hcompletes := r.completes
  rw [← hdelivery] at hcompletes ⊢
  rcases url_handleEvent hp with ⟨-, hnone⟩ | hurl
  -- a posted window is no completion
  · rw [hnone] at hcompletes
    cases hcompletes
  · exact handlerOf_dumpComplete D hurl

end TrainingRun

/-- No training job is ever completed by its dump: when the dump completes, the report reaches no
controller method, and the job and its entry stay in training. -/
theorem training_job_never_completed (D : Deployment) (r : TrainingRun D) :
    ¬ r.JobCompleted ∧ r.delivery.handler = none ∧
      InTraining r.containerId (trainingVersion r.containerId r.version r.now) r.after.server := by
  refine ⟨?_, r.handler_delivery, r.inTraining_after⟩
  rintro ⟨hhandler, -⟩
  rw [r.handler_delivery] at hhandler
  cases hhandler

/-! ## The default addresses -/

/-- The default settings of the agent. The ids in use are plain ASCII and pass through both JSON
bodies unchanged; the completion of the container `a` is the only one that is read. -/
def defaultDeployment : Deployment where
  setup := defaultSetup
  origin :=
    { scheme := ascii "http"
      authority := ascii "localhost:9090"
      scheme_plain := List.all_iff_forall_prop.mp (by decide)
      authority_plain := List.all_iff_forall_prop.mp (by decide) }
  serverUrl_eq := by decide
  wire := { command := fun c d => some (ascii c, d), completion := fun _ => some "a" }

/-- The dump of a training start for the container `a`, ten seconds long, and an event of the
container after its end. -/
def defaultRun : TrainingRun defaultDeployment where
  files := Table.empty
  pre := []
  containerId := "a"
  durationSec := 10
  remote := none
  now := 0
  env := { timestamp := ascii "20250101-000000", canOpen := true, monotonicNowNs := 1 }
  mid := []
  quiet := by simp
  agentContainer := ascii "a"
  agentDuration := 10
  command_eq := rfl
  own := by simp
  evt := kernelEventAt 20000000000
  containerName := ascii "a"
  delivery :=
    { post := dumpCompletePost defaultSetup (fun _ _ _ => true)
        { containerId := ascii "a"
          longDumpFilePath := dumpFilePath defaultSetup (ascii "a") (ascii "20250101-000000")
          longDumpStartTsNs := 1
          longDumpDurationSec := 10
          longDumpRecordCount := 0 }
      handler := none }
  sent := by decide
  completes := rfl

/-- The completion of the dump of `defaultRun` reaches no controller method. -/
theorem training_job_not_completed : ¬ defaultRun.JobCompleted := fun h => nomatch h.1

end DeepKernel.System
