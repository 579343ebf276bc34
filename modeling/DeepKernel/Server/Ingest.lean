import DeepKernel.Server.LocalAdapter
import DeepKernel.Server.Triage
import DeepKernel.Server.WindowSummarizer

/-!
# Ingestion of a window

`AgentWindowController.ingestWindow` with the repositories it writes to, and `HttpAgentAdapter`,
through which policies reach the agent. The environment of a request says what everything outside
answers: the scorer, the change contexts, the language model, the agent, the clock, and the random
ids. Publishing to the topic of the user interface is taken to succeed.

A request that throws keeps what it has stored so far. A request can end in three ways
(`ingestWindow_of_no_score`, `ingestWindow_of_no_triage`, `ingestWindow_of_triage`); the properties
of the pipeline are read off these.
-/

set_option autoImplicit false

namespace DeepKernel.Server

open DeepKernel.Lib

/-! ## Stores -/

/-- `Container`. -/
structure Container where
  id : String
  namespaceName : String
  node : String
  status : String
  agentConnected : Bool
  modelStatus : ModelStatus
  deriving DecidableEq

/-- The payload of a `LiveEvent` of the pipeline. -/
inductive EventPayload (R : Type)
  | containerDiscovered (namespaceName agentId : String)
  | windowScored (mlScore : R) (isAnomalous : Bool) (recordCount : Nat)
  | triageResult (verdict : String) (riskScore : R) (explanation : String)
  | policyApplied (policyId : String) (type : PolicyType) (status : PolicyStatus)
  deriving DecidableEq

/-- The types of the events. -/
inductive EventType
  | containerDiscovered
  | windowScored
  | triageResult
  | policyApplied
  deriving DecidableEq

/-- `LiveEvent`. The type is that of the payload. -/
structure LiveEvent (R : Type) where
  containerId : String
  timestamp : Int
  payload : EventPayload R
  deriving DecidableEq

/-- The type of an event. -/
def LiveEvent.type {R : Type} (e : LiveEvent R) : EventType :=
  match e.payload with
  | .containerDiscovered _ _ => .containerDiscovered
  | .windowScored _ _ _ => .windowScored
  | .triageResult _ _ _ => .triageResult
  | .policyApplied _ _ _ => .policyApplied

/-- The repositories. -/
structure ServerState (R : Type) where
  containers : Table String Container
  windows : List (AnomalyWindow R)
  triageResults : List (TriageResult R)
  policies : List (Policy R)
  events : List (LiveEvent R)

section Stores

variable {R : Type}

/-- `AnomalyWindowRepository.save`. -/
def saveWindow (windows : List (AnomalyWindow R)) (window : AnomalyWindow R) :
    List (AnomalyWindow R) :=
  (windows.filter fun w => decide (w.id ≠ window.id)) ++ [window]

/-- Saving a window with a new id. -/
theorem saveWindow_of_fresh {windows : List (AnomalyWindow R)} {window : AnomalyWindow R}
    (h : ∀ w ∈ windows, w.id ≠ window.id) : saveWindow windows window = windows ++ [window] := by
  rw [saveWindow, List.filter_eq_self.2 fun w hw => decide_eq_true (h w hw)]

/-- A window that is saved twice is replaced. -/
theorem saveWindow_saveWindow {windows : List (AnomalyWindow R)} {w w' : AnomalyWindow R}
    (h : w.id = w'.id) : saveWindow (saveWindow windows w) w' = saveWindow windows w' := by
  simp [saveWindow, List.filter_append, List.filter_filter, h]

/-- A started server: the repository of containers has an example. -/
def ServerState.init : ServerState R where
  containers := Table.empty.set "billing-api"
    ⟨"billing-api", "prod", "worker-01", "Running", true, .untrained⟩
  windows := []
  triageResults := []
  policies := []
  events := []

/-- The container is known. -/
def ServerState.isRegistered (s : ServerState R) (containerId : String) : Bool :=
  s.containers.entries.any fun e => decide (e.2.id = containerId)

end Stores

/-! ## The agent -/

/-- The outcome of an HTTP call of `RestTemplate`. -/
inductive HttpOutcome
  | reply (status : Nat)
  | exception
  deriving DecidableEq

/-- A reply of the 200s. -/
def HttpOutcome.acknowledged : HttpOutcome → Bool
  | .reply status => decide (200 ≤ status ∧ status < 300)
  | .exception => false

/-- `RestTemplate` throws for an error status and when there is no reply. -/
def HttpOutcome.call : HttpOutcome → Except Unit Unit
  | .reply status => if 400 ≤ status then .error () else .ok ()
  | .exception => .error ()

/-- The body of a request for a long dump. -/
structure LongDumpCommand where
  containerId : String
  durationSec : Int32
  reason : String
  deriving DecidableEq

/-- The body of a request to apply a policy. -/
structure PolicyCommand (R : Type) where
  containerId : String
  policyId : String
  type : PolicyType
  spec : JsonNode R

/-- `requestLongDump`: the command and the result. The handler for exceptions only logs. -/
def requestLongDump (containerId : String) (durationSec : Int32) (reason : String)
    (outcome : HttpOutcome) : LongDumpCommand × Except Unit Unit :=
  (⟨containerId, durationSec, reason⟩, tryCatch outcome.call fun _ => .ok ())

section Agent

variable {R : Type}

/-- The command for a policy; `uuid` replaces a blank id. -/
def policyCommand (p : Platform R) (containerId : String) (policy : Policy R) (uuid : String) :
    PolicyCommand R where
  containerId := if p.isBlank containerId then "unknown" else containerId
  policyId := if p.isBlank policy.id then uuid else policy.id
  type := policy.type
  spec := policy.spec

/-- `applyPolicy`: the command and the result. The handler for exceptions only logs. -/
def applyPolicy (p : Platform R) (containerId : String) (policy : Policy R) (uuid : String)
    (outcome : HttpOutcome) : PolicyCommand R × Except Unit Unit :=
  (policyCommand p containerId policy uuid, tryCatch outcome.call fun _ => .ok ())

end Agent

/-- No exception of the call gets past such a handler. -/
theorem tryCatch_call (outcome : HttpOutcome) :
    tryCatch outcome.call (fun _ => Except.ok ()) = Except.ok () := by
  cases outcome with
  | reply status =>
      rw [HttpOutcome.call]
      split
      · rfl
      · rfl
  | exception => rfl

/-! ## The pipeline -/

/-- What everything outside answers during a request. `scoreWindow` and `getChangeContext` are
`none` if the port throws. `now` gives the readings of the clock. -/
structure IngestEnv (R : Type) where
  scoreWindow : String → List R → Option (AnomalyScore R)
  getChangeContext : String → Int → Option (Option ChangeContext)
  llm : LlmEnv
  agentReply : HttpOutcome
  windowId : String
  triageId : String
  policyId : String
  commandId : String
  now : Nat → Int

/-- The end of a request: the repositories, the commands sent to the agent with their outcomes, and
the status of the response, `none` if the request throws. -/
structure Ingested (R : Type) where
  state : ServerState R
  sent : List (PolicyCommand R × HttpOutcome)
  response : Option String

section Pipeline

variable {R : Type}

/-- The namespace in a container id. -/
def namespaceOf (containerId : String) : String :=
  if containerId.toList.contains '/' then
    String.ofList (containerId.toList.takeWhile fun ch => decide (ch ≠ '/'))
  else "default"

/-- `ensureContainerRegistered`. -/
def ensureContainerRegistered (s : ServerState R) (containerId agentId : String) (now : Int) :
    ServerState R :=
  if s.isRegistered containerId then s
  else
    { s with
      containers := s.containers.set containerId
        ⟨containerId, namespaceOf containerId, agentId, "Running", true, .untrained⟩
      events := s.events ++
        [⟨containerId, now, .containerDiscovered (namespaceOf containerId) agentId⟩] }

/-- The window of a request before its triage. -/
def pendingWindow (payload : ShortWindowPayload) (windowId : String) (score : AnomalyScore R) :
    AnomalyWindow R :=
  let startMs := payload.windowStartTsNs / 1000000
  { id := windowId
    containerId := payload.containerId
    windowStart := startMs.toInt
    windowEnd := (startMs + 5000).toInt
    mlScore := score.score
    anomalous := score.anomalous
    triageStatus := .pending
    triageResultId := none }

/-- The change context that the triage sees: the one of the port with the summary of the window
attached, or a minimal one. -/
def triageContext (payload : ShortWindowPayload) (found : Option ChangeContext)
    (syscallSummary : String) : ChangeContext :=
  match found with
  | some context =>
      { context with
        diffSummary := some (context.diffSummary.getD "" ++ "\n\nSYSCALL_WINDOW_SUMMARY:\n" ++
          syscallSummary) }
  | none =>
      { containerId := payload.containerId
        commitId := "unknown"
        repoUrl := "unknown"
        changedFiles := some []
        diffSummary := some ("SYSCALL_WINDOW_SUMMARY:\n" ++ syscallSummary)
        deployedAt := none }

/-- The window after its triage. -/
def triagedWindow (p : Platform R) (window : AnomalyWindow R) (triageResult : TriageResult R) :
    AnomalyWindow R :=
  { window with
    triageStatus := statusOf p triageResult.verdict
    triageResultId := some triageResult.id }

/-- The text of the response. -/
def responseStatus (score : AnomalyScore R) : String :=
  if score.anomalous then "anomalous" else "accepted"

end Pipeline

section Ingest

variable {R : Type} [Field R] [LinearOrder R]

/-- `AgentWindowController`: the library functions, the logarithm of the feature extractor and the
order in which the summarizer sees its counters. -/
structure Controller (R : Type) where
  platform : Platform R
  log : R → R
  entrySet : Table Int32 Nat → List (Int32 × Nat)

namespace Controller

variable (ctl : Controller R)

/-- The change context for a window; an exception of the port counts as null. -/
def contextFor (env : IngestEnv R) (payload : ShortWindowPayload) (window : AnomalyWindow R) :
    Option ChangeContext :=
  (env.getChangeContext payload.containerId (window.windowStart - 1800 * 1000)).getD none

/-- The triage of a window. -/
def triageWindow (env : IngestEnv R) (payload : ShortWindowPayload) (window : AnomalyWindow R) :
    Option (TriageResult R) :=
  triage ctl.platform env.llm env.triageId window
    (some (triageContext payload (contextFor env payload window)
      (summarize ctl.entrySet payload.records)))

/-- `ingestWindow` from the generation of the policy on. -/
def enforce (env : IngestEnv R) (payload : ShortWindowPayload) (s : ServerState R)
    (window : AnomalyWindow R) (triageResult : TriageResult R) (response : String) : Ingested R :=
  match generatePolicy ctl.platform env.policyId (env.now 2) window triageResult with
  | none => ⟨s, [], some response⟩
  | some policy =>
      -- The policy is stored as applied, and the event sent, before the agent is asked.
      let applied := { policy with appliedAt := env.now 3, status := .applied }
      let stored := { s with
        policies := s.policies ++ [applied]
        events := s.events ++ [⟨payload.containerId, env.now 4,
          .policyApplied applied.id applied.type applied.status⟩] }
      let command :=
        applyPolicy ctl.platform payload.containerId applied env.commandId env.agentReply
      match command.2 with
      | .ok _ => ⟨stored, [(command.1, env.agentReply)], some response⟩
      | .error _ => ⟨stored, [(command.1, env.agentReply)], none⟩

/-- `ingestWindow`. -/
def ingestWindow (env : IngestEnv R) (payload : ShortWindowPayload) (s : ServerState R) :
    Ingested R :=
  let registered :=
    ensureContainerRegistered s payload.containerId payload.agentId (env.now 0)
  match env.scoreWindow payload.containerId (extract ctl.log payload) with
  | none => ⟨registered, [], none⟩
  | some score =>
      -- The window is stored before its triage: a triage that throws leaves it pending.
      let window := pendingWindow payload env.windowId score
      let scored := { registered with
        windows := saveWindow registered.windows window
        events := registered.events ++ [⟨payload.containerId, window.windowEnd,
          .windowScored score.score score.anomalous (payload.records.getD []).length⟩] }
      match ctl.triageWindow env payload window with
      | none => ⟨scored, [], none⟩
      | some triageResult =>
          let triaged := { scored with
            triageResults := scored.triageResults ++ [triageResult]
            windows := saveWindow scored.windows (triagedWindow ctl.platform window triageResult)
            events := scored.events ++ [⟨payload.containerId, env.now 1,
              .triageResult triageResult.verdict triageResult.riskScore
                triageResult.explanation⟩] }
          ctl.enforce env payload triaged window triageResult (responseStatus score)

/-! ## What a request does -/

variable {ctl}

/-- The applied policy of a request with a triage result. -/
def appliedPolicy (ctl : Controller R) (env : IngestEnv R) (window : AnomalyWindow R)
    (triageResult : TriageResult R) : Option (Policy R) :=
  (generatePolicy ctl.platform env.policyId (env.now 2) window triageResult).map fun policy =>
    { policy with appliedAt := env.now 3, status := .applied }

/-- The events of the registration of a container. -/
def discoveryEvents (env : IngestEnv R) (payload : ShortWindowPayload) (s : ServerState R) :
    List (LiveEvent R) :=
  if s.isRegistered payload.containerId then []
  else [⟨payload.containerId, env.now 0,
    .containerDiscovered (namespaceOf payload.containerId) payload.agentId⟩]

/-- The event of a scored window. -/
def scoredEvent (payload : ShortWindowPayload) (window : AnomalyWindow R) : LiveEvent R :=
  ⟨payload.containerId, window.windowEnd,
    .windowScored window.mlScore window.anomalous (payload.records.getD []).length⟩

/-- The event of a triage. -/
def triageEvent (env : IngestEnv R) (payload : ShortWindowPayload)
    (triageResult : TriageResult R) : LiveEvent R :=
  ⟨payload.containerId, env.now 1,
    .triageResult triageResult.verdict triageResult.riskScore triageResult.explanation⟩

/-- The event of an applied policy. -/
def policyEvent (env : IngestEnv R) (payload : ShortWindowPayload) (policy : Policy R) :
    LiveEvent R :=
  ⟨payload.containerId, env.now 4, .policyApplied policy.id policy.type policy.status⟩

section Cases

variable {env : IngestEnv R} {payload : ShortWindowPayload} {s : ServerState R}

omit [Field R] [LinearOrder R] in
theorem events_ensureContainerRegistered (env : IngestEnv R) (payload : ShortWindowPayload)
    (s : ServerState R) :
    (ensureContainerRegistered s payload.containerId payload.agentId (env.now 0)).events =
      s.events ++ discoveryEvents env payload s := by
  rw [ensureContainerRegistered, discoveryEvents]
  split
  · rw [List.append_nil]
  · rfl

omit [Field R] [LinearOrder R] in
theorem ensureContainerRegistered_rows (containerId agentId : String) (now : Int) :
    (ensureContainerRegistered s containerId agentId now).windows = s.windows ∧
      (ensureContainerRegistered s containerId agentId now).triageResults = s.triageResults ∧
      (ensureContainerRegistered s containerId agentId now).policies = s.policies := by
  rw [ensureContainerRegistered]
  split
  · exact ⟨rfl, rfl, rfl⟩
  · exact ⟨rfl, rfl, rfl⟩

/-- A request whose scorer throws stores no row. -/
theorem ingestWindow_of_no_score
    (hscore : env.scoreWindow payload.containerId (extract ctl.log payload) = none) :
    ctl.ingestWindow env payload s =
      ⟨ensureContainerRegistered s payload.containerId payload.agentId (env.now 0), [], none⟩ := by
  rw [ingestWindow]
  simp only [hscore]

/-- The rows that a request has stored when its triage throws. -/
structure Aborted (s : ServerState R) (window : AnomalyWindow R) (result : Ingested R) : Prop where
  windows : result.state.windows = saveWindow s.windows window
  triageResults : result.state.triageResults = s.triageResults
  policies : result.state.policies = s.policies
  sent : result.sent = []
  response : result.response = none

theorem ingestWindow_of_no_triage {score : AnomalyScore R}
    (hscore : env.scoreWindow payload.containerId (extract ctl.log payload) = some score)
    (htriage : ctl.triageWindow env payload (pendingWindow payload env.windowId score) = none) :
    Aborted s (pendingWindow payload env.windowId score) (ctl.ingestWindow env payload s) := by
  obtain ⟨hwindows, hresults, hpolicies⟩ :=
    ensureContainerRegistered_rows (s := s) payload.containerId payload.agentId (env.now 0)
  rw [ingestWindow]
  simp only [hscore, htriage]
  exact ⟨by rw [hwindows], hresults, hpolicies, rfl, rfl⟩

/-- Everything a request does when its triage gives a result. -/
structure Completed (ctl : Controller R) (env : IngestEnv R) (payload : ShortWindowPayload)
    (s : ServerState R) (window : AnomalyWindow R) (triageResult : TriageResult R)
    (result : Ingested R) : Prop where
  windows : result.state.windows =
    saveWindow s.windows (triagedWindow ctl.platform window triageResult)
  triageResults : result.state.triageResults = s.triageResults ++ [triageResult]
  policies : result.state.policies =
    s.policies ++ (ctl.appliedPolicy env window triageResult).toList
  events : result.state.events = s.events ++ (discoveryEvents env payload s ++
    [scoredEvent payload window, triageEvent env payload triageResult] ++
    ((ctl.appliedPolicy env window triageResult).map (policyEvent env payload)).toList)
  sent : result.sent = ((ctl.appliedPolicy env window triageResult).map fun policy =>
    (policyCommand ctl.platform payload.containerId policy env.commandId, env.agentReply)).toList
  response : result.response.isSome

omit [Field R] [LinearOrder R] in
/-- What a triage result brings about after it is stored; the agent's answer does not matter. -/
theorem enforce_eq (window : AnomalyWindow R) (triageResult : TriageResult R) (response : String) :
    ctl.enforce env payload s window triageResult response =
      { state := { s with
          policies := s.policies ++ (ctl.appliedPolicy env window triageResult).toList
          events := s.events ++
            ((ctl.appliedPolicy env window triageResult).map (policyEvent env payload)).toList }
        sent := ((ctl.appliedPolicy env window triageResult).map fun policy =>
          (policyCommand ctl.platform payload.containerId policy env.commandId,
            env.agentReply)).toList
        response := some response } := by
  rw [enforce, appliedPolicy]
  cases generatePolicy ctl.platform env.policyId (env.now 2) window triageResult with
  | none =>
      simp only [Option.map_none, Option.toList_none, List.append_nil]
  | some policy =>
      -- The handler in the adapter turns every outcome of the call into a normal return.
      simp only [applyPolicy, tryCatch_call]
      rfl

theorem ingestWindow_of_triage {score : AnomalyScore R}
    (hscore : env.scoreWindow payload.containerId (extract ctl.log payload) = some score)
    {triageResult : TriageResult R}
    (htriage : ctl.triageWindow env payload (pendingWindow payload env.windowId score) =
      some triageResult) :
    Completed ctl env payload s (pendingWindow payload env.windowId score) triageResult
      (ctl.ingestWindow env payload s) := by
  obtain ⟨hwindows, hresults, hpolicies⟩ :=
    ensureContainerRegistered_rows (s := s) payload.containerId payload.agentId (env.now 0)
  have hevents := events_ensureContainerRegistered env payload s
  rw [ingestWindow]
  simp only [hscore, htriage, enforce_eq]
  constructor
  · -- The triaged window has the id of the pending one and takes its place.
    have hid : (pendingWindow payload env.windowId score).id = (triagedWindow ctl.platform
        (pendingWindow payload env.windowId score) triageResult).id := rfl
    simp only [hwindows, saveWindow_saveWindow hid]
  · simp only [hresults]
  · simp only [hpolicies]
  · simp only [hevents, List.append_assoc]
    rfl
  · rfl
  · rfl

/-- A request returns exactly when the scorer and the triage do. -/
theorem response_isSome_iff :
    (ctl.ingestWindow env payload s).response.isSome ↔
      ∃ score triageResult,
        env.scoreWindow payload.containerId (extract ctl.log payload) = some score ∧
          ctl.triageWindow env payload (pendingWindow payload env.windowId score) =
            some triageResult := by
  cases hscore : env.scoreWindow payload.containerId (extract ctl.log payload) with
  | none =>
      rw [ingestWindow_of_no_score hscore]
      simp
  | some score =>
      cases htriage : ctl.triageWindow env payload (pendingWindow payload env.windowId score) with
      | none =>
          rw [(ingestWindow_of_no_triage hscore htriage).response]
          simp [htriage]
      | some triageResult =>
          rw [(ingestWindow_of_triage hscore htriage).response]
          simp [htriage]

theorem isSome_triageWindow (ctl : Controller R) {window : AnomalyWindow R}
    (hfiles : ∀ context, contextFor env payload window = some context →
      context.deployedAt.isSome → context.changedFiles.isSome) :
    (ctl.triageWindow env payload window).isSome := by
  apply isSome_triage
  intro context hcontext hdeployed
  obtain rfl := Option.some.inj hcontext
  cases hfound : contextFor env payload window with
  | none => rfl
  | some found =>
      rw [hfound] at hdeployed
      exact hfiles found hfound hdeployed

/-- A request returns if the scorer does and the files of a deployment can be joined. -/
theorem isSome_response_of_score {score : AnomalyScore R}
    (hscore : env.scoreWindow payload.containerId (extract ctl.log payload) = some score)
    (hfiles : ∀ context,
      contextFor env payload (pendingWindow payload env.windowId score) = some context →
        context.deployedAt.isSome → context.changedFiles.isSome) :
    (ctl.ingestWindow env payload s).response.isSome := by
  obtain ⟨triageResult, htriage⟩ :=
    Option.isSome_iff_exists.1 (isSome_triageWindow ctl hfiles)
  exact response_isSome_iff.2 ⟨score, triageResult, hscore, htriage⟩

omit [Field R] [LinearOrder R] in
/-- A policy is applied exactly when the verdict is a threat. -/
theorem appliedPolicy_eq (ctl : Controller R) (env : IngestEnv R) (window : AnomalyWindow R)
    (triageResult : TriageResult R) :
    (isThreat ctl.platform triageResult.verdict = false ∧
        ctl.appliedPolicy env window triageResult = none) ∨
      isThreat ctl.platform triageResult.verdict = true ∧
        ∃ policy, ctl.appliedPolicy env window triageResult = some policy ∧
          policy.containerId = window.containerId ∧ policy.status = .applied := by
  rw [appliedPolicy, generatePolicy]
  cases isThreat ctl.platform triageResult.verdict with
  | false => exact Or.inl ⟨rfl, rfl⟩
  | true => exact Or.inr ⟨rfl, _, rfl, rfl, rfl⟩

end Cases

/-- A request saves its window, once or twice, exactly when the scorer returns. -/
theorem windows_cases (ctl : Controller R) (env : IngestEnv R) (payload : ShortWindowPayload)
    (s : ServerState R) :
    (env.scoreWindow payload.containerId (extract ctl.log payload) = none ∧
        (ctl.ingestWindow env payload s).state.windows = s.windows) ∨
      (env.scoreWindow payload.containerId (extract ctl.log payload)).isSome ∧
        ∃ window, window.id = env.windowId ∧
          (ctl.ingestWindow env payload s).state.windows = saveWindow s.windows window := by
  cases hscore : env.scoreWindow payload.containerId (extract ctl.log payload) with
  | none =>
      refine Or.inl ⟨rfl, ?_⟩
      rw [ingestWindow_of_no_score hscore]
      exact (ensureContainerRegistered_rows _ _ _).1
  | some score =>
      refine Or.inr ⟨rfl, ?_⟩
      cases htriage : ctl.triageWindow env payload (pendingWindow payload env.windowId score) with
      | none => exact ⟨_, rfl, (ingestWindow_of_no_triage hscore htriage).windows⟩
      | some triageResult => exact ⟨_, rfl, (ingestWindow_of_triage hscore htriage).windows⟩

/-! ## Threats -/

/-- The window is scored and triaged as a threat. -/
def TriagedAsThreat (ctl : Controller R) (env : IngestEnv R) (payload : ShortWindowPayload) :
    Prop :=
  ∃ score triageResult,
    env.scoreWindow payload.containerId (extract ctl.log payload) = some score ∧
      ctl.triageWindow env payload (pendingWindow payload env.windowId score) =
        some triageResult ∧
      isThreat ctl.platform triageResult.verdict = true

/-- The request neither stores nor sends a policy. -/
def LeavesPolicies (ctl : Controller R) (env : IngestEnv R) (payload : ShortWindowPayload)
    (s : ServerState R) : Prop :=
  (ctl.ingestWindow env payload s).state.policies = s.policies ∧
    (ctl.ingestWindow env payload s).sent = []

/-- The request stores a policy of its container as applied and sends it to the agent. -/
def StoresAndSends (ctl : Controller R) (env : IngestEnv R) (payload : ShortWindowPayload)
    (s : ServerState R) (policy : Policy R) : Prop :=
  (ctl.ingestWindow env payload s).state.policies = s.policies ++ [policy] ∧
    policy.containerId = payload.containerId ∧ policy.status = .applied ∧
    (ctl.ingestWindow env payload s).sent =
      [(policyCommand ctl.platform payload.containerId policy env.commandId, env.agentReply)]

/-- A request stores and sends a policy if it triages its window as a threat, and otherwise leaves
the policies alone, even if it throws. -/
theorem policies_cases (ctl : Controller R) (env : IngestEnv R) (payload : ShortWindowPayload)
    (s : ServerState R) :
    (¬ ctl.TriagedAsThreat env payload ∧ ctl.LeavesPolicies env payload s) ∨
      ctl.TriagedAsThreat env payload ∧ ∃ policy, ctl.StoresAndSends env payload s policy := by
  cases hscore : env.scoreWindow payload.containerId (extract ctl.log payload) with
  | none =>
      -- the scoring throws, after the container was registered
      refine Or.inl ⟨?_, ?_⟩
      · rintro ⟨score, triageResult, hsome, -⟩
        rw [hscore] at hsome
        cases hsome
      · rw [LeavesPolicies, ingestWindow_of_no_score hscore]
        exact ⟨(ensureContainerRegistered_rows _ _ _).2.2, rfl⟩
  | some score =>
      have honly : ∀ score', env.scoreWindow payload.containerId (extract ctl.log payload) =
          some score' → score' = score := fun score' h => Option.some.inj (h.symm.trans hscore)
      cases htriage : ctl.triageWindow env payload (pendingWindow payload env.windowId score) with
      | none =>
          -- the triage throws
          have hresult := ingestWindow_of_no_triage (s := s) hscore htriage
          refine Or.inl ⟨?_, hresult.policies, hresult.sent⟩
          rintro ⟨score', triageResult, hsome, htriage', -⟩
          rw [honly score' hsome, htriage] at htriage'
          cases htriage'
      | some triageResult =>
          have hresult := ingestWindow_of_triage (s := s) hscore htriage
          rcases appliedPolicy_eq ctl env (pendingWindow payload env.windowId score)
              triageResult with ⟨hnot, hnone⟩ | ⟨hyes, policy, hsome, hcontainer, hstatus⟩
          · -- The score and the triage result of a threat could only be these.
            refine Or.inl ⟨?_, ?_, ?_⟩
            · rintro ⟨score', triageResult', hscore', htriage', hthreat⟩
              rw [honly score' hscore', htriage] at htriage'
              rw [← Option.some.inj htriage', hnot] at hthreat
              cases hthreat
            · rw [hresult.policies, hnone]
              exact List.append_nil _
            · rw [hresult.sent, hnone]
              rfl
          · refine Or.inr ⟨⟨score, triageResult, hscore, htriage, hyes⟩, policy, ?_, hcontainer,
              hstatus, ?_⟩
            · rw [hresult.policies, hsome]
              rfl
            · rw [hresult.sent, hsome]
              rfl

end Controller

end Ingest

/-! ## An example -/

/-- Library functions on ASCII text. The parser of JSON accepts nothing; scores are printed as the
one of the example. -/
def examplePlatform : Platform ℚ where
  toUpperCase := Char.toUpper
  toLowerCase := Char.toLower
  upperString := fun s => String.ofList (s.toList.map Char.toUpper)
  isWhitespace := Char.isWhitespace
  format := fun _ => "0.70"
  parseDouble := fun _ => none
  readTree := fun _ => .error "No content to map due to end-of-input"
  toJson := fun _ => ""

def exampleController : Controller ℚ := ⟨examplePlatform, id, Table.entries⟩

/-- An environment without language model, change context and clock, with the given score. -/
def exampleEnv (score : AnomalyScore ℚ) (windowId triageId policyId : String)
    (agentReply : HttpOutcome) : IngestEnv ℚ where
  scoreWindow := fun _ _ => some score
  getChangeContext := fun _ _ => some none
  llm := ⟨false, none, none, none⟩
  agentReply := agentReply
  windowId := windowId
  triageId := triageId
  policyId := policyId
  commandId := policyId
  now := fun _ => 0

end DeepKernel.Server
