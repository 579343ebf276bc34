import DeepKernel.Server.Interleaving

/-!
# The container table of the user interface

`ContainerViewService` builds a row of the table from four repositories that it reads one after the
other, while requests are under way that write to them. Here the controllers are taken apart at
their saves: a request that has stored its pending window becomes a `Ticket`, and every further move
makes one of its saves. Moves of different requests, of the demonstration endpoints and of the
administration endpoints come in any order.

A row shows the window that is the latest one when the windows are read, and the result that the
window refers to is stored by then, since a result is saved before its window (`view_coherent`).
-/

set_option autoImplicit false

namespace DeepKernel.Server

open DeepKernel.Lib

/-! ## Rows of the table -/

section Views

variable {R : Type}

/-- `UiContainerView`. -/
structure UiContainerView (R : Type) where
  id : String
  namespaceName : String
  node : String
  status : String
  agentConnected : Bool
  modelStatus : ModelStatus
  lastVerdict : Option TriageStatus
  lastScore : Option R
  lastExplanation : Option String
  lastDeploy : Option String
  policyStatus : Option PolicyStatus
  policyType : Option PolicyType

/-- `TriageResultRepository.latestForWindow`. -/
def latestForWindow (s : ServerState R) (windowId : String) : Option (TriageResult R) :=
  (s.triageResults.filter fun r => decide (r.windowId = windowId)).getLast?

/-- `PolicyRepository.latest`. -/
def latestPolicy (s : ServerState R) (containerId : String) : Option (Policy R) :=
  (s.policies.filter fun p => decide (p.containerId = containerId)).getLast?

/-- `ContainerViewService.map`. The windows, the policies and the triage results are read in this
order; each of the three reads has its own state of the repositories. -/
def mapContainer (c : Container) (found : Option ModelMeta)
    (atWindow atPolicy atTriage : ServerState R) : UiContainerView R :=
  let window := latestWindow atWindow c.id
  let policy := latestPolicy atPolicy c.id
  let triageResult := window.bind fun w => latestForWindow atTriage w.id
  { id := c.id
    namespaceName := c.namespaceName
    node := c.node
    status := c.status
    agentConnected := c.agentConnected
    modelStatus := (found.map ModelMeta.status).getD c.modelStatus
    lastVerdict := window.map AnomalyWindow.triageStatus
    lastScore := window.map AnomalyWindow.mlScore
    lastExplanation := triageResult.map TriageResult.explanation
    lastDeploy := none
    policyStatus := policy.map Policy.status
    policyType := policy.map Policy.type }

end Views

/-! ## Requests under way -/

/-- What a request has to store after its pending window: the triage result, the triaged window with
its event, and the policy with its event. -/
structure Ticket (R : Type) where
  window : AnomalyWindow R
  result : TriageResult R
  triageEvent : LiveEvent R
  policy : Option (Policy R × LiveEvent R)
  windowId : result.windowId = window.id

/-- What a request has stored so far: the pending window, then the triage result, then the triaged
window. -/
inductive Phase
  | scored
  | stored
  | settled
  deriving DecidableEq

/-- The repositories, and the requests under way by the ids of their windows. -/
structure Desk (R : Type) where
  stores : ServerState R
  inFlight : Table String (Ticket R × Phase)

/-- The body of `POST /api/ui/demo/triage` with its defaults filled in, and what the request draws
and reads: the ids, the clock and the language model. -/
structure DemoTriage (R : Type) where
  containerId : String
  mlScore : R
  anomalous : Bool
  syscallSummary : String
  diffSummary : String
  changedFiles : List String
  commitId : String
  repoUrl : String
  llm : LlmEnv
  windowId : String
  triageId : String
  now : Nat → Int

/-- The body of `POST /api/demo/policies`, and the clock of the request in milliseconds. -/
structure DemoPolicy where
  containerId : Option String
  type : Option String
  status : Option String
  now : Nat → Int

/-- A move of the server: a request arrives, the request of a window makes its next save, or one of
the endpoints of the demonstration and of the administration is called. A pattern that does not
compile is `none`. -/
inductive Move (R : Type)
  | ingest (req : IngestRequest R)
  | demoTriage (demo : DemoTriage R)
  | advance (windowId : String)
  | createDemoPolicy (request : DemoPolicy)
  | deleteContainer (id : String)
  | deleteContainersByPattern (pattern : Option (String → Bool))
  | clearAllContainers
  | clearAllEvents

section Demo

variable {R : Type}

/-- The window that the demonstration makes up. -/
def DemoTriage.window (demo : DemoTriage R) : AnomalyWindow R where
  id := demo.windowId
  containerId := demo.containerId
  windowStart := demo.now 0 - 5000
  windowEnd := demo.now 1
  mlScore := demo.mlScore
  anomalous := demo.anomalous
  triageStatus := .pending
  triageResultId := none

/-- The change context of the demonstration. -/
def DemoTriage.context (demo : DemoTriage R) : ChangeContext where
  containerId := demo.containerId
  commitId := demo.commitId
  repoUrl := demo.repoUrl
  changedFiles := some demo.changedFiles
  diffSummary := some (demo.diffSummary ++ "\n\nSYSCALL_WINDOW_SUMMARY:\n" ++ demo.syscallSummary)
  deployedAt := some (demo.now 2)

/-- `PolicyType.valueOf`, with the default of the endpoint. -/
def policyTypeOf (text : String) : PolicyType :=
  if text = "APPARMOR" then .apparmor
  else if text = "NETWORK_POLICY" then .networkPolicy
  else .seccomp

/-- `PolicyStatus.valueOf`, with the default of the endpoint. -/
def policyStatusOf (text : String) : PolicyStatus :=
  if text = "APPLIED" then .applied
  else if text = "FAILED" then .failed
  else .pending

/-- The policy of `createDemoPolicy`. -/
def DemoPolicy.policy (request : DemoPolicy) : Policy R :=
  let containerId := request.containerId.getD "demo-container"
  { id := "policy-" ++ toString (request.now 0)
    containerId := containerId
    type := policyTypeOf (request.type.getD "SECCOMP")
    spec := .object
      [("action", .text "SCMP_ACT_ERRNO"), ("syscalls", .array [.text "connect"]),
        ("reason", .text "Anomalous connect() calls detected - possible data exfiltration"),
        ("profilePath", .text ("/var/lib/deepkernel/policies/policy-" ++ containerId ++ ".json"))]
    appliedAt := request.now 1
    node := some "node-1"
    status := policyStatusOf (request.status.getD "PENDING") }

/-- The id that an arriving request draws for its window. -/
def Move.windowId : Move R → Option String
  | .ingest req => some req.env.windowId
  | .demoTriage demo => some demo.windowId
  | _ => none

end Demo

/-! ## Moves -/

section Moves

variable {R : Type}

/-- The next save of a request. -/
def Ticket.save (p : Platform R) (t : Ticket R) (s : ServerState R) : Phase → ServerState R
  | .scored => { s with triageResults := s.triageResults ++ [t.result] }
  | .stored =>
      { s with
        windows := saveWindow s.windows (triagedWindow p t.window t.result)
        events := s.events ++ [t.triageEvent] }
  | .settled =>
      { s with
        policies := s.policies ++ (t.policy.map Prod.fst).toList
        events := s.events ++ (t.policy.map Prod.snd).toList }

/-- The request of a window makes its next save; after the last one it is done. -/
def Desk.advance (p : Platform R) (d : Desk R) (windowId : String) : Desk R :=
  match d.inFlight.find? windowId with
  | none => d
  | some (t, .scored) => ⟨t.save p d.stores .scored, d.inFlight.set windowId (t, .stored)⟩
  | some (t, .stored) => ⟨t.save p d.stores .stored, d.inFlight.set windowId (t, .settled)⟩
  | some (t, .settled) => ⟨t.save p d.stores .settled, d.inFlight.erase windowId⟩

/-- A started server. -/
def Desk.init : Desk R := ⟨.init, Table.empty⟩

/-- A request has saved its pending window; one whose triage throws is over. -/
def Desk.arrive (d : Desk R) (stores : ServerState R) (windowId : String)
    (ticket : Option (Ticket R)) : Desk R :=
  ⟨stores, (ticket.map fun t => d.inFlight.set windowId (t, .scored)).getD d.inFlight⟩

variable [Field R] [LinearOrder R]

/-- The ticket of a triage that returns. -/
def ticketOf (p : Platform R) (llm : LlmEnv) (uuid : String) (window : AnomalyWindow R)
    (changeContext : Option ChangeContext) (event : TriageResult R → LiveEvent R)
    (policy : TriageResult R → Option (Policy R × LiveEvent R)) : Option (Ticket R) :=
  match h : triage p llm uuid window changeContext with
  | none => none
  | some result => some ⟨window, result, event result, policy result, (ids_of_triage h).2⟩

namespace Controller

variable (ctl : Controller R)

/-- The ticket of a window that an agent sent. -/
def ingestTicket (req : IngestRequest R) : Option (Ticket R) :=
  (req.env.scoreWindow req.payload.containerId (extract ctl.log req.payload)).bind fun score =>
    let window := pendingWindow req.payload req.env.windowId score
    ticketOf ctl.platform req.env.llm req.env.triageId window
      (some (triageContext req.payload (contextFor req.env req.payload window)
        (summarize ctl.entrySet req.payload.records)))
      (triageEvent req.env req.payload) fun result =>
        (ctl.appliedPolicy req.env window result).map fun policy =>
          (policy, policyEvent req.env req.payload policy)

/-- The ticket of a demonstration, which generates no policy. -/
def demoTicket (demo : DemoTriage R) : Option (Ticket R) :=
  ticketOf ctl.platform demo.llm demo.triageId demo.window (some demo.context)
    (fun result => ⟨demo.containerId, demo.now 3,
      .triageResult result.verdict result.riskScore result.explanation⟩) fun _ => none

/-- One move. -/
def move (d : Desk R) : Move R → Desk R
  | .ingest req =>
      d.arrive (ctl.beginIngest req.env req.payload d.stores) req.env.windowId
        (ctl.ingestTicket req)
  | .demoTriage demo =>
      d.arrive { d.stores with windows := saveWindow d.stores.windows demo.window } demo.windowId
        (ctl.demoTicket demo)
  | .advance windowId => d.advance ctl.platform windowId
  | .createDemoPolicy request =>
      { d with stores := { d.stores with policies := d.stores.policies ++ [request.policy] } }
  | .deleteContainer id =>
      { d with stores := { d.stores with containers := d.stores.containers.erase id } }
  | .deleteContainersByPattern pattern =>
      match pattern with
      | none => d
      | some selects =>
          { d with stores := { d.stores with
              containers := d.stores.containers.filter fun id _ => !selects id } }
  | .clearAllContainers => { d with stores := { d.stores with containers := Table.empty } }
  | .clearAllEvents => { d with stores := { d.stores with events := [] } }

/-- The server after some moves. -/
abbrev deskAfter (moves : List (Move R)) : Desk R := moves.foldl ctl.move .init

end Controller

/-! ## What the saves keep in order -/

/-- What every server keeps, where `used` are the ids drawn so far: a triaged window has its result
in the repository, no window has two results, and a request under way has stored its result exactly
if its phase says so. -/
structure DeskInv (p : Platform R) (used : List String) (d : Desk R) : Prop where
  results_used : ∀ r ∈ d.stores.triageResults, r.windowId ∈ used
  inFlight_used : ∀ k e, d.inFlight.find? k = some e → k ∈ used
  nodup : (d.stores.triageResults.map TriageResult.windowId).Nodup
  rows : ∀ w ∈ d.stores.windows, w.triageStatus ≠ .pending → ∃ r ∈ d.stores.triageResults,
    r.windowId = w.id ∧ w.triageResultId = some r.id ∧ w.triageStatus = statusOf p r.verdict
  keys : ∀ k t ph, d.inFlight.find? k = some (t, ph) → t.window.id = k
  scored : ∀ k t, d.inFlight.find? k = some (t, .scored) →
    ∀ r ∈ d.stores.triageResults, r.windowId ≠ k
  stored : ∀ k t, d.inFlight.find? k = some (t, .stored) → t.result ∈ d.stores.triageResults

section Invariant

omit [Field R] [LinearOrder R]

variable {p : Platform R} {used : List String} {d : Desk R}

theorem deskInv_init : DeskInv p [] (.init : Desk R) where
  results_used := fun _ hr => nomatch hr
  inFlight_used := fun _ _ h => nomatch h
  nodup := List.nodup_nil
  rows := fun _ hw => nomatch hw
  keys := fun _ _ _ h => nomatch h
  scored := fun _ _ h => nomatch h
  stored := fun _ _ h => nomatch h

theorem mem_saveWindow {windows : List (AnomalyWindow R)} {window w : AnomalyWindow R}
    (h : w ∈ saveWindow windows window) : w ∈ windows ∨ w = window := by
  rcases List.mem_append.1 h with h | h
  · exact Or.inl (List.mem_of_mem_filter h)
  · exact Or.inr (List.mem_singleton.1 h)

/-- A move that saves no window and no result, and that moves no request. -/
theorem DeskInv.of_stores (h : DeskInv p used d) {s : ServerState R}
    (hwindows : s.windows = d.stores.windows)
    (hresults : s.triageResults = d.stores.triageResults) : DeskInv p used { d with stores := s } where
  results_used := by simpa only [hresults] using h.results_used
  inFlight_used := h.inFlight_used
  nodup := by simpa only [hresults] using h.nodup
  rows := by simpa only [hwindows, hresults] using h.rows
  keys := h.keys
  scored := by simpa only [hresults] using h.scored
  stored := by simpa only [hresults] using h.stored

/-- A request arrives with a new id and saves at most a pending window. -/
theorem DeskInv.arrive (h : DeskInv p used d) {s : ServerState R} {windowId : String}
    (hfresh : windowId ∉ used)
    (hwindows : ∀ w ∈ s.windows, w ∈ d.stores.windows ∨ w.triageStatus = .pending)
    (hresults : s.triageResults = d.stores.triageResults) {ticket : Option (Ticket R)}
    (hticket : ∀ t, ticket = some t → t.window.id = windowId) :
    DeskInv p (used ++ [windowId]) (d.arrive s windowId ticket) := by
  -- an entry of the table is an old one or the new request
  have hentry : ∀ k e, (d.arrive s windowId ticket).inFlight.find? k = some e →
      d.inFlight.find? k = some e ∨
        ∃ t, ticket = some t ∧ k = windowId ∧ e = (t, .scored) := by
    intro k e he
    cases ticket with
    | none => exact Or.inl he
    | some t =>
        have hfind : (d.inFlight.set windowId (t, .scored)).find? k = some e := he
        rw [Table.find?_set] at hfind
        by_cases hk : k = windowId
        · rw [if_pos hk] at hfind
          exact Or.inr ⟨t, rfl, hk, (Option.some.inj hfind).symm⟩
        · rw [if_neg hk] at hfind
          exact Or.inl hfind
  have hstores : (d.arrive s windowId ticket).stores = s := rfl
  constructor
  · intro r hr
    rw [hstores, hresults] at hr
    exact List.mem_append_left _ (h.results_used r hr)
  · intro k e he
    rcases hentry k e he with hold | ⟨t, -, rfl, -⟩
    · exact List.mem_append_left _ (h.inFlight_used k e hold)
    · simp
  · rw [hstores, hresults]
    exact h.nodup
  · intro w hw hstatus
    rcases hwindows w hw with hold | hpending
    · rw [hstores, hresults]
      exact h.rows w hold hstatus
    · exact absurd hpending hstatus
  · intro k t ph he
    rcases hentry k _ he with hold | ⟨t', ht', rfl, he'⟩
    · exact h.keys k t ph hold
    · obtain ⟨rfl, -⟩ := Prod.mk.inj he'
      exact hticket t ht'
  · intro k t he r hr
    rw [hstores, hresults] at hr
    rcases hentry k _ he with hold | ⟨t', -, rfl, -⟩
    · exact h.scored k t hold r hr
    · rintro rfl
      exact hfresh (h.results_used r hr)
  · intro k t he
    rw [hstores, hresults]
    rcases hentry k _ he with hold | ⟨t', -, -, he'⟩
    · exact h.stored k t hold
    · cases (Prod.mk.inj he').2

/-- The entries of the table after a request has moved on to its next phase. -/
theorem find?_set_phase {inFlight : Table String (Ticket R × Phase)} {k k' : String}
    {t t' : Ticket R} {ph ph' : Phase}
    (h : (inFlight.set k (t, ph)).find? k' = some (t', ph')) :
    (k' = k ∧ t' = t ∧ ph' = ph) ∨ (k' ≠ k ∧ inFlight.find? k' = some (t', ph')) := by
  rw [Table.find?_set] at h
  by_cases hk : k' = k
  · rw [if_pos hk] at h
    obtain ⟨rfl, rfl⟩ := Prod.mk.inj (Option.some.inj h)
    exact Or.inl ⟨hk, rfl, rfl⟩
  · rw [if_neg hk] at h
    exact Or.inr ⟨hk, h⟩

/-- The request of a window stores its triage result. -/
theorem DeskInv.storeResult (h : DeskInv p used d) {k : String} {t : Ticket R}
    (hk : d.inFlight.find? k = some (t, .scored)) :
    DeskInv p used ⟨t.save p d.stores .scored, d.inFlight.set k (t, .stored)⟩ := by
  have hid : t.result.windowId = k := t.windowId.trans (h.keys k t _ hk)
  have hresults : (t.save p d.stores .scored).triageResults =
      d.stores.triageResults ++ [t.result] := rfl
  constructor
  · intro r hr
    rcases List.mem_append.1 hr with hr | hr
    · exact h.results_used r hr
    · rw [List.mem_singleton.1 hr, hid]
      exact h.inFlight_used k _ hk
  · intro k' e he
    obtain ⟨t', ph'⟩ := e
    rcases find?_set_phase he with ⟨rfl, -, -⟩ | ⟨-, hold⟩
    · exact h.inFlight_used k' _ hk
    · exact h.inFlight_used k' _ hold
  · -- the window had no result before
    have hnew : ∀ a, some t.result = some a → ∀ b ∈ d.stores.triageResults,
        b.windowId ≠ a.windowId := by
      intro a ha b hb
      obtain rfl := Option.some.inj ha
      rw [hid]
      exact h.scored k t hk b hb
    exact Table.nodup_append_toList h.nodup hnew
  · intro w hw hstatus
    obtain ⟨r, hr, hrow⟩ := h.rows w hw hstatus
    exact ⟨r, List.mem_append_left _ hr, hrow⟩
  · intro k' t' ph' he
    rcases find?_set_phase he with ⟨rfl, rfl, -⟩ | ⟨-, hold⟩
    · exact h.keys k' t' _ hk
    · exact h.keys k' t' ph' hold
  · intro k' t' he r hr
    rcases find?_set_phase he with ⟨-, -, hph⟩ | ⟨hne, hold⟩
    · cases hph
    · rcases List.mem_append.1 hr with hr | hr
      · exact h.scored k' t' hold r hr
      · rw [List.mem_singleton.1 hr, hid]
        exact Ne.symm hne
  · intro k' t' he
    rw [hresults]
    rcases find?_set_phase he with ⟨-, rfl, -⟩ | ⟨-, hold⟩
    · simp
    · exact List.mem_append_left _ (h.stored k' t' hold)

/-- The request of a window replaces its pending window by the triaged one. -/
theorem DeskInv.settle (h : DeskInv p used d) {k : String} {t : Ticket R}
    (hk : d.inFlight.find? k = some (t, .stored)) :
    DeskInv p used ⟨t.save p d.stores .stored, d.inFlight.set k (t, .settled)⟩ := by
  have hresults : (t.save p d.stores .stored).triageResults = d.stores.triageResults := rfl
  constructor
  · exact h.results_used
  · intro k' e he
    obtain ⟨t', ph'⟩ := e
    rcases find?_set_phase he with ⟨rfl, -, -⟩ | ⟨-, hold⟩
    · exact h.inFlight_used k' _ hk
    · exact h.inFlight_used k' _ hold
  · exact h.nodup
  · intro w hw hstatus
    rw [hresults]
    rcases mem_saveWindow hw with hold | rfl
    · exact h.rows w hold hstatus
    · -- the new row refers to the result of the ticket, which is stored
      exact ⟨t.result, h.stored k t hk, t.windowId, rfl, rfl⟩
  · intro k' t' ph' he
    rcases find?_set_phase he with ⟨rfl, rfl, -⟩ | ⟨-, hold⟩
    · exact h.keys k' t' _ hk
    · exact h.keys k' t' ph' hold
  · intro k' t' he
    rcases find?_set_phase he with ⟨-, -, hph⟩ | ⟨-, hold⟩
    · cases hph
    · exact h.scored k' t' hold
  · intro k' t' he
    rcases find?_set_phase he with ⟨-, -, hph⟩ | ⟨-, hold⟩
    · cases hph
    · exact h.stored k' t' hold

/-- The request of a window stores its policy and is done. -/
theorem DeskInv.enforce (h : DeskInv p used d) {k : String} {t : Ticket R} :
    DeskInv p used ⟨t.save p d.stores .settled, d.inFlight.erase k⟩ := by
  have hold : ∀ {k' e}, (d.inFlight.erase k).find? k' = some e → d.inFlight.find? k' = some e := by
    intro k' e he
    rw [Table.find?_erase] at he
    split at he
    · cases he
    · exact he
  have hstores := h.of_stores (s := t.save p d.stores .settled) rfl rfl
  exact ⟨hstores.results_used, fun k' e he => h.inFlight_used k' e (hold he), hstores.nodup,
    hstores.rows, fun k' t' ph' he => h.keys k' t' ph' (hold he),
    fun k' t' he => h.scored k' t' (hold he), fun k' t' he => h.stored k' t' (hold he)⟩

theorem DeskInv.advance (h : DeskInv p used d) (k : String) :
    DeskInv p used (d.advance p k) := by
  rw [Desk.advance]
  cases hk : d.inFlight.find? k with
  | none => exact h
  | some e =>
      obtain ⟨t, ph⟩ := e
      cases ph with
      | scored => exact h.storeResult hk
      | stored => exact h.settle hk
      | settled => exact h.enforce

end Invariant

/-! ## Runs -/

namespace Controller

variable {ctl : Controller R}

theorem window_of_ticketOf {p : Platform R} {llm : LlmEnv} {uuid : String}
    {window : AnomalyWindow R} {changeContext : Option ChangeContext}
    {event : TriageResult R → LiveEvent R}
    {policy : TriageResult R → Option (Policy R × LiveEvent R)} {t : Ticket R}
    (h : ticketOf p llm uuid window changeContext event policy = some t) : t.window = window := by
  rw [ticketOf] at h
  split at h
  · cases h
  · rw [← Option.some.inj h]

theorem id_of_ingestTicket {req : IngestRequest R} {t : Ticket R}
    (h : ctl.ingestTicket req = some t) : t.window.id = req.env.windowId := by
  obtain ⟨score, -, ht⟩ := Option.bind_eq_some_iff.1 h
  rw [window_of_ticketOf ht]
  rfl

/-- What the first half of a request saves. -/
theorem beginIngest_rows (ctl : Controller R) (req : IngestRequest R) (s : ServerState R) :
    (∀ w ∈ (ctl.beginIngest req.env req.payload s).windows,
        w ∈ s.windows ∨ w.triageStatus = .pending) ∧
      (ctl.beginIngest req.env req.payload s).triageResults = s.triageResults := by
  obtain ⟨hwindows, hresults, -⟩ := ensureContainerRegistered_rows (s := s)
    req.payload.containerId req.payload.agentId (req.env.now 0)
  rw [beginIngest]
  cases req.env.scoreWindow req.payload.containerId (extract ctl.log req.payload) with
  | none => exact ⟨fun w hw => Or.inl (hwindows ▸ hw), hresults⟩
  | some score =>
      refine ⟨fun w hw => ?_, hresults⟩
      rcases mem_saveWindow hw with hold | rfl
      · exact Or.inl (hwindows ▸ hold)
      · exact Or.inr rfl

/-- One move keeps the repositories in order, if the id that it draws is new. -/
theorem deskInv_move {used : List String} {d : Desk R} (h : DeskInv ctl.platform used d)
    (m : Move R) (hfresh : ∀ id, m.windowId = some id → id ∉ used) :
    DeskInv ctl.platform (used ++ m.windowId.toList) (ctl.move d m) := by
  have hnone : ∀ {d' : Desk R}, m.windowId = none → DeskInv ctl.platform used d' →
      DeskInv ctl.platform (used ++ m.windowId.toList) d' := by
    intro d' hm hd'
    rw [hm, Option.toList_none, List.append_nil]
    exact hd'
  cases m with
  | ingest req =>
      obtain ⟨hwindows, hresults⟩ := beginIngest_rows ctl req d.stores
      exact h.arrive (hfresh _ rfl) hwindows hresults fun t ht => id_of_ingestTicket ht
  | demoTriage demo =>
      refine h.arrive (s := { d.stores with windows := saveWindow d.stores.windows demo.window })
        (hfresh _ rfl) (fun w hw => ?_) rfl fun t ht => ?_
      · rcases mem_saveWindow hw with hold | rfl
        · exact Or.inl hold
        · exact Or.inr rfl
      · rw [window_of_ticketOf ht]
        rfl
  | advance k => exact hnone rfl (h.advance k)
  | createDemoPolicy request => exact hnone rfl (h.of_stores rfl rfl)
  | deleteContainer id => exact hnone rfl (h.of_stores rfl rfl)
  | deleteContainersByPattern pattern =>
      cases pattern with
      | none => exact hnone rfl h
      | some selects => exact hnone rfl (h.of_stores rfl rfl)
  | clearAllContainers => exact hnone rfl (h.of_stores rfl rfl)
  | clearAllEvents => exact hnone rfl (h.of_stores rfl rfl)

/-- Every run in which the requests draw different ids keeps the repositories in order. -/
theorem deskInv_deskAfter (ctl : Controller R) (moves : List (Move R))
    (hids : (moves.filterMap Move.windowId).Nodup) :
    DeskInv ctl.platform (moves.filterMap Move.windowId) (ctl.deskAfter moves) := by
  induction moves using List.reverseRecOn with
  | nil => exact deskInv_init
  | append_singleton moves m ih =>
      have hsplit : (moves ++ [m]).filterMap Move.windowId =
          moves.filterMap Move.windowId ++ m.windowId.toList := by
        rw [List.filterMap_append]
        cases hm : m.windowId <;> simp [hm]
      rw [hsplit, List.nodup_append] at hids
      rw [hsplit, deskAfter, List.foldl_concat]
      refine deskInv_move (ih hids.1) m fun id hid hmem => ?_
      exact hids.2.2 id hmem id (by simp [hid]) rfl

/-- Triage results are never removed. -/
theorem triageResults_move (ctl : Controller R) (d : Desk R) (m : Move R) :
    d.stores.triageResults ⊆ (ctl.move d m).stores.triageResults := by
  cases m with
  | ingest req =>
      rw [move, Desk.arrive, (beginIngest_rows ctl req d.stores).2]
      exact List.Subset.refl _
  | advance k =>
      rw [move, Desk.advance]
      cases d.inFlight.find? k with
      | none => exact List.Subset.refl _
      | some e =>
          obtain ⟨t, ph⟩ := e
          cases ph with
          | scored => exact List.subset_append_left _ _
          | stored => exact List.Subset.refl _
          | settled => exact List.Subset.refl _
  | deleteContainersByPattern pattern => cases pattern <;> exact List.Subset.refl _
  | demoTriage demo => exact List.Subset.refl _
  | createDemoPolicy request => exact List.Subset.refl _
  | deleteContainer id => exact List.Subset.refl _
  | clearAllContainers => exact List.Subset.refl _
  | clearAllEvents => exact List.Subset.refl _

theorem triageResults_deskAfter (ctl : Controller R) (moves more : List (Move R)) :
    (ctl.deskAfter moves).stores.triageResults ⊆
      (ctl.deskAfter (moves ++ more)).stores.triageResults := by
  rw [deskAfter, deskAfter, List.foldl_append]
  generalize moves.foldl ctl.move .init = d
  induction more generalizing d with
  | nil => exact List.Subset.refl _
  | cons m more ih => exact List.Subset.trans (triageResults_move ctl d m) (ih (ctl.move d m))

/-- A request whose moves come one after the other does what `ingestWindow` does. -/
theorem advance_ingest (ctl : Controller R) {d : Desk R} {req : IngestRequest R} {k : String}
    (hk : req.env.windowId = k) (hfresh : d.inFlight.find? k = none) :
    ((((ctl.move d (.ingest req)).advance ctl.platform k).advance ctl.platform k).advance
        ctl.platform k).stores =
      (ctl.ingestWindow req.env req.payload d.stores).state := by
  rw [← finishIngest_beginIngest, finishIngest, move, Desk.arrive, ingestTicket, hk]
  cases hscore : req.env.scoreWindow req.payload.containerId (extract ctl.log req.payload) with
  | none => simp [Desk.advance, hfresh]
  | some score =>
      simp only [Option.bind_some, triageWindow, ticketOf]
      -- the triage of the ticket is that of the request
      split
      · rename_i htriage
        simp [Desk.advance, hfresh, htriage]
      · rename_i result htriage
        simp only [Option.map_some, Option.getD_some, Desk.advance, Table.find?_set_self,
          Ticket.save, htriage, enforce_eq]
        cases ctl.appliedPolicy req.env (pendingWindow req.payload k score) result with
        | none => rfl
        | some policy => rfl

end Controller

/-! ## What the table shows -/

section Coherence

omit [Field R] [LinearOrder R]

/-- What a row shows of the latest window of its container: its status and its score, and the
explanation of its triage result, if there is one. A status other than pending is the verdict of that
result, which the window refers to. -/
structure ShowsWindow (p : Platform R) (results : List (TriageResult R)) (v : UiContainerView R)
    (w : AnomalyWindow R) : Prop where
  verdict : v.lastVerdict = some w.triageStatus
  score : v.lastScore = some w.mlScore
  explained : ∀ r ∈ results, r.windowId = w.id → v.lastExplanation = some r.explanation
  unexplained : (∀ r ∈ results, r.windowId ≠ w.id) → v.lastExplanation = none
  triaged : w.triageStatus ≠ .pending → ∃ r ∈ results, r.windowId = w.id ∧
    w.triageResultId = some r.id ∧ w.triageStatus = statusOf p r.verdict

/-- A row is coherent: it shows the window that is the latest one when the windows are read, and
nothing of a window if there is none. The results are those that are stored when they are read. -/
def Coherent (p : Platform R) (atWindow : ServerState R) (results : List (TriageResult R))
    (v : UiContainerView R) : Prop :=
  match latestWindow atWindow v.id with
  | none => v.lastVerdict = none ∧ v.lastScore = none ∧ v.lastExplanation = none
  | some w => ShowsWindow p results v w

theorem latestForWindow_eq {s : ServerState R}
    (hnodup : (s.triageResults.map TriageResult.windowId).Nodup) {r : TriageResult R}
    (hr : r ∈ s.triageResults) : latestForWindow s r.windowId = some r := by
  rw [latestForWindow, Table.filter_eq_singleton hnodup hr]
  rfl

theorem mem_of_latestWindow {s : ServerState R} {c : String} {w : AnomalyWindow R}
    (h : latestWindow s c = some w) : w ∈ s.windows ∧ w.containerId = c := by
  have hmem := List.mem_of_getLast? h
  rw [windowsOfContainer, List.mem_filter] at hmem
  exact ⟨hmem.1, by simpa using hmem.2⟩

theorem mem_of_latestForWindow {s : ServerState R} {id : String} {r : TriageResult R}
    (h : latestForWindow s id = some r) : r ∈ s.triageResults ∧ r.windowId = id := by
  have hmem := List.mem_of_getLast? h
  rw [List.mem_filter] at hmem
  exact ⟨hmem.1, by simpa using hmem.2⟩

end Coherence

/-- In every run, whatever happens between the reads, the row of a container is coherent. -/
theorem view_coherent (ctl : Controller R) (moves more : List (Move R))
    (hids : ((moves ++ more).filterMap Move.windowId).Nodup) (c : Container)
    (found : Option ModelMeta) (atPolicy : ServerState R) :
    Coherent ctl.platform (ctl.deskAfter moves).stores
      (ctl.deskAfter (moves ++ more)).stores.triageResults
      (mapContainer c found (ctl.deskAfter moves).stores atPolicy
        (ctl.deskAfter (moves ++ more)).stores) := by
  have hlater := Controller.deskInv_deskAfter ctl (moves ++ more) hids
  rw [List.filterMap_append, List.nodup_append] at hids
  have hnow := Controller.deskInv_deskAfter ctl moves hids.1
  have hsub := Controller.triageResults_deskAfter ctl moves more
  have hid : ∀ atTriage : ServerState R, (mapContainer c found (ctl.deskAfter moves).stores atPolicy
      atTriage).id = c.id := fun _ => rfl
  rw [Coherent, hid]
  cases hw : latestWindow (ctl.deskAfter moves).stores c.id with
  | none => simp [mapContainer, hw]
  | some w =>
      have hmem := (mem_of_latestWindow hw).1
      -- a window has one result at most, so the row shows the explanation of any
      have hexplanation : (mapContainer c found (ctl.deskAfter moves).stores atPolicy
          (ctl.deskAfter (moves ++ more)).stores).lastExplanation =
            (latestForWindow (ctl.deskAfter (moves ++ more)).stores w.id).map
              TriageResult.explanation := by
        simp only [mapContainer, hw, Option.bind_some]
      refine ⟨by simp [mapContainer, hw], by simp [mapContainer, hw], fun r hr hwindow => ?_,
        fun hnone => ?_, fun hne => ?_⟩
      · rw [hexplanation, ← hwindow, latestForWindow_eq hlater.nodup hr, Option.map_some]
      · rw [hexplanation]
        cases hlatest : latestForWindow (ctl.deskAfter (moves ++ more)).stores w.id with
        | none => rfl
        | some r =>
            obtain ⟨hr, hwindow⟩ := mem_of_latestForWindow hlatest
            exact absurd hwindow (hnone r hr)
      · -- the result was stored before the window that refers to it
        obtain ⟨r, hr, hrow⟩ := hnow.rows w hmem hne
        exact ⟨r, hsub hr, hrow⟩

end Moves

/-- Two requests of one container whose saves overlap, with the container deleted in between. -/
def overlappingMoves : List (Move ℚ) :=
  [.ingest flaggedRequest, .ingest normalRequest, .advance normalRequest.env.windowId,
    .deleteContainer flaggedRequest.payload.containerId, .advance flaggedRequest.env.windowId,
    .advance flaggedRequest.env.windowId]

theorem view_coherent_overlapping :
    Coherent examplePlatform (exampleController.deskAfter overlappingMoves).stores
      (exampleController.deskAfter
        (overlappingMoves ++ [.advance normalRequest.env.windowId])).stores.triageResults
      (mapContainer ⟨"prod/api", "prod", "agent-1", "Running", true, .untrained⟩ none
        (exampleController.deskAfter overlappingMoves).stores .init
        (exampleController.deskAfter
          (overlappingMoves ++ [.advance normalRequest.env.windowId])).stores) :=
  view_coherent exampleController overlappingMoves [.advance normalRequest.env.windowId]
    (by decide) _ _ _

end DeepKernel.Server
