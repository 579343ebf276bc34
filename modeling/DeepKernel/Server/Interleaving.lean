import DeepKernel.Lib.LastWrite
import DeepKernel.Server.Integrity

/-!
# Interleaved requests and the latest window

Two requests are interleaved at the point where a request waits for its triage: `beginIngest` is
`ingestWindow` up to the save of the pending window, `finishIngest` is the rest of it. Saving a
window with a known id moves its row to the end, so the rows of `AnomalyWindowRepository` stand in
the order in which the requests settle, that is, in the order of their last saves
(`windows_eq_settled`).
-/

set_option autoImplicit false

namespace DeepKernel.Server

open DeepKernel.Lib

/-! ## Queries of the repository -/

section Queries

variable {R : Type}

/-- The rows of a container. -/
def windowsOfContainer (s : ServerState R) (containerId : String) : List (AnomalyWindow R) :=
  s.windows.filter fun w => decide (w.containerId = containerId)

/-- `AnomalyWindowRepository.findByContainer`, `none` if `subList` throws. -/
def findByContainer (s : ServerState R) (containerId : String) (limit : Int32) :
    Option (List (AnomalyWindow R)) :=
  let filtered := windowsOfContainer s containerId
  let start := max (Int32.ofNat filtered.length - limit) 0
  if filtered.length < start.toNatClampNeg then none
  else some (filtered.drop start.toNatClampNeg)

/-- `AnomalyWindowRepository.latest`. -/
def latestWindow (s : ServerState R) (containerId : String) : Option (AnomalyWindow R) :=
  (windowsOfContainer s containerId).getLast?

/-- Windows in the order of their starts. -/
def ByStart (windows : List (AnomalyWindow R)) : Prop :=
  windows.Pairwise fun w w' => w.windowStart ≤ w'.windowStart

/-- The latest window of a container is its newest, and its windows are listed from the oldest to
the newest. -/
structure LatestIsNewest (s : ServerState R) (containerId : String) : Prop where
  latest : ∀ w ∈ windowsOfContainer s containerId,
    ∃ newest, latestWindow s containerId = some newest ∧ w.windowStart ≤ newest.windowStart
  listed : ∀ limit windows, findByContainer s containerId limit = some windows → ByStart windows

theorem byStart_getLast {windows : List (AnomalyWindow R)} (h : ByStart windows)
    {w : AnomalyWindow R} (hw : w ∈ windows) :
    ∃ newest, windows.getLast? = some newest ∧ w.windowStart ≤ newest.windowStart := by
  rcases List.eq_nil_or_concat' windows with rfl | ⟨older, newest, rfl⟩
  · cases hw
  · refine ⟨newest, List.getLast?_concat, ?_⟩
    rcases List.mem_append.1 hw with hw | hw
    · exact (List.pairwise_append.1 h).2.2 w hw newest (List.mem_singleton_self _)
    · rw [List.mem_singleton.1 hw]

/-- Both queries are right exactly when the rows of the container stand in order. -/
theorem latestIsNewest_iff {s : ServerState R} {containerId : String} :
    LatestIsNewest s containerId ↔ ByStart (windowsOfContainer s containerId) := by
  constructor
  · intro h
    -- a limit as large as the list asks for all of it
    refine h.listed (Int32.ofNat (windowsOfContainer s containerId).length) _ ?_
    have hstart : max (Int32.ofNat (windowsOfContainer s containerId).length -
        Int32.ofNat (windowsOfContainer s containerId).length) 0 = 0 := by
      rw [Int32.sub_self]
      rfl
    have hzero : (0 : Int32).toNatClampNeg = 0 := rfl
    simp only [findByContainer, hstart, hzero, Nat.not_lt_zero, if_false, List.drop_zero]
  · intro h
    refine ⟨fun w hw => byStart_getLast h hw, fun limit windows hfound => ?_⟩
    simp only [findByContainer] at hfound
    split at hfound
    · cases hfound
    · rw [← Option.some.inj hfound]
      exact h.sublist (List.drop_sublist _ _)

end Queries

/-! ## The two halves of a request -/

section Steps

variable {R : Type} [Field R] [LinearOrder R]

namespace Controller

variable (ctl : Controller R)

/-- `ingestWindow` up to the save of the pending window. -/
def beginIngest (env : IngestEnv R) (payload : ShortWindowPayload) (s : ServerState R) :
    ServerState R :=
  let registered :=
    ensureContainerRegistered s payload.containerId payload.agentId (env.now 0)
  match env.scoreWindow payload.containerId (extract ctl.log payload) with
  | none => registered
  | some score =>
      let window := pendingWindow payload env.windowId score
      { registered with
        windows := saveWindow registered.windows window
        events := registered.events ++ [⟨payload.containerId, window.windowEnd,
          .windowScored score.score score.anomalous (payload.records.getD []).length⟩] }

/-- `ingestWindow` from the triage on, on the repositories as they are then. -/
def finishIngest (env : IngestEnv R) (payload : ShortWindowPayload) (s : ServerState R) :
    ServerState R :=
  match env.scoreWindow payload.containerId (extract ctl.log payload) with
  | none => s
  | some score =>
      let window := pendingWindow payload env.windowId score
      match ctl.triageWindow env payload window with
      | none => s
      | some triageResult =>
          let triaged := { s with
            triageResults := s.triageResults ++ [triageResult]
            windows := saveWindow s.windows (triagedWindow ctl.platform window triageResult)
            events := s.events ++ [⟨payload.containerId, env.now 1,
              .triageResult triageResult.verdict triageResult.riskScore
                triageResult.explanation⟩] }
          (ctl.enforce env payload triaged window triageResult (responseStatus score)).state

/-- The two halves, one after the other, are the request. -/
theorem finishIngest_beginIngest (env : IngestEnv R) (payload : ShortWindowPayload)
    (s : ServerState R) :
    ctl.finishIngest env payload (ctl.beginIngest env payload s) =
      (ctl.ingestWindow env payload s).state := by
  rw [finishIngest, beginIngest, ingestWindow]
  cases env.scoreWindow payload.containerId (extract ctl.log payload) with
  | none => rfl
  | some score =>
      simp only
      cases ctl.triageWindow env payload (pendingWindow payload env.windowId score) with
      | none => rfl
      | some triageResult => rfl

end Controller

/-- One half of a request. -/
inductive IngestStep (R : Type)
  | start (req : IngestRequest R)
  | finish (req : IngestRequest R)

namespace IngestStep

/-- The request that a step belongs to. -/
def request : IngestStep R → IngestRequest R
  | .start req => req
  | .finish req => req

/-- The id of the window of the request. -/
def windowId (step : IngestStep R) : String := step.request.env.windowId

/-- The request that starts with the step. -/
def started : IngestStep R → Option (IngestRequest R)
  | .start req => some req
  | .finish _ => none

/-- What the request does after the step. -/
def remaining : IngestStep R → List (IngestStep R)
  | .start req => [.finish req]
  | .finish _ => []

end IngestStep

namespace Controller

variable (ctl : Controller R)

/-- One step. -/
def interleave (s : ServerState R) : IngestStep R → ServerState R
  | .start req => ctl.beginIngest req.env req.payload s
  | .finish req => ctl.finishIngest req.env req.payload s

/-- The pending window that a request saves, if its scorer does not throw. -/
def pending (req : IngestRequest R) : Option (AnomalyWindow R) :=
  (req.env.scoreWindow req.payload.containerId (extract ctl.log req.payload)).map
    (pendingWindow req.payload req.env.windowId)

/-- The triaged window that a request saves, if its triage does not throw either. -/
def triaged (req : IngestRequest R) : Option (AnomalyWindow R) :=
  (ctl.pending req).bind fun window =>
    (ctl.triageWindow req.env req.payload window).map (triagedWindow ctl.platform window)

/-- The window that a step saves. -/
def saved : IngestStep R → Option (AnomalyWindow R)
  | .start req => ctl.pending req
  | .finish req => ctl.triaged req

/-- The window that a step saves for the last time: the triaged one, or the pending one of a request
whose triage throws. -/
def settled : IngestStep R → Option (AnomalyWindow R)
  | .start req => if (ctl.triaged req).isSome then none else ctl.pending req
  | .finish req => ctl.triaged req

/-- The request that is settled by a step: no later step of it saves its window. -/
def settles : IngestStep R → Option (IngestRequest R)
  | .start req =>
      if (ctl.pending req).isSome ∧ (ctl.triaged req).isNone then some req else none
  | .finish req => if (ctl.triaged req).isSome then some req else none

theorem id_of_pending {req : IngestRequest R} {w : AnomalyWindow R}
    (h : ctl.pending req = some w) : w.id = req.env.windowId := by
  obtain ⟨score, -, rfl⟩ := Option.map_eq_some_iff.1 h
  rfl

theorem id_of_triaged {req : IngestRequest R} {w : AnomalyWindow R}
    (h : ctl.triaged req = some w) : w.id = req.env.windowId := by
  obtain ⟨window, hwindow, htriaged⟩ := Option.bind_eq_some_iff.1 h
  obtain ⟨triageResult, -, rfl⟩ := Option.map_eq_some_iff.1 htriaged
  have hid : window.id = req.env.windowId := ctl.id_of_pending hwindow
  exact hid

theorem id_of_saved {step : IngestStep R} {w : AnomalyWindow R} (h : ctl.saved step = some w) :
    w.id = step.windowId := by
  cases step with
  | start req => exact ctl.id_of_pending h
  | finish req => exact ctl.id_of_triaged h

/-- A step changes the windows by its save only. -/
theorem windows_interleave (s : ServerState R) (step : IngestStep R) :
    (ctl.interleave s step).windows =
      (ctl.saved step).toList.foldl (writeRow AnomalyWindow.id) s.windows := by
  cases step with
  | start req =>
      -- the registration of the container saves no window
      obtain ⟨hwindows, -, -⟩ := ensureContainerRegistered_rows (s := s) req.payload.containerId
        req.payload.agentId (req.env.now 0)
      rw [interleave, beginIngest, saved, pending]
      cases req.env.scoreWindow req.payload.containerId (extract ctl.log req.payload) with
      | none => exact hwindows
      | some score =>
          simp only [Option.map_some, Option.toList_some, List.foldl_cons, List.foldl_nil,
            hwindows]
          rfl
  | finish req =>
      rw [interleave, finishIngest, saved, triaged, pending]
      cases req.env.scoreWindow req.payload.containerId (extract ctl.log req.payload) with
      | none => rfl
      | some score =>
          simp only [Option.map_some, Option.bind_some]
          cases ctl.triageWindow req.env req.payload
              (pendingWindow req.payload req.env.windowId score) with
          | none => rfl
          | some triageResult =>
              simp only [enforce_eq, Option.map_some, Option.toList_some, List.foldl_cons,
                List.foldl_nil]
              rfl

/-- The windows after some steps are the last saves, in their order. -/
theorem windows_interleaved (steps : List (IngestStep R)) :
    (steps.foldl ctl.interleave .init).windows =
      lastWrites AnomalyWindow.id (steps.filterMap ctl.saved) := by
  have hsaves : ∀ (steps : List (IngestStep R)) (s : ServerState R),
      (steps.foldl ctl.interleave s).windows =
        (steps.filterMap ctl.saved).foldl (writeRow AnomalyWindow.id) s.windows := by
    intro steps
    induction steps with
    | nil => exact fun _ => rfl
    | cons step steps ih =>
        intro s
        rw [List.foldl_cons, ih, windows_interleave, List.filterMap_cons]
        cases ctl.saved step with
        | none => rfl
        | some w => rfl
  rw [hsaves, foldl_writeRow]
  rfl

end Controller

/-! ## Interleavings -/

/-- The steps are those of the requests, in any order in which every request starts before it
finishes, each once. The ids of the windows are different. -/
structure Interleaving (reqs : List (IngestRequest R)) (steps : List (IngestStep R)) : Prop where
  nodup : (reqs.map fun req => req.env.windowId).Nodup
  request_mem : ∀ step ∈ steps, step.request ∈ reqs
  own : ∀ req ∈ reqs, steps.filter (fun step => decide (step.windowId = req.env.windowId)) =
    [.start req, .finish req]

omit [Field R] [LinearOrder R] in
/-- What the request of a step does after it. -/
theorem Interleaving.rest {reqs : List (IngestRequest R)} {before after : List (IngestStep R)}
    {step : IngestStep R} (h : Interleaving reqs (before ++ step :: after)) :
    after.filter (fun other => decide (other.windowId = step.windowId)) = step.remaining := by
  have hown := h.own step.request (h.request_mem step (by simp))
  have hself : decide (step.windowId = step.request.env.windowId) = true := decide_eq_true rfl
  rw [List.filter_append, List.filter_cons, hself, if_pos rfl] at hown
  cases hbefore : before.filter
      (fun other => decide (other.windowId = step.request.env.windowId)) with
  | nil =>
      -- no step of the request before this one, so this one is the start
      rw [hbefore, List.nil_append] at hown
      obtain ⟨hstep, hafter⟩ := List.cons.inj hown
      cases step with
      | start req => exact hafter
      | finish req => cases hstep
  | cons first others =>
      rw [hbefore, List.cons_append] at hown
      obtain ⟨-, hown⟩ := List.cons.inj hown
      cases others with
      | nil =>
          rw [List.nil_append] at hown
          obtain ⟨hstep, hafter⟩ := List.cons.inj hown
          cases step with
          | start req => cases hstep
          | finish req => exact hafter
      | cons second others =>
          have hlen := congrArg List.length hown
          simp at hlen

/-- Whether the window of a step is saved again after it. -/
theorem Interleaving.savedAgain_iff (ctl : Controller R) {reqs : List (IngestRequest R)}
    {before after : List (IngestStep R)} {step : IngestStep R}
    (h : Interleaving reqs (before ++ step :: after)) :
    step.windowId ∈ (after.filterMap ctl.saved).map AnomalyWindow.id ↔
      ∃ req w, step = .start req ∧ ctl.triaged req = some w := by
  have hrest := h.rest
  constructor
  · intro hmem
    obtain ⟨w, hw, hid⟩ := List.mem_map.1 hmem
    obtain ⟨step', hstep', hsaved⟩ := List.mem_filterMap.1 hw
    -- of the later steps only the second half of the same request has the id
    have hsame : step' ∈ after.filter (fun s => decide (s.windowId = step.windowId)) :=
      List.mem_filter.2 ⟨hstep', decide_eq_true ((ctl.id_of_saved hsaved).symm.trans hid)⟩
    rw [hrest] at hsame
    cases step with
    | start req =>
        rw [List.mem_singleton.1 hsame] at hsaved
        exact ⟨req, w, rfl, hsaved⟩
    | finish req => cases hsame
  · rintro ⟨req, w, rfl, hw⟩
    have hfinish : IngestStep.finish req ∈ after := by
      refine List.mem_of_mem_filter (p := fun s => decide (s.windowId = req.env.windowId)) ?_
      have hafter : after.filter (fun s => decide (s.windowId = req.env.windowId)) =
          [.finish req] := hrest
      rw [hafter]
      exact List.mem_singleton_self _
    exact List.mem_map.2
      ⟨w, List.mem_filterMap.2 ⟨.finish req, hfinish, hw⟩, ctl.id_of_triaged hw⟩

/-- The last saves are those of the steps that settle a request. -/
theorem Interleaving.lastWrites_eq (ctl : Controller R) {reqs : List (IngestRequest R)}
    {before after : List (IngestStep R)} (h : Interleaving reqs (before ++ after)) :
    lastWrites AnomalyWindow.id (after.filterMap ctl.saved) = after.filterMap ctl.settled := by
  -- induction on what is still to come, with the steps made so far in `before`
  induction after generalizing before with
  | nil => rfl
  | cons step after ih =>
      have hagain := h.savedAgain_iff ctl
      have hrest : lastWrites AnomalyWindow.id (after.filterMap ctl.saved) =
          after.filterMap ctl.settled := by
        have hsteps : before ++ step :: after = (before ++ [step]) ++ after :=
          List.append_cons ..
        exact ih (hsteps ▸ h)
      rw [List.filterMap_cons, List.filterMap_cons]
      cases hsaved : ctl.saved step with
      | none =>
          have hsettled : ctl.settled step = none := by
            cases step with
            | start req =>
                rw [Controller.settled, show ctl.pending req = none from hsaved, ite_self]
            | finish req => exact hsaved
          rw [hsettled]
          exact hrest
      | some w =>
          have hid := ctl.id_of_saved hsaved
          rw [← hid] at hagain
          by_cases hmem : w.id ∈ (after.filterMap ctl.saved).map AnomalyWindow.id
          · obtain ⟨req, w', rfl, hw'⟩ := hagain.1 hmem
            have hsettled : ctl.settled (.start req) = none := by
              rw [Controller.settled, hw']
              rfl
            simp only [hsettled]
            rw [lastWrites_cons_of_mem _ hmem]
            exact hrest
          · have hsettled : ctl.settled step = some w := by
              cases step with
              | start req =>
                  have hnone : ctl.triaged req = none := by
                    cases htriaged : ctl.triaged req with
                    | none => rfl
                    | some w' => exact absurd (hagain.2 ⟨req, w', rfl, htriaged⟩) hmem
                  rw [Controller.settled, hnone]
                  exact hsaved
              | finish req => exact hsaved
            simp only [hsettled]
            rw [lastWrites_cons_of_notMem _ hmem, hrest]

/-- When all requests have finished, the windows stand in the order in which they settled. -/
theorem windows_eq_settled (ctl : Controller R) {reqs : List (IngestRequest R)}
    {steps : List (IngestStep R)} (h : Interleaving reqs steps) :
    (steps.foldl ctl.interleave .init).windows = steps.filterMap ctl.settled := by
  rw [ctl.windows_interleaved]
  have hsteps : Interleaving reqs ([] ++ steps) := h
  exact hsteps.lastWrites_eq ctl

/-- The start that a request gives its window, in milliseconds. -/
def IngestRequest.windowStart (req : IngestRequest R) : Int :=
  (req.payload.windowStartTsNs / 1000000).toInt

/-- The requests for a container, in the order of their windows. -/
def RequestsInOrder (containerId : String) (reqs : List (IngestRequest R)) : Prop :=
  (reqs.filter fun req => decide (req.payload.containerId = containerId)).Pairwise
    fun req req' => req.windowStart ≤ req'.windowStart

/-- The requests for the container save their pending windows in order. -/
def StartInOrder (containerId : String) (steps : List (IngestStep R)) : Prop :=
  RequestsInOrder containerId (steps.filterMap IngestStep.started)

/-- The requests for the container settle in the order of their windows. -/
def SettleInOrder (ctl : Controller R) (containerId : String) (steps : List (IngestStep R)) :
    Prop :=
  RequestsInOrder containerId (steps.filterMap ctl.settles)

/-- The window of a step that settles a request has the container and the start of the request. -/
theorem Controller.map_settled (ctl : Controller R) (step : IngestStep R) :
    (ctl.settled step).map (fun w => (w.containerId, w.windowStart)) =
      (ctl.settles step).map fun req => (req.payload.containerId, req.windowStart) := by
  have hpending : ∀ req w, ctl.pending req = some w →
      (w.containerId, w.windowStart) = (req.payload.containerId, req.windowStart) := by
    intro req w h
    obtain ⟨score, -, rfl⟩ := Option.map_eq_some_iff.1 h
    rfl
  have htriaged : ∀ req w, ctl.triaged req = some w →
      (w.containerId, w.windowStart) = (req.payload.containerId, req.windowStart) := by
    intro req w h
    obtain ⟨window, hwindow, hmap⟩ := Option.bind_eq_some_iff.1 h
    obtain ⟨triageResult, -, rfl⟩ := Option.map_eq_some_iff.1 hmap
    exact hpending req window hwindow
  cases step with
  | start req =>
      rw [settled, settles]
      -- a window that is triaged later is settled by its second half
      cases ht : ctl.triaged req with
      | some w => simp
      | none =>
          cases hp : ctl.pending req with
          | none => simp
          | some w => simpa using hpending req w hp
  | finish req =>
      rw [settled, settles]
      cases ht : ctl.triaged req with
      | none => simp
      | some w => simpa using htriaged req w ht

theorem byStart_settled_iff (ctl : Controller R) (containerId : String)
    (steps : List (IngestStep R)) :
    ByStart ((steps.filterMap ctl.settled).filter fun w => decide (w.containerId = containerId)) ↔
      SettleInOrder ctl containerId steps := by
  have hmap : ∀ (steps : List (IngestStep R)),
      (steps.filterMap ctl.settled).map (fun w => (w.containerId, w.windowStart)) =
        (steps.filterMap ctl.settles).map
          fun req => (req.payload.containerId, req.windowStart) := by
    intro steps
    rw [List.map_filterMap, List.map_filterMap]
    exact List.filterMap_congr fun step _ => ctl.map_settled step
  -- both sides only look at the container and the start
  have hpairs : ∀ {α : Type} (f : α → String × Int) (l : List α),
      ((l.filter fun a => decide ((f a).1 = containerId)).Pairwise
          fun a b => (f a).2 ≤ (f b).2) ↔
        (((l.map f).filter fun p => decide (p.1 = containerId)).Pairwise
          fun p q => p.2 ≤ q.2) := by
    intro α f l
    rw [List.filter_map, List.pairwise_map]
    rfl
  rw [ByStart, SettleInOrder, RequestsInOrder,
    hpairs (fun w : AnomalyWindow R => (w.containerId, w.windowStart)),
    hpairs (fun req : IngestRequest R => (req.payload.containerId, req.windowStart)), hmap]

/-- When all requests have finished, the latest window of a container is its newest and its windows
are listed in order, exactly if the requests for the container settled in that order. -/
theorem latest_window_iff (ctl : Controller R) (reqs : List (IngestRequest R))
    (steps : List (IngestStep R)) (h : Interleaving reqs steps) (containerId : String) :
    LatestIsNewest (steps.foldl ctl.interleave .init) containerId ↔
      SettleInOrder ctl containerId steps := by
  rw [latestIsNewest_iff, windowsOfContainer, windows_eq_settled ctl h]
  exact byStart_settled_iff ctl containerId steps

end Steps

/-! ## A slow triage -/

/-- The triage of the first window takes longer than the whole second request. -/
def slowTriage : List (IngestStep ℚ) :=
  [.start flaggedRequest, .start normalRequest, .finish normalRequest, .finish flaggedRequest]

/-- The second request is made when the first one has returned. -/
def oneByOne : List (IngestStep ℚ) :=
  [.start flaggedRequest, .finish flaggedRequest, .start normalRequest, .finish normalRequest]

theorem isSome_triaged_example (score : AnomalyScore ℚ) (windowId triageId policyId : String)
    (agentReply : HttpOutcome) (payload : ShortWindowPayload) :
    (exampleController.triaged
      ⟨payload, exampleEnv score windowId triageId policyId agentReply⟩).isSome := by
  have htriage : (exampleController.triageWindow
      (exampleEnv score windowId triageId policyId agentReply) payload
      (pendingWindow payload windowId score)).isSome :=
    Controller.isSome_triageWindow exampleController fun _ h => nomatch h
  obtain ⟨triageResult, htriage⟩ := Option.isSome_iff_exists.1 htriage
  refine Option.isSome_iff_exists.2 ⟨triagedWindow exampleController.platform
    (pendingWindow payload windowId score) triageResult, ?_⟩
  refine Option.bind_eq_some_iff.2 ⟨pendingWindow payload windowId score, rfl, ?_⟩
  exact Option.map_eq_some_iff.2 ⟨triageResult, htriage, rfl⟩

/-- The requests of the examples settle when they finish. -/
theorem settles_example (req : IngestRequest ℚ) (h : (exampleController.triaged req).isSome) :
    exampleController.settles (.start req) = none ∧
      exampleController.settles (.finish req) = some req := by
  constructor
  · rw [Controller.settles, if_neg fun hnone => ?_]
    rw [Option.isNone_iff_eq_none.1 hnone.2] at h
    cases h
  · rw [Controller.settles, if_pos h]

theorem settles_flaggedRequest :
    exampleController.settles (.start flaggedRequest) = none ∧
      exampleController.settles (.finish flaggedRequest) = some flaggedRequest :=
  settles_example _ (isSome_triaged_example ..)

theorem settles_normalRequest :
    exampleController.settles (.start normalRequest) = none ∧
      exampleController.settles (.finish normalRequest) = some normalRequest :=
  settles_example _ (isSome_triaged_example ..)

/-- The two interleavings of the examples. -/
theorem interleaving_example :
    Interleaving [flaggedRequest, normalRequest] slowTriage ∧
      Interleaving [flaggedRequest, normalRequest] oneByOne := by
  have hmem : ∀ steps : List (IngestStep ℚ), steps = slowTriage ∨ steps = oneByOne →
      ∀ step ∈ steps, step.request ∈ [flaggedRequest, normalRequest] := by
    rintro steps (rfl | rfl) step hstep <;>
      simp only [slowTriage, oneByOne, List.mem_cons, List.not_mem_nil, or_false] at hstep <;>
      rcases hstep with rfl | rfl | rfl | rfl <;> simp [IngestStep.request]
  constructor
  · refine ⟨by decide, hmem _ (.inl rfl), fun req hreq => ?_⟩
    simp only [List.mem_cons, List.not_mem_nil, or_false] at hreq
    rcases hreq with rfl | rfl <;> rfl
  · refine ⟨by decide, hmem _ (.inr rfl), fun req hreq => ?_⟩
    simp only [List.mem_cons, List.not_mem_nil, or_false] at hreq
    rcases hreq with rfl | rfl <;> rfl

/-- With the slow triage the pending windows are saved in order and the older window is the last
row. -/
theorem slow_triage_latest_is_older :
    Interleaving [flaggedRequest, normalRequest] slowTriage ∧
      StartInOrder "prod/api" slowTriage ∧
      ¬ LatestIsNewest (slowTriage.foldl exampleController.interleave .init) "prod/api" := by
  refine ⟨interleaving_example.1, ?_, ?_⟩
  · have hstart : flaggedRequest.windowStart ≤ normalRequest.windowStart := by decide
    exact List.pairwise_pair.2 hstart
  · rw [latestIsNewest_iff, windowsOfContainer,
      windows_eq_settled exampleController interleaving_example.1, byStart_settled_iff,
      SettleInOrder]
    have hsettled : slowTriage.filterMap exampleController.settles =
        [normalRequest, flaggedRequest] := by
      simp only [slowTriage, List.filterMap_cons, settles_flaggedRequest.1,
        settles_flaggedRequest.2, settles_normalRequest.1, settles_normalRequest.2,
        List.filterMap_nil]
    rw [hsettled]
    intro hordered
    have hpair : [normalRequest, flaggedRequest].Pairwise
        fun req req' => req.windowStart ≤ req'.windowStart := hordered
    have hstart := List.pairwise_pair.1 hpair
    revert hstart
    decide

theorem one_by_one_latest_is_newest :
    LatestIsNewest (oneByOne.foldl exampleController.interleave .init) "prod/api" := by
  refine (latest_window_iff exampleController [flaggedRequest, normalRequest] oneByOne
    interleaving_example.2 "prod/api").2 ?_
  have hsettled : oneByOne.filterMap exampleController.settles =
      [flaggedRequest, normalRequest] := by
    simp only [oneByOne, List.filterMap_cons, settles_flaggedRequest.1,
      settles_flaggedRequest.2, settles_normalRequest.1, settles_normalRequest.2,
      List.filterMap_nil]
  rw [SettleInOrder, hsettled]
  have hstart : flaggedRequest.windowStart ≤ normalRequest.windowStart := by decide
  exact List.pairwise_pair.2 hstart

end DeepKernel.Server
