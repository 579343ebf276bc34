import DeepKernel.Lib.Execution
import DeepKernel.Server.Ingest

/-!
# Referential integrity of the ingestion pipeline

Requests are handled one after another. The rows of a request are tied together (`Linked`): its
window names its triage result, which names its window, and the status of the window is that of the
verdict. `RowsInv` carries this along a run, past requests that throw and leave a pending window
behind. What a single request adds to the policies and to the event log is `ingestWindow_of_triage`.
-/

set_option autoImplicit false

namespace DeepKernel.Server

open DeepKernel.Lib

variable {R : Type} [Field R] [LinearOrder R]

/-- A request with its environment. -/
structure IngestRequest (R : Type) where
  payload : ShortWindowPayload
  env : IngestEnv R

namespace Controller

/-- The repositories after a request. -/
def next (ctl : Controller R) (s : ServerState R) (req : IngestRequest R) : ServerState R :=
  (ctl.ingestWindow req.env req.payload s).state

/-- The repositories after some requests to a new server. -/
abbrev stateAfter (ctl : Controller R) (reqs : List (IngestRequest R)) : ServerState R :=
  reqs.foldl ctl.next .init

/-- The last one of some requests returns. -/
def Returns (ctl : Controller R) (pre : List (IngestRequest R)) (req : IngestRequest R) : Prop :=
  (ctl.ingestWindow req.env req.payload (ctl.stateAfter pre)).response.isSome

end Controller

/-! ## The property -/

/-- The ids that the requests draw for windows and for triage results are different. -/
structure DistinctIds (reqs : List (IngestRequest R)) : Prop where
  windows : (reqs.map fun req => req.env.windowId).Nodup
  triageResults : (reqs.map fun req => req.env.triageId).Nodup

/-- The window and the triage result of a request fit together. -/
structure Linked (p : Platform R) (req : IngestRequest R) (window : AnomalyWindow R)
    (triageResult : TriageResult R) : Prop where
  id : window.id = req.env.windowId
  containerId : window.containerId = req.payload.containerId
  triageResultId : window.triageResultId = some triageResult.id
  windowId : triageResult.windowId = window.id
  status : window.triageStatus = statusOf p triageResult.verdict
  not_pending : window.triageStatus ≠ .pending

/-- The window of a request is stored once, and so is the triage result that it names. -/
def StoredOnce (p : Platform R) (s : ServerState R) (req : IngestRequest R) : Prop :=
  ∃ window triageResult, Linked p req window triageResult ∧
    s.windows.filter (fun w => decide (w.id = req.env.windowId)) = [window] ∧
    s.triageResults.filter (fun t => decide (t.id = triageResult.id)) = [triageResult]

/-- What a request adds to the policies and to the event log, given the status of its window. -/
structure Appends (s s' : ServerState R) (req : IngestRequest R) (status : TriageStatus) :
    Prop where
  policies : ∃ added, s'.policies = s.policies ++ added ∧
    (∀ policy ∈ added, policy.containerId = req.payload.containerId) ∧
    added.length = if status = .threat then 1 else 0
  events : ∃ added, s'.events = s.events ++ added ∧
    (∀ e ∈ added, e.containerId = req.payload.containerId) ∧
    added.map LiveEvent.type =
      (if s.isRegistered req.payload.containerId then [] else [.containerDiscovered]) ++
        [.windowScored, .triageResult] ++ if status = .threat then [.policyApplied] else []

/-- The stores after a request that returns: no window id occurs twice, the rows of all requests
that have returned so far are there, and this request added its policy and its events. -/
structure Integrity (ctl : Controller R) (pre : List (IngestRequest R)) (req : IngestRequest R) :
    Prop where
  nodup : ((ctl.stateAfter (pre ++ [req])).windows.map AnomalyWindow.id).Nodup
  stored : ∀ before q, before ++ [q] <+: pre ++ [req] → ctl.Returns before q →
    StoredOnce ctl.platform (ctl.stateAfter (pre ++ [req])) q
  appends : ∃ window ∈ (ctl.stateAfter (pre ++ [req])).windows, window.id = req.env.windowId ∧
    Appends (ctl.stateAfter pre) (ctl.stateAfter (pre ++ [req])) req window.triageStatus

/-! ## The rows of a run -/

/-- The rows after some requests: every id comes from a request, none occurs twice, and the rows of
the requests that returned are linked. -/
structure RowsInv (ctl : Controller R) (reqs : List (IngestRequest R)) (s : ServerState R) :
    Prop where
  windowIds : ∀ w ∈ s.windows, ∃ req ∈ reqs, w.id = req.env.windowId
  triageIds : ∀ t ∈ s.triageResults, ∃ req ∈ reqs, t.id = req.env.triageId
  nodup_windows : (s.windows.map AnomalyWindow.id).Nodup
  nodup_results : (s.triageResults.map TriageResult.id).Nodup
  linked : ∀ before q, before ++ [q] <+: reqs → ctl.Returns before q →
    ∃ window ∈ s.windows, ∃ triageResult ∈ s.triageResults,
      Linked ctl.platform q window triageResult

section Rows

variable {ctl : Controller R} {reqs : List (IngestRequest R)} {s s' : ServerState R}
  {req : IngestRequest R}

/-- A request adds at most one window and one result, with its own ids. -/
theorem RowsInv.extend (h : RowsInv ctl reqs s)
    (hids : ∀ q ∈ reqs, q.env.windowId ≠ req.env.windowId ∧ q.env.triageId ≠ req.env.triageId)
    (window : Option (AnomalyWindow R)) (triageResult : Option (TriageResult R))
    (hwindow : ∀ w, window = some w → w.id = req.env.windowId)
    (htriage : ∀ t, triageResult = some t → t.id = req.env.triageId)
    (hwindows : s'.windows = s.windows ++ window.toList)
    (hresults : s'.triageResults = s.triageResults ++ triageResult.toList)
    (hlinked : ctl.Returns reqs req → ∃ w ∈ s'.windows, ∃ t ∈ s'.triageResults,
      Linked ctl.platform req w t) :
    RowsInv ctl (reqs ++ [req]) s' where
  windowIds := by
    intro w hw
    rw [hwindows, List.mem_append, Option.mem_toList] at hw
    rcases hw with hw | hw
    · obtain ⟨q, hq, hid⟩ := h.windowIds w hw
      exact ⟨q, List.mem_append_left _ hq, hid⟩
    · exact ⟨req, by simp, hwindow w hw⟩
  triageIds := by
    intro t ht
    rw [hresults, List.mem_append, Option.mem_toList] at ht
    rcases ht with ht | ht
    · obtain ⟨q, hq, hid⟩ := h.triageIds t ht
      exact ⟨q, List.mem_append_left _ hq, hid⟩
    · exact ⟨req, by simp, htriage t ht⟩
  nodup_windows := by
    rw [hwindows]
    -- an earlier row has the id of an earlier request
    refine Table.nodup_append_toList h.nodup_windows fun w hw w' hw' => ?_
    obtain ⟨q, hq, hid⟩ := h.windowIds w' hw'
    rw [hid, hwindow w hw]
    exact (hids q hq).1
  nodup_results := by
    rw [hresults]
    refine Table.nodup_append_toList h.nodup_results fun t ht t' ht' => ?_
    obtain ⟨q, hq, hid⟩ := h.triageIds t' ht'
    rw [hid, htriage t ht]
    exact (hids q hq).2
  linked := by
    intro before q hinit hreturns
    rcases List.prefix_concat_iff.1 hinit with heq | hinit
    · -- The request in question is the new one.
      obtain ⟨rfl, hq⟩ := List.append_inj' heq rfl
      obtain rfl : q = req := (List.cons.inj hq).1
      exact hlinked hreturns
    · obtain ⟨w, hw, t, ht, hlink⟩ := h.linked before q hinit hreturns
      refine ⟨w, ?_, t, ?_, hlink⟩
      · rw [hwindows]
        exact List.mem_append_left _ hw
      · rw [hresults]
        exact List.mem_append_left _ ht

/-- The rows that a triaged request stores are linked. -/
theorem linked_triagedWindow (ctl : Controller R) {req : IngestRequest R} {score : AnomalyScore R}
    {triageResult : TriageResult R}
    (htriage : ctl.triageWindow req.env req.payload
      (pendingWindow req.payload req.env.windowId score) = some triageResult) :
    Linked ctl.platform req (triagedWindow ctl.platform
      (pendingWindow req.payload req.env.windowId score) triageResult) triageResult where
  id := rfl
  containerId := rfl
  triageResultId := rfl
  windowId := (ids_of_triage htriage).2
  status := rfl
  not_pending := statusOf_ne_pending _ _

/-- One more request keeps the invariant, whether it returns or throws. -/
theorem RowsInv.step (h : RowsInv ctl reqs (ctl.stateAfter reqs))
    (hids : ∀ q ∈ reqs, q.env.windowId ≠ req.env.windowId ∧ q.env.triageId ≠ req.env.triageId) :
    RowsInv ctl (reqs ++ [req]) (ctl.stateAfter (reqs ++ [req])) := by
  have hfresh : ∀ w ∈ (ctl.stateAfter reqs).windows, w.id ≠ req.env.windowId := by
    intro w hw
    obtain ⟨q, hq, hid⟩ := h.windowIds w hw
    rw [hid]
    exact (hids q hq).1
  rw [Controller.stateAfter, List.foldl_concat, Controller.next]
  -- A request adds no row, a pending window, or a triaged window with its result.
  cases hscore : req.env.scoreWindow req.payload.containerId (extract ctl.log req.payload) with
  | none =>
      have hresult := ctl.ingestWindow_of_no_score (s := ctl.stateAfter reqs) hscore
      obtain ⟨hwindows, hresults, -⟩ := Controller.ensureContainerRegistered_rows
        (s := ctl.stateAfter reqs) req.payload.containerId req.payload.agentId (req.env.now 0)
      refine h.extend hids none none (fun w hw => nomatch hw) (fun t ht => nomatch ht) ?_ ?_
        fun hreturns => ?_
      · rw [hresult]
        simpa using hwindows
      · rw [hresult]
        simpa using hresults
      · rw [Controller.Returns, hresult] at hreturns
        cases hreturns
  | some score =>
      cases htriage : ctl.triageWindow req.env req.payload
          (pendingWindow req.payload req.env.windowId score) with
      | none =>
          have hresult := ctl.ingestWindow_of_no_triage (s := ctl.stateAfter reqs) hscore htriage
          refine h.extend hids (some _) none (fun w hw => ?_) (fun t ht => nomatch ht)
            (hresult.windows.trans (saveWindow_of_fresh hfresh)) ?_ fun hreturns => ?_
          · rw [← Option.some.inj hw]
            rfl
          · simpa using hresult.triageResults
          · rw [Controller.Returns, hresult.response] at hreturns
            cases hreturns
      | some triageResult =>
          have hresult := ctl.ingestWindow_of_triage (s := ctl.stateAfter reqs) hscore htriage
          have hwindows := hresult.windows.trans (saveWindow_of_fresh hfresh)
          refine h.extend hids (some _) (some triageResult) (fun w hw => ?_) (fun t ht => ?_)
            hwindows hresult.triageResults
            fun _ => ⟨_, ?_, triageResult, ?_, linked_triagedWindow ctl htriage⟩
          · rw [← Option.some.inj hw]
            rfl
          · rw [← Option.some.inj ht]
            exact (ids_of_triage htriage).1
          · rw [hwindows]
            simp
          · rw [hresult.triageResults]
            simp

/-- The rows of every run with different ids. -/
theorem rowsInv_stateAfter (ctl : Controller R) (hids : DistinctIds reqs) :
    RowsInv ctl reqs (ctl.stateAfter reqs) := by
  induction reqs using List.reverseRecOn with
  | nil =>
      refine ⟨fun w hw => ?_, fun t ht => ?_, List.nodup_nil, List.nodup_nil,
        fun before q hinit => ?_⟩
      · cases hw
      · cases ht
      · simp at hinit
  | append_singleton reqs req ih =>
      have hwindows := hids.windows
      have hresults := hids.triageResults
      rw [List.map_append, List.nodup_append] at hwindows hresults
      refine (ih ⟨hwindows.1, hresults.1⟩).step fun q hq => ⟨?_, ?_⟩
      · exact hwindows.2.2 _ (List.mem_map_of_mem hq) _ (by simp)
      · exact hresults.2.2 _ (List.mem_map_of_mem hq) _ (by simp)

end Rows

/-! ## Policies and events -/

/-- What a request that returns appends. -/
theorem appends_of_triage {ctl : Controller R} {s : ServerState R} {req : IngestRequest R}
    {score : AnomalyScore R} {triageResult : TriageResult R}
    (hscore : req.env.scoreWindow req.payload.containerId (extract ctl.log req.payload) =
      some score)
    (htriage : ctl.triageWindow req.env req.payload
      (pendingWindow req.payload req.env.windowId score) = some triageResult) :
    Appends s (ctl.next s req) req (statusOf ctl.platform triageResult.verdict) := by
  have hresult := ctl.ingestWindow_of_triage (s := s) hscore htriage
  have hdiscovered : (Controller.discoveryEvents req.env req.payload s).map LiveEvent.type =
      if s.isRegistered req.payload.containerId then [] else [.containerDiscovered] := by
    rw [Controller.discoveryEvents]
    split <;> rfl
  have hown : ∀ e ∈ Controller.discoveryEvents req.env req.payload s,
      e.containerId = req.payload.containerId := by
    intro e he
    rw [Controller.discoveryEvents] at he
    split at he
    · cases he
    · rw [List.mem_singleton.1 he]
  have hthreat := statusOf_eq_threat_iff ctl.platform triageResult.verdict
  have happlied := ctl.appliedPolicy_eq req.env
    (pendingWindow req.payload req.env.windowId score) triageResult
  rcases happlied with ⟨hnot, hnone⟩ | ⟨hyes, policy, hsome, hcontainer, -⟩
  · -- Neither a policy nor its event is added.
    have hstatus : statusOf ctl.platform triageResult.verdict ≠ .threat := by
      rw [Ne, hthreat, hnot]
      simp
    refine ⟨⟨_, hresult.policies, ?_, ?_⟩, ⟨_, hresult.events, ?_, ?_⟩⟩
    · simp [hnone]
    · simp [hnone, hstatus]
    · intro e he
      simp only [hnone, Option.map_none, Option.toList_none, List.append_nil, List.mem_append,
        List.mem_cons, List.not_mem_nil, or_false] at he
      rcases he with he | rfl | rfl
      · exact hown e he
      · rfl
      · rfl
    · rw [List.map_append, List.map_append, hdiscovered, hnone, if_neg hstatus]
      rfl
  · -- A policy, and behind the two events of the window the event of the policy.
    have hstatus : statusOf ctl.platform triageResult.verdict = .threat := hthreat.2 hyes
    refine ⟨⟨_, hresult.policies, ?_, ?_⟩, ⟨_, hresult.events, ?_, ?_⟩⟩
    · intro policy' hpolicy'
      rw [hsome, Option.toList_some, List.mem_singleton] at hpolicy'
      rw [hpolicy', hcontainer]
      rfl
    · rw [hsome, if_pos hstatus]
      rfl
    · intro e he
      simp only [hsome, Option.map_some, Option.toList_some, List.mem_append, List.mem_cons,
        List.not_mem_nil, or_false] at he
      rcases he with (he | rfl | rfl) | rfl
      · exact hown e he
      · rfl
      · rfl
      · rfl
    · rw [List.map_append, List.map_append, hdiscovered, hsome, if_pos hstatus]
      rfl

/-! ## Runs -/

/-- After every request that returns, the stores are consistent, whatever the scores and the
replies of the language model are. -/
theorem ingestion_integrity (ctl : Controller R) (reqs : List (IngestRequest R))
    (hids : DistinctIds reqs) (pre : List (IngestRequest R)) (req : IngestRequest R)
    (hinit : pre ++ [req] <+: reqs) (hreturns : ctl.Returns pre req) :
    Integrity ctl pre req := by
  have hids' : DistinctIds (pre ++ [req]) :=
    ⟨hids.windows.sublist (hinit.sublist.map _),
      hids.triageResults.sublist (hinit.sublist.map _)⟩
  have hrows := rowsInv_stateAfter ctl hids'
  obtain ⟨score, triageResult, hscore, htriage⟩ := ctl.response_isSome_iff.1 hreturns
  have hstep : ctl.stateAfter (pre ++ [req]) = ctl.next (ctl.stateAfter pre) req :=
    List.foldl_concat ..
  have hwindows := (ctl.ingestWindow_of_triage (s := ctl.stateAfter pre) hscore htriage).windows
  refine ⟨hrows.nodup_windows, fun before q hq hreturned => ?_, ?_⟩
  -- a row whose id occurs once is the only one that the filter finds
  · obtain ⟨w, hw, t, ht, hlink⟩ := hrows.linked before q hq hreturned
    refine ⟨w, t, hlink, ?_, Table.filter_eq_singleton hrows.nodup_results ht⟩
    rw [← hlink.id]
    exact Table.filter_eq_singleton hrows.nodup_windows hw
  · refine ⟨triagedWindow ctl.platform (pendingWindow req.payload req.env.windowId score)
      triageResult, ?_, rfl, ?_⟩
    · rw [hstep, Controller.next, hwindows]
      exact List.mem_append_right _ List.mem_cons_self
    · rw [hstep]
      exact appends_of_triage hscore htriage

/-! ## Two requests -/

/-- A request with a flagged window. -/
def flaggedRequest : IngestRequest ℚ :=
  ⟨⟨1, "node-1", "prod/api", 0, some [⟨0, 42, 2, 0⟩]⟩,
    exampleEnv ⟨7 / 10, true⟩ "w1" "t1" "p1" (.reply 200)⟩

/-- A request with a normal window. -/
def normalRequest : IngestRequest ℚ :=
  ⟨⟨1, "node-1", "prod/api", 5000000000, some []⟩,
    exampleEnv ⟨0, false⟩ "w2" "t2" "p2" (.reply 200)⟩

theorem integrity_normalRequest : Integrity exampleController [flaggedRequest] normalRequest :=
  ingestion_integrity exampleController [flaggedRequest, normalRequest]
    ⟨by decide, by decide⟩ [flaggedRequest] normalRequest (List.prefix_refl _)
    (Controller.isSome_response_of_score rfl fun _ h => nomatch h)

end DeepKernel.Server
