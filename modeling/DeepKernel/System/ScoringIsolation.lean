import DeepKernel.Lib.Execution
import DeepKernel.Server.HybridAdapter
import DeepKernel.Server.Ingest

/-!
# Windows of one container and the scoring of another

All containers share one hybrid adapter, and with it its breaker. The ML service rejects every
vector that does not have 594 values, and the adapter takes a rejection for an outage. The extractor
gives an empty vector for a window without records. So one such window moves the scoring of all
containers to the in-process adapter. As long as every window has records, the breaker stays closed
and every window is scored on its own (`score_of_ready`).
-/

set_option autoImplicit false

namespace DeepKernel.System

open DeepKernel.Lib DeepKernel.Server

variable {R : Type} [Field R] [LinearOrder R]

/-! ## Requests to the pipeline with the hybrid adapter -/

/-- A request, the readings of the clock while it is scored, and what else is outside. -/
structure ScoringRequest (R : Type) where
  payload : ShortWindowPayload
  now : Int64
  checkTime : Int64
  env : IngestEnv R

/-- The repositories and the adapter. -/
structure Pipeline (R : Type) where
  server : ServerState R
  adapter : HybridAdapter R

/-- Who scored the window of a container, and the score. -/
structure Scoring (R : Type) where
  containerId : String
  byRemote : Bool
  score : AnomalyScore R

/-- The answer of `RemoteMlAdapter.scoreWindow` while the ML service is up: the service scores a
vector of 594 values and rejects any other, and the adapter throws on the rejection. -/
def remoteAnswer (ml : String → List R → AnomalyScore R) (containerId : String)
    (values : List R) : Option (AnomalyScore R) :=
  if values.length = 594 then some (ml containerId values) else none

/-- The remote was used and did not throw. -/
def usedRemote (events : List (HybridEvent R)) : Bool :=
  events.any fun e =>
    match e with
    | .remoteCall threw => !threw
    | _ => false

section Run

variable (ctl : Controller R) (ml : String → List R → AnomalyScore R)

/-- The call of the scorer for a request. Health checks find the service up. -/
def scoreRequest (a : HybridAdapter R) (req : ScoringRequest R) :
    HybridAdapter R × List (HybridEvent R) × AnomalyScore R :=
  a.scoreWindow req.payload.containerId (extract ctl.log req.payload)
    ⟨req.now, req.checkTime, true⟩
    (remoteAnswer ml req.payload.containerId (extract ctl.log req.payload))

/-- One request through the pipeline, with its scoring. -/
def Pipeline.step (s : Pipeline R) (req : ScoringRequest R) : Pipeline R × List (Scoring R) :=
  let scored := scoreRequest ctl ml s.adapter req
  let env := { req.env with scoreWindow := fun _ _ => some scored.2.2 }
  ({ server := (ctl.ingestWindow env req.payload s.server).state, adapter := scored.1 },
    [⟨req.payload.containerId, usedRemote scored.2.1, scored.2.2⟩])

/-- The scorings of a run that starts with the given adapter. -/
abbrev scorings (s : Pipeline R) (reqs : List (ScoringRequest R)) : List (Scoring R) :=
  outputs (Pipeline.step ctl ml) s reqs

/-- A started server that prefers the remote and has found it up. -/
def Pipeline.start (localAdapter : LocalAdapter R) (time : Int64) : Pipeline R :=
  ⟨.init, (HybridAdapter.create true localAdapter time true).1⟩

/-- Leaving out the requests of `A` does not change how the windows of `B` are scored. -/
def Undisturbed (s : Pipeline R) (A B : String) (reqs : List (ScoringRequest R)) : Prop :=
  (scorings ctl ml s reqs).filter (fun e => decide (e.containerId = B)) =
    (scorings ctl ml s (reqs.filter fun req => decide (req.payload.containerId ≠ A))).filter
      fun e => decide (e.containerId = B)

end Run

/-! ## Windows with records -/

/-- The window has records. -/
def HasRecords (req : ScoringRequest R) : Prop :=
  ∃ records, req.payload.records = some records ∧ records ≠ []

theorem length_extract (log : R → R) {req : ScoringRequest R} (h : HasRecords req) :
    (extract log req.payload).length = 594 := by
  obtain ⟨records, hrecords, hne⟩ := h
  rw [extract_of_ne_nil log hrecords hne, Scan.vector, length_fitTo]

/-- The breaker is closed. -/
structure Ready (a : HybridAdapter R) : Prop where
  preferRemote : a.preferRemote = true
  remoteAvailable : a.remoteAvailable = true

omit [Field R] [LinearOrder R] in
theorem Ready.periodicCheck {a : HybridAdapter R} (h : Ready a) (now checkTime : Int64) :
    Ready (a.periodicCheck ⟨now, checkTime, true⟩).1 := by
  rw [HybridAdapter.periodicCheck]
  split
  · exact ⟨h.preferRemote, rfl⟩
  · exact h

/-- A window with records is scored by the remote and leaves the breaker closed. -/
theorem score_of_ready (ctl : Controller R) (ml : String → List R → AnomalyScore R)
    {a : HybridAdapter R} (ha : Ready a) {req : ScoringRequest R} (hreq : HasRecords req) :
    Ready (scoreRequest ctl ml a req).1 ∧ usedRemote (scoreRequest ctl ml a req).2.1 = true ∧
      (scoreRequest ctl ml a req).2.2 =
        ml req.payload.containerId (extract ctl.log req.payload) := by
  have hchecked := ha.periodicCheck req.now req.checkTime
  have hremote : remoteAnswer ml req.payload.containerId (extract ctl.log req.payload) =
      some (ml req.payload.containerId (extract ctl.log req.payload)) :=
    if_pos (length_extract ctl.log hreq)
  rw [scoreRequest, hremote, HybridAdapter.scoreWindow, HybridAdapter.tryRemote,
    HybridAdapter.shouldUseRemote, if_pos ha.preferRemote]
  simp only [hchecked.remoteAvailable, if_true, Option.isNone_some, Bool.false_eq_true, if_false]
  exact ⟨hchecked, by simp [usedRemote], rfl⟩

/-! ## Runs -/

theorem scorings_cons (ctl : Controller R) (ml : String → List R → AnomalyScore R)
    (s : Pipeline R) (req : ScoringRequest R) (reqs : List (ScoringRequest R)) :
    scorings ctl ml s (req :: reqs) =
      ⟨req.payload.containerId, usedRemote (scoreRequest ctl ml s.adapter req).2.1,
        (scoreRequest ctl ml s.adapter req).2.2⟩ ::
      scorings ctl ml (Pipeline.step ctl ml s req).1 reqs :=
  rfl

theorem Pipeline.adapter_step (ctl : Controller R) (ml : String → List R → AnomalyScore R)
    (s : Pipeline R) (req : ScoringRequest R) :
    (Pipeline.step ctl ml s req).1.adapter = (scoreRequest ctl ml s.adapter req).1 :=
  rfl

/-- The scoring of a window with records does not depend on other requests. -/
theorem scorings_eq_map (ctl : Controller R) (ml : String → List R → AnomalyScore R)
    {s : Pipeline R} (hs : Ready s.adapter) {reqs : List (ScoringRequest R)}
    (hreqs : ∀ req ∈ reqs, HasRecords req) :
    scorings ctl ml s reqs = reqs.map fun req =>
      ⟨req.payload.containerId, true,
        ml req.payload.containerId (extract ctl.log req.payload)⟩ := by
  refine outputs_eq_map (I := fun s => Ready s.adapter) (P := HasRecords) ?_ hs hreqs
  intro s req hreq hready
  obtain ⟨hnext, hused, hscore⟩ := score_of_ready ctl ml hready hreq
  refine ⟨hnext, ?_⟩
  rw [Pipeline.step, hused, hscore]

omit [Field R] [LinearOrder R] in
theorem ready_start (localAdapter : LocalAdapter R) (time : Int64) :
    Ready (Pipeline.start localAdapter time).adapter :=
  ⟨rfl, rfl⟩

/-- If every window of a run has records, no container disturbs another. -/
theorem undisturbed_of_records (ctl : Controller R) (ml : String → List R → AnomalyScore R)
    (localAdapter : LocalAdapter R) (time : Int64) (reqs : List (ScoringRequest R))
    (hreqs : ∀ req ∈ reqs, HasRecords req) (A B : String) (hAB : A ≠ B) :
    Undisturbed ctl ml (.start localAdapter time) A B reqs := by
  have hstart := ready_start localAdapter time
  rw [Undisturbed, scorings_eq_map ctl ml hstart hreqs,
    scorings_eq_map ctl ml hstart fun req hreq => hreqs req (List.mem_filter.1 hreq).1,
    List.filter_map, List.filter_map, List.filter_filter]
  -- On both sides the scorings are those of the requests of `B`, which are not of `A`.
  congr 1
  refine List.filter_congr fun req _ => ?_
  by_cases hB : req.payload.containerId = B
  · simp [hB, Ne.symm hAB]
  · simp [hB]

/-! ## A window without records -/

section Empty

variable (ctl : Controller R) (ml : String → List R → AnomalyScore R) {a : HybridAdapter R}
  {req : ScoringRequest R}

omit [Field R] [LinearOrder R] in
theorem periodicCheck_of_not_due {now : Int64} (checkTime : Int64)
    (hdue : ¬ healthCheckIntervalMs < now - a.lastHealthCheck) :
    a.periodicCheck ⟨now, checkTime, true⟩ = (a, []) :=
  if_neg hdue

/-- A window without records opens the breaker. -/
theorem open_of_no_records (ha : Ready a) (hreq : extract ctl.log req.payload = [])
    (hdue : ¬ healthCheckIntervalMs < req.now - a.lastHealthCheck) :
    (scoreRequest ctl ml a req).1 = { a with remoteAvailable := false } := by
  have hremote : remoteAnswer ml req.payload.containerId (extract ctl.log req.payload) = none := by
    rw [remoteAnswer, hreq]
    exact if_neg (by simp)
  rw [scoreRequest, hremote, HybridAdapter.scoreWindow, HybridAdapter.tryRemote,
    HybridAdapter.shouldUseRemote, if_pos ha.preferRemote,
    periodicCheck_of_not_due req.checkTime hdue]
  simp only [ha.remoteAvailable, if_true, Option.isNone_none]

/-- While the breaker is open and no check is due, windows are scored in the process. -/
theorem usedRemote_of_open (hopen : a.remoteAvailable = false)
    (hdue : ¬ healthCheckIntervalMs < req.now - a.lastHealthCheck) :
    usedRemote (scoreRequest ctl ml a req).2.1 = false := by
  rw [scoreRequest, HybridAdapter.scoreWindow, HybridAdapter.tryRemote,
    HybridAdapter.shouldUseRemote, periodicCheck_of_not_due req.checkTime hdue]
  cases a.preferRemote <;> simp [hopen, usedRemote]

/-- A window of `A` without records, then one of `B` with records, both before the next check. -/
theorem disturbed_of_no_records (localAdapter : LocalAdapter R) {time : Int64} {A B : String}
    (hAB : A ≠ B) {reqA reqB : ScoringRequest R} (hA : reqA.payload.containerId = A)
    (hB : reqB.payload.containerId = B) (hempty : extract ctl.log reqA.payload = [])
    (hrecords : HasRecords reqB) (hdueA : ¬ healthCheckIntervalMs < reqA.now - time)
    (hdueB : ¬ healthCheckIntervalMs < reqB.now - time) :
    ¬ Undisturbed ctl ml (.start localAdapter time) A B [reqA, reqB] := by
  have hopen := open_of_no_records ctl ml (ready_start localAdapter time) hempty hdueA
  have hused : usedRemote (scoreRequest ctl ml (scoreRequest ctl ml
      (Pipeline.start localAdapter time).adapter reqA).1 reqB).2.1 = false := by
    rw [hopen]
    exact usedRemote_of_open ctl ml rfl hdueB
  have hBA : B ≠ A := Ne.symm hAB
  have hdropped : [reqA, reqB].filter (fun req => decide (req.payload.containerId ≠ A)) =
      [reqB] := by
    simp [hA, hB, hBA]
  have hready := score_of_ready ctl ml (ready_start localAdapter time) hrecords
  -- With the window of `A` the one of `B` is scored in the process, without it remotely.
  intro h
  rw [Undisturbed, hdropped, scorings_cons, scorings_cons, scorings_cons, Pipeline.adapter_step,
    hused, hready.2.1, hA, hB] at h
  simp [hAB] at h

end Empty

/-! ## Two containers -/

/-- A request at a time of the clock. -/
def requestAt (now : Int64) (containerId : String) (records : Option (List TraceRecord)) :
    ScoringRequest ℚ where
  payload := ⟨1, "node-1", containerId, 0, records⟩
  now := now
  checkTime := now
  env := exampleEnv ⟨0, false⟩ "w1" "t1" "p1" (.reply 200)

/-- Two windows with records. -/
theorem undisturbed_two_windows :
    Undisturbed exampleController (fun _ _ => ⟨-1 / 2, false⟩) (.start .init 0) "a" "b"
      [requestAt 1 "a" (some [⟨0, 42, 2, 0⟩]), requestAt 2 "b" (some [⟨0, 42, 2, 0⟩])] := by
  refine undisturbed_of_records exampleController _ .init 0 _ ?_ "a" "b" (by decide)
  intro req hreq
  simp only [List.mem_cons, List.not_mem_nil, or_false] at hreq
  rcases hreq with rfl | rfl
  · exact ⟨_, rfl, by simp⟩
  · exact ⟨_, rfl, by simp⟩

/-- The window of `a` has no records: the window of `b` is scored in the process instead of by the
ML service. -/
theorem disturbed_by_null_records :
    ¬ Undisturbed exampleController (fun _ _ => ⟨-1 / 2, false⟩) (.start .init 0) "a" "b"
      [requestAt 1 "a" none, requestAt 2 "b" (some [⟨0, 42, 2, 0⟩])] :=
  disturbed_of_no_records exampleController _ .init (by decide) rfl rfl rfl ⟨_, rfl, by simp⟩
    (by decide) (by decide)

end DeepKernel.System
