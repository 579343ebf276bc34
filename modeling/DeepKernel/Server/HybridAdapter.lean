import DeepKernel.Lib.Execution
import DeepKernel.Server.LocalAdapter

/-!
# The hybrid scorer

`HybridAnomalyAdapter`: the remote scorer behind a breaker, with the in-process scorer as fallback.
A call brings what its environment answers: the readings of the clock, the result of a health check
and of the remote operation. A call emits what an observer sees: health checks, uses of the remote
scorer, and the score that is returned.

The breaker is judged by the emitted events alone. `armed` reads its state off them, `Guarded` is
what it means for the breaker to be closed, and `BreakerSpec` collects the properties of a run.
-/

set_option autoImplicit false

namespace DeepKernel.Server

open DeepKernel.Lib

variable {R : Type} [Field R] [LinearOrder R]

/-! ## The adapter -/

/-- `HEALTH_CHECK_INTERVAL_MS`. -/
def healthCheckIntervalMs : Int64 := 5 * 60 * 1000

/-- The fields of `HybridAnomalyAdapter`. -/
structure HybridAdapter (R : Type) where
  preferRemote : Bool
  remoteAvailable : Bool
  lastHealthCheck : Int64
  localAdapter : LocalAdapter R

/-- What an observer sees of the adapter. `automatic` tells the checks of the constructor and of
`shouldUseRemote` from those of `refreshRemoteStatus`. -/
inductive HybridEvent (R : Type)
  | healthCheck (automatic : Bool) (time : Int64) (available : Bool)
  | remoteCall (threw : Bool)
  | scored (score : AnomalyScore R)

/-- The answers of the environment during an operation: the clock in `shouldUseRemote`, the clock
in `checkRemoteHealth` and the result of `isAvailable` there, if the check is made. -/
structure CallEnv where
  now : Int64
  checkTime : Int64
  available : Bool

namespace HybridAdapter

/-- `checkRemoteHealth`. -/
def checkRemoteHealth (a : HybridAdapter R) (automatic : Bool) (time : Int64) (available : Bool) :
    HybridAdapter R × List (HybridEvent R) :=
  ({ a with remoteAvailable := available, lastHealthCheck := time },
    [.healthCheck automatic time available])

/-- The constructor with a local adapter. -/
def create (preferRemote : Bool) (localAdapter : LocalAdapter R) (time : Int64)
    (available : Bool) : HybridAdapter R × List (HybridEvent R) :=
  let a : HybridAdapter R := ⟨preferRemote, false, 0, localAdapter⟩
  if preferRemote then a.checkRemoteHealth true time available else (a, [])

/-- The periodic health check of `shouldUseRemote`. -/
def periodicCheck (a : HybridAdapter R) (env : CallEnv) :
    HybridAdapter R × List (HybridEvent R) :=
  if healthCheckIntervalMs < env.now - a.lastHealthCheck then
    a.checkRemoteHealth true env.checkTime env.available
  else (a, [])

/-- `shouldUseRemote` and its result. -/
def shouldUseRemote (a : HybridAdapter R) (env : CallEnv) :
    HybridAdapter R × List (HybridEvent R) × Bool :=
  if a.preferRemote then
    ((a.periodicCheck env).1, (a.periodicCheck env).2, (a.periodicCheck env).1.remoteAvailable)
  else (a, [], false)

/-- Try the remote if `shouldUseRemote` says so, and whether it was used; `threw` says whether the
operation throws. -/
def tryRemote (a : HybridAdapter R) (env : CallEnv) (threw : Bool) :
    HybridAdapter R × List (HybridEvent R) × Bool :=
  let checked := a.shouldUseRemote env
  if checked.2.2 then
    (if threw then { checked.1 with remoteAvailable := false } else checked.1,
      checked.2.1 ++ [.remoteCall threw], true)
  else checked

/-- `scoreWindow`; `remote` is the answer of the remote adapter, `none` if it throws. -/
def scoreWindow (a : HybridAdapter R) (containerId : String) (values : List R) (env : CallEnv)
    (remote : Option (AnomalyScore R)) :
    HybridAdapter R × List (HybridEvent R) × AnomalyScore R :=
  let tried := a.tryRemote env remote.isNone
  let fallback := tried.1.localAdapter.scoreWindow containerId values
  let score := if tried.2.2 then remote.getD fallback else fallback
  (tried.1, tried.2.1 ++ [.scored score], score)

/-- `trainModel`: first the local adapter, then the remote one. -/
def trainModel (a : HybridAdapter R) (containerId : String) (trainingData : List (List R))
    (env : CallEnv) (threw : Bool) : HybridAdapter R × List (HybridEvent R) :=
  let tried :=
    tryRemote { a with localAdapter := a.localAdapter.trainModel containerId trainingData } env
      threw
  (tried.1, tried.2.1)

/-- `getModelMeta`; `remote` is the answer of the remote adapter, `none` if it throws. -/
def getModelMeta (a : HybridAdapter R) (containerId : String) (env : CallEnv)
    (remote : Option ModelMeta) : HybridAdapter R × List (HybridEvent R) × Option ModelMeta :=
  let tried := a.tryRemote env remote.isNone
  let fallback := tried.1.localAdapter.getModelMeta containerId
  (tried.1, tried.2.1, if tried.2.2 then remote <|> fallback else fallback)

end HybridAdapter

/-- A call of the adapter. -/
inductive HybridOp (R : Type)
  | scoreWindow (containerId : String) (values : List R) (env : CallEnv)
      (remote : Option (AnomalyScore R))
  | trainModel (containerId : String) (trainingData : List (List R)) (env : CallEnv)
      (threw : Bool)
  | getModelMeta (containerId : String) (env : CallEnv) (remote : Option ModelMeta)
  | refreshRemoteStatus (time : Int64) (available : Bool)

/-- One call. -/
def HybridAdapter.step (a : HybridAdapter R) : HybridOp R → HybridAdapter R × List (HybridEvent R)
  | .scoreWindow c values env remote =>
      ((a.scoreWindow c values env remote).1, (a.scoreWindow c values env remote).2.1)
  | .trainModel c data env threw => a.trainModel c data env threw
  | .getModelMeta c env remote =>
      ((a.getModelMeta c env remote).1, (a.getModelMeta c env remote).2.1)
  | .refreshRemoteStatus time available => a.checkRemoteHealth false time available

/-- The readings of the clock during a call, in order. -/
def HybridOp.times : HybridOp R → List Int64
  | .scoreWindow _ _ env _ => [env.now, env.checkTime]
  | .trainModel _ _ env _ => [env.now, env.checkTime]
  | .getModelMeta _ env _ => [env.now, env.checkTime]
  | .refreshRemoteStatus time _ => [time]

/-! ## Properties of the emitted events -/

namespace HybridEvent

/-- Health checks that report the remote available. -/
def reportsAvailable : HybridEvent R → Bool
  | .healthCheck _ _ available => available
  | _ => false

/-- Uses of the remote that end in an exception. -/
def isException : HybridEvent R → Bool
  | .remoteCall threw => threw
  | _ => false

/-- The time of an automatic health check. -/
def automaticCheck : HybridEvent R → Option Int
  | .healthCheck automatic time _ => if automatic then some time.toInt else none
  | _ => none

/-- The state of the breaker after an event. -/
def arm (armed : Bool) : HybridEvent R → Bool
  | .healthCheck _ _ available => available
  | .remoteCall threw => armed && !threw
  | .scored _ => armed

end HybridEvent

/-- The state of the breaker after some events: the latest health check reported the remote
available and no exception came after it. -/
def armed (events : List (HybridEvent R)) : Bool := events.foldl HybridEvent.arm false

/-- Some health check reported the remote available, and since then there was neither an exception
of the remote nor another check. -/
def Guarded (events : List (HybridEvent R)) : Prop :=
  ∃ before automatic time since, events = before ++ .healthCheck automatic time true :: since ∧
    ∀ e ∈ since, e.isException = false ∧ ∀ auto t available, e ≠ .healthCheck auto t available

/-- What an observer can rely on. -/
structure BreakerSpec (events : List (HybridEvent R)) : Prop where
  guarded : ∀ before threw after, events = before ++ .remoteCall threw :: after → Guarded before
  exceptions_le : events.countP HybridEvent.isException ≤
    events.countP HybridEvent.reportsAvailable
  apart : (events.filterMap HybridEvent.automaticCheck).Pairwise
    fun t t' => t + 5 * 60 * 1000 < t'

/-! ## One event more -/

section Events

variable {events : List (HybridEvent R)}

omit [Field R] [LinearOrder R]

theorem armed_concat (e : HybridEvent R) : armed (events ++ [e]) = e.arm (armed events) := by
  rw [armed, List.foldl_concat]
  rfl

theorem guarded_of_armed (h : armed events = true) : Guarded events := by
  induction events using List.reverseRecOn with
  | nil => cases h
  | append_singleton events e ih =>
      rw [armed_concat] at h
      -- A check makes the guard; every other event inherits it from the events before.
      have hinherit : armed events = true → e.isException = false →
          (∀ auto t available, e ≠ .healthCheck auto t available) → Guarded (events ++ [e]) := by
        intro harmed hexc hcheck
        obtain ⟨before, auto, time, since, rfl, hsince⟩ := ih harmed
        refine ⟨before, auto, time, since ++ [e], by simp, fun e' he' => ?_⟩
        rcases List.mem_append.1 he' with he' | he'
        · exact hsince e' he'
        · rw [List.mem_singleton.1 he']
          exact ⟨hexc, hcheck⟩
      cases e with
      | healthCheck auto time available =>
          obtain rfl : available = true := h
          exact ⟨events, auto, time, [], rfl, fun e he => nomatch he⟩
      | remoteCall threw =>
          rw [HybridEvent.arm, Bool.and_eq_true, Bool.not_eq_true'] at h
          exact hinherit h.1 h.2 fun _ _ _ he => nomatch he
      | scored score => exact hinherit h rfl fun _ _ _ he => nomatch he

/-- The specification together with what carries it along a run; `last` is the time of the latest
health check. -/
structure LogInv (events : List (HybridEvent R)) (last : Int) : Prop extends
    BreakerSpec events where
  count : events.countP HybridEvent.isException + (armed events).toNat ≤
    events.countP HybridEvent.reportsAvailable
  checks_le : ∀ t ∈ events.filterMap HybridEvent.automaticCheck, t ≤ last

theorem guarded_concat
    (h : ∀ before threw after, events = before ++ .remoteCall threw :: after → Guarded before)
    {e : HybridEvent R} (he : ∀ threw, e = .remoteCall threw → armed events = true) :
    ∀ before threw after, events ++ [e] = before ++ .remoteCall threw :: after →
      Guarded before := by
  intro before threw after heq
  -- The use of the remote is the new event or one of those before it.
  rcases List.eq_nil_or_concat' after with rfl | ⟨after, e', rfl⟩
  · obtain ⟨rfl, hlast⟩ := List.append_inj' heq rfl
    exact guarded_of_armed (he threw (List.cons.inj hlast).1)
  · rw [← List.cons_append, ← List.append_assoc] at heq
    exact h before threw after (List.append_inj' heq rfl).1

theorem checks_concat {e : HybridEvent R} (he : e.automaticCheck = none) :
    (events ++ [e]).filterMap HybridEvent.automaticCheck =
      events.filterMap HybridEvent.automaticCheck := by
  rw [List.filterMap_append, List.filterMap_cons_none he, List.filterMap_nil, List.append_nil]

theorem LogInv.check {last : Int} (h : LogInv events last) {automatic : Bool} {time : Int64}
    (available : Bool) (hle : last ≤ time.toInt)
    (hapart : automatic = true → last + 5 * 60 * 1000 < time.toInt) :
    LogInv (events ++ [.healthCheck automatic time available]) time.toInt := by
  have hcount := h.count
  refine ⟨⟨guarded_concat h.guarded fun _ he => (nomatch he), ?_, ?_⟩, ?_, ?_⟩
  · -- a check adds no exception
    have hexc := h.exceptions_le
    rw [List.countP_append, List.countP_append]
    simp only [List.countP_singleton, HybridEvent.isException, Bool.false_eq_true, if_false]
    omega
  · -- an automatic check is five minutes after all earlier ones
    rw [List.filterMap_append, List.pairwise_append]
    refine ⟨h.apart, ?_, fun t ht t' ht' => ?_⟩
    · cases automatic <;> simp [HybridEvent.automaticCheck]
    · cases automatic with
      | false => simp [HybridEvent.automaticCheck] at ht'
      | true =>
          have hlast := h.checks_le t ht
          have hnew := hapart rfl
          simp only [HybridEvent.automaticCheck, List.filterMap_cons, List.filterMap_nil, if_true,
            List.mem_singleton] at ht'
          omega
  · -- a check that finds the service available arms the breaker again
    rw [armed_concat, List.countP_append, List.countP_append]
    cases available <;>
      simp only [List.countP_singleton, HybridEvent.isException, HybridEvent.reportsAvailable,
        HybridEvent.arm, Bool.toNat_true, Bool.toNat_false, Bool.false_eq_true, if_false,
        if_true] <;>
      omega
  · intro t ht
    rw [List.filterMap_append, List.mem_append] at ht
    rcases ht with ht | ht
    · exact (h.checks_le t ht).trans hle
    · cases automatic with
      | false => simp [HybridEvent.automaticCheck] at ht
      | true =>
          simp only [HybridEvent.automaticCheck, List.filterMap_cons, List.filterMap_nil, if_true,
            List.mem_singleton] at ht
          exact ht.le

theorem LogInv.remoteCall {last : Int} (h : LogInv events last) (harmed : armed events = true)
    (threw : Bool) : LogInv (events ++ [.remoteCall threw]) last := by
  -- the service was available, so an exception now is the first one since the check
  have hcount := h.count
  rw [harmed, Bool.toNat_true] at hcount
  refine ⟨⟨guarded_concat h.guarded fun _ _ => harmed, ?_, ?_⟩, ?_, ?_⟩
  · rw [List.countP_append, List.countP_append]
    cases threw <;>
      simp only [List.countP_singleton, HybridEvent.isException, HybridEvent.reportsAvailable,
        Bool.false_eq_true, if_false, if_true] <;>
      omega
  · rw [checks_concat rfl]
    exact h.apart
  · rw [armed_concat, harmed, List.countP_append, List.countP_append]
    cases threw <;>
      simp only [List.countP_singleton, HybridEvent.isException, HybridEvent.reportsAvailable,
        HybridEvent.arm, Bool.not_true, Bool.not_false, Bool.and_true, Bool.and_false,
        Bool.toNat_true, Bool.toNat_false, Bool.false_eq_true, if_false, if_true] <;>
      omega
  · rw [checks_concat rfl]
    exact h.checks_le

theorem LogInv.scored {last : Int} (h : LogInv events last) (score : AnomalyScore R) :
    LogInv (events ++ [.scored score]) last := by
  refine ⟨⟨guarded_concat h.guarded fun _ he => (nomatch he), ?_, ?_⟩, ?_, ?_⟩
  · simpa [List.countP_append, HybridEvent.isException, HybridEvent.reportsAvailable] using
      h.exceptions_le
  · rw [checks_concat rfl]
    exact h.apart
  · rw [armed_concat]
    simpa [List.countP_append, HybridEvent.isException, HybridEvent.reportsAvailable,
      HybridEvent.arm] using h.count
  · rw [checks_concat rfl]
    exact h.checks_le

end Events

/-! ## Calls -/

/-- The adapter prefers the remote and its breaker is what the events say; `clock` is a lower bound
of the next reading of the clock. -/
structure HybridInv (a : HybridAdapter R) (events : List (HybridEvent R)) (clock : Int) : Prop where
  preferRemote : a.preferRemote = true
  available : a.remoteAvailable = armed events
  log : LogInv events a.lastHealthCheck.toInt
  last_le : a.lastHealthCheck.toInt ≤ clock

/-- A difference of two readings that exceeds the interval does so without overflow. -/
theorem interval_lt_sub {last now : Int64} (hle : last.toInt ≤ now.toInt)
    (h : healthCheckIntervalMs < now - last) : last.toInt + 5 * 60 * 1000 < now.toInt := by
  have hlt := Int64.lt_iff_toInt_lt.1 h
  have hinterval : healthCheckIntervalMs.toInt = 5 * 60 * 1000 := by decide
  have hlast := last.le_toInt
  have hnow := now.toInt_lt
  rw [hinterval, Int64.toInt_sub] at hlt
  -- Both readings are in range and in order, so a small difference is the exact one.
  by_contra hnot
  rw [Int.bmod_eq_of_le (by omega) (by omega)] at hlt
  omega

section Calls

variable {a : HybridAdapter R} {events : List (HybridEvent R)} {clock : Int}

omit [Field R] [LinearOrder R]

theorem HybridInv.checkRemoteHealth (h : HybridInv a events clock) {automatic : Bool}
    {time : Int64} (available : Bool) (hclock : clock ≤ time.toInt)
    (hapart : automatic = true → a.lastHealthCheck.toInt + 5 * 60 * 1000 < time.toInt) :
    HybridInv (a.checkRemoteHealth automatic time available).1
      (events ++ (a.checkRemoteHealth automatic time available).2) time.toInt where
  preferRemote := h.preferRemote
  available := by
    rw [HybridAdapter.checkRemoteHealth, armed_concat]
    rfl
  log := h.log.check available (h.last_le.trans hclock) hapart
  last_le := le_rfl

theorem HybridInv.mono {clock' : Int} (h : HybridInv a events clock) (hle : clock ≤ clock') :
    HybridInv a events clock' :=
  ⟨h.preferRemote, h.available, h.log, h.last_le.trans hle⟩

theorem HybridInv.periodicCheck (h : HybridInv a events clock) {env : CallEnv}
    (hnow : clock ≤ env.now.toInt) (hcheck : env.now.toInt ≤ env.checkTime.toInt) :
    HybridInv (a.periodicCheck env).1 (events ++ (a.periodicCheck env).2)
      env.checkTime.toInt := by
  rw [HybridAdapter.periodicCheck]
  split
  · rename_i hdue
    have hapart := interval_lt_sub (h.last_le.trans hnow) hdue
    exact h.checkRemoteHealth env.available (hnow.trans hcheck) fun _ => by omega
  · rw [List.append_nil]
    exact h.mono (hnow.trans hcheck)

theorem HybridInv.tryRemote (h : HybridInv a events clock) {env : CallEnv} (threw : Bool)
    (hnow : clock ≤ env.now.toInt) (hcheck : env.now.toInt ≤ env.checkTime.toInt) :
    HybridInv (a.tryRemote env threw).1 (events ++ (a.tryRemote env threw).2.1)
      env.checkTime.toInt := by
  have hchecked := h.periodicCheck hnow hcheck
  rw [HybridAdapter.tryRemote, HybridAdapter.shouldUseRemote, if_pos h.preferRemote]
  by_cases hused : (a.periodicCheck env).1.remoteAvailable = true
  · -- The remote is used, and if it throws the breaker opens.
    have harmed : armed (events ++ (a.periodicCheck env).2) = true := by
      rw [← hchecked.available, hused]
    simp only [if_pos hused]
    rw [← List.append_assoc]
    have hlog := hchecked.log.remoteCall harmed threw
    have harm : armed (events ++ (a.periodicCheck env).2 ++ [.remoteCall threw]) = !threw := by
      rw [armed_concat, harmed]
      rfl
    cases threw with
    | true => exact ⟨hchecked.preferRemote, harm.symm, hlog, hchecked.last_le⟩
    | false => exact ⟨hchecked.preferRemote, hused.trans harm.symm, hlog, hchecked.last_le⟩
  · simp only [if_neg hused]
    exact hchecked

end Calls

/-- The readings of a call come after the clock and in order. -/
def HybridOp.InOrder (clock : Int) (op : HybridOp R) : Prop :=
  (clock :: op.times.map Int64.toInt).Pairwise (· ≤ ·)

/-- The clock after a call. -/
def HybridOp.lastTime : HybridOp R → Int
  | .scoreWindow _ _ env _ => env.checkTime.toInt
  | .trainModel _ _ env _ => env.checkTime.toInt
  | .getModelMeta _ env _ => env.checkTime.toInt
  | .refreshRemoteStatus time _ => time.toInt

/-- The two readings of a call that may check the health of the remote. -/
theorem le_of_inOrder {clock : Int} {now checkTime : Int64}
    (h : (clock :: [now, checkTime].map Int64.toInt).Pairwise (· ≤ ·)) :
    clock ≤ now.toInt ∧ now.toInt ≤ checkTime.toInt := by
  simp only [List.map_cons, List.map_nil, List.pairwise_cons, List.mem_cons, List.not_mem_nil,
    or_false, forall_eq_or_imp, forall_eq] at h
  exact ⟨h.1.1, h.2.1⟩

theorem HybridInv.step {a : HybridAdapter R} {events : List (HybridEvent R)} {clock : Int}
    (h : HybridInv a events clock) {op : HybridOp R} (hop : op.InOrder clock) :
    HybridInv (a.step op).1 (events ++ (a.step op).2) op.lastTime := by
  cases op with
  | scoreWindow c values env remote =>
      obtain ⟨hnow, hcheck⟩ := le_of_inOrder hop
      have htried := h.tryRemote remote.isNone hnow hcheck
      rw [HybridAdapter.step, HybridAdapter.scoreWindow]
      simp only
      -- The score comes after the events of the breaker and changes nothing for it.
      rw [← List.append_assoc]
      refine ⟨htried.preferRemote, ?_, htried.log.scored _, htried.last_le⟩
      rw [armed_concat]
      exact htried.available
  | trainModel c data env threw =>
      obtain ⟨hnow, hcheck⟩ := le_of_inOrder hop
      have htrained : HybridInv { a with localAdapter := a.localAdapter.trainModel c data } events
          clock := ⟨h.preferRemote, h.available, h.log, h.last_le⟩
      exact htrained.tryRemote threw hnow hcheck
  | getModelMeta c env remote =>
      obtain ⟨hnow, hcheck⟩ := le_of_inOrder hop
      exact h.tryRemote remote.isNone hnow hcheck
  | refreshRemoteStatus time available =>
      have hclock : clock ≤ time.toInt := by simpa [HybridOp.InOrder, HybridOp.times] using hop
      exact h.checkRemoteHealth available hclock fun hauto => by cases hauto

/-! ## Runs -/

theorem HybridInv.run {a : HybridAdapter R} {events : List (HybridEvent R)} {clock : Int}
    (h : HybridInv a events clock) {ops : List (HybridOp R)}
    (hops : (clock :: (ops.flatMap HybridOp.times).map Int64.toInt).Pairwise (· ≤ ·)) :
    BreakerSpec (events ++ outputs HybridAdapter.step a ops) := by
  induction ops generalizing a events clock with
  | nil =>
      rw [outputs_nil, List.append_nil]
      exact h.log.toBreakerSpec
  | cons op ops ih =>
      rw [List.flatMap_cons, List.map_append, ← List.cons_append, List.pairwise_append] at hops
      obtain ⟨hop, hrest, hlater⟩ := hops
      rw [outputs_cons, ← List.append_assoc]
      refine ih (h.step hop) (List.pairwise_cons.2 ⟨fun t ht => hlater _ ?_ t ht, hrest⟩)
      cases op <;> simp [HybridOp.times, HybridOp.lastTime]

omit [Field R] [LinearOrder R] in
theorem hybridInv_create (localAdapter : LocalAdapter R) (time : Int64) (available : Bool) :
    HybridInv (HybridAdapter.create true localAdapter time available).1
      (HybridAdapter.create true localAdapter time available).2 time.toInt := by
  -- As if the check before the first one had been made long ago.
  have hnil : LogInv ([] : List (HybridEvent R)) (time.toInt - (5 * 60 * 1000 + 1)) :=
    ⟨⟨fun before threw after heq => by simp at heq, le_rfl, List.Pairwise.nil⟩, le_rfl,
      fun t ht => by simp at ht⟩
  exact ⟨rfl, by cases available <;> rfl, hnil.check available (by omega) fun _ => by omega, le_rfl⟩

/-- A call of `scoreWindow` returns the answer of the remote if the remote was used and did not
throw, and the score of the local adapter otherwise. -/
def ReturnsScore (a : HybridAdapter R) (containerId : String) (values : List R) (env : CallEnv)
    (remote : Option (AnomalyScore R)) : Prop :=
  let r := a.scoreWindow containerId values env remote
  (.remoteCall false ∈ r.2.1 → remote = some r.2.2) ∧
    (.remoteCall false ∉ r.2.1 → r.2.2 = a.localAdapter.scoreWindow containerId values)

omit [Field R] [LinearOrder R] in
theorem remoteCall_not_mem_periodicCheck (a : HybridAdapter R) (env : CallEnv) (threw : Bool) :
    .remoteCall threw ∉ (a.periodicCheck env).2 := by
  rw [HybridAdapter.periodicCheck]
  split
  · simp [HybridAdapter.checkRemoteHealth]
  · simp

omit [Field R] [LinearOrder R] in
theorem localAdapter_periodicCheck (a : HybridAdapter R) (env : CallEnv) :
    (a.periodicCheck env).1.localAdapter = a.localAdapter := by
  rw [HybridAdapter.periodicCheck]
  split <;> rfl

omit [Field R] [LinearOrder R] in
/-- The remote is used once at most, and the local adapter stays as it is. -/
theorem tryRemote_spec (a : HybridAdapter R) (env : CallEnv) (threw : Bool) :
    (a.tryRemote env threw).1.localAdapter = a.localAdapter ∧
      ∀ threw', .remoteCall threw' ∈ (a.tryRemote env threw).2.1 ↔
        (a.tryRemote env threw).2.2 = true ∧ threw' = threw := by
  have hlocal := localAdapter_periodicCheck a env
  have hnot := remoteCall_not_mem_periodicCheck a env
  rw [HybridAdapter.tryRemote, HybridAdapter.shouldUseRemote]
  by_cases hprefer : a.preferRemote = true
  · rw [if_pos hprefer]
    by_cases hused : (a.periodicCheck env).1.remoteAvailable = true
    · simp only [if_pos hused]
      refine ⟨by cases threw <;> exact hlocal, fun threw' => ?_⟩
      simp [hnot threw']
    · simp only [if_neg hused]
      exact ⟨hlocal, fun threw' => by simp [hnot threw', hused]⟩
  · rw [if_neg hprefer]
    simp

theorem returnsScore (a : HybridAdapter R) (containerId : String) (values : List R)
    (env : CallEnv) (remote : Option (AnomalyScore R)) :
    ReturnsScore a containerId values env remote := by
  obtain ⟨hlocal, hcalls⟩ := tryRemote_spec a env remote.isNone
  have hmem := hcalls false
  rw [ReturnsScore, HybridAdapter.scoreWindow]
  simp only [List.mem_append, List.mem_singleton, reduceCtorEq, or_false, hmem, hlocal]
  cases remote with
  | none =>
      refine ⟨fun h => absurd h.2 (by simp), fun _ => ?_⟩
      split <;> rfl
  | some score =>
      refine ⟨fun h => by rw [if_pos h.1]; rfl, fun h => ?_⟩
      rw [if_neg fun hused => h ⟨hused, rfl⟩]

/-- Every run of an adapter that prefers the remote, with a clock that never goes back: the remote
is used only while the latest health check reported it available and it has not thrown since, it
throws at most once for every check that reported it available, automatic checks are more than five
minutes apart, and every score is the remote one if the remote was used without exception and the
local one otherwise. -/
theorem breaker_spec (localAdapter : LocalAdapter R) (time : Int64) (available : Bool)
    (ops : List (HybridOp R))
    (hclock : ((time :: ops.flatMap HybridOp.times).map Int64.toInt).Pairwise (· ≤ ·)) :
    let created := HybridAdapter.create true localAdapter time available
    BreakerSpec (created.2 ++ outputs HybridAdapter.step created.1 ops) ∧
      ∀ pre c values env remote, pre ++ [.scoreWindow c values env remote] <+: ops →
        ReturnsScore (finalState HybridAdapter.step created.1 pre) c values env remote :=
  ⟨(hybridInv_create localAdapter time available).run hclock,
    fun _ c values env remote _ => returnsScore _ c values env remote⟩

/-- Two windows: the remote throws on the first one and is not used for the second one. -/
theorem breaker_spec_two_windows :
    let created := HybridAdapter.create true (LocalAdapter.init : LocalAdapter ℚ) 0 true
    BreakerSpec (created.2 ++ outputs HybridAdapter.step created.1
      [.scoreWindow "a" [1 / 2, 3] ⟨1, 1, true⟩ none,
        .scoreWindow "a" [1 / 2, 4] ⟨2, 2, true⟩ (some ⟨0, false⟩)]) :=
  (breaker_spec (LocalAdapter.init : LocalAdapter ℚ) 0 true
    [.scoreWindow "a" [1 / 2, 3] ⟨1, 1, true⟩ none,
      .scoreWindow "a" [1 / 2, 4] ⟨2, 2, true⟩ (some ⟨0, false⟩)]
    (by decide)).1

end DeepKernel.Server
