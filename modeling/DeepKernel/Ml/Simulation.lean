import DeepKernel.Ml.Service

/-!
# What a simulation changes

A score is simulated exactly if the last request about the simulation of its container switched it
on (`scoreWindow_eq_last`). The flag `enabled` adds nothing to the map of simulated containers, since
it is set exactly if the map is not empty (`SimulationState.Consistent`). A container whose model
file no simulated container uses is answered as if nothing had ever been simulated
(`simulation_transparent`).
-/

set_option autoImplicit false

namespace DeepKernel.Ml

open DeepKernel.Lib

variable {F R : Type}

/-! ## The last request about a container -/

/-- The flag is set exactly if some container is simulated. -/
def SimulationState.Consistent (s : SimulationState R) : Prop :=
  s.enabled = !s.containers.entries.isEmpty

/-- What an input makes of the simulation of a container, if it is about it. -/
def simulationEffect (c : String) : ServiceInput R → Option (Option (Simulation R))
  | .enableSimulation k sim => if k = c then some (some sim) else none
  | .disableSimulation k => if k.getD "" = "" ∨ k.getD "" = c then some none else none
  | .restart => some none
  | _ => none

namespace SimulationState

theorem consistent_initial : (initial : SimulationState R).Consistent := rfl

theorem consistent_enable (s : SimulationState R) (c : String) (sim : Simulation R) :
    (s.enable c sim).Consistent := by
  have hmem : (c, sim) ∈ (s.containers.set c sim).entries :=
    (Table.mem_entries_iff _ c sim).2 (Table.find?_set_self _ c sim)
  rw [Consistent, enable]
  cases hentries : (s.containers.set c sim).entries with
  | nil =>
      rw [hentries] at hmem
      cases hmem
  | cons e es => rfl

theorem consistent_disable {s : SimulationState R} (h : s.Consistent) (c : Option String) :
    (s.disable c).Consistent := by
  rw [Consistent, disable]
  by_cases hc : c.getD "" ≠ ""
  · rw [if_pos hc]
    cases hentries : (s.containers.erase (c.getD "")).entries with
    | nil => simp [hentries]
    | cons e es =>
        -- a container that is left was simulated before, so the flag was set
        have he : e ∈ s.containers.entries := by
          have hsub : (s.containers.erase (c.getD "")).entries ⊆ s.containers.entries :=
            fun _ hx => List.mem_of_mem_filter hx
          exact hsub (hentries ▸ List.mem_cons_self)
        have hne : s.containers.entries.isEmpty = false := by
          cases hs : s.containers.entries with
          | nil =>
              rw [hs] at he
              cases he
          | cons e es => rfl
        have henabled : s.enabled = true := by rw [h, hne]; rfl
        simp [hentries, henabled]
  · rw [if_neg hc]
    rfl

theorem Consistent.next {s : SimulationState R} (h : s.Consistent) (i : ServiceInput R) :
    (s.next i).Consistent := by
  cases i with
  | enableSimulation c sim => exact consistent_enable s c sim
  | disableSimulation c => exact consistent_disable h c
  | restart => exact consistent_initial
  | health => exact h
  | scoreWindow c v => exact h
  | trainModel c data now => exact h
  | getModelMeta c => exact h
  | listModels => exact h
  | deleteModel c => exact h
  | getModelStats c => exact h
  | getSimulationStatus => exact h

theorem Consistent.simulated_eq {s : SimulationState R} (h : s.Consistent) (c : String) :
    s.simulated c = s.containers.find? c := by
  rw [simulated, h]
  cases hentries : s.containers.entries with
  | nil => simp [Table.find?, hentries, Table.assoc]
  | cons e es => rfl

theorem find?_containers_disable (s : SimulationState R) (k : Option String) (c : String) :
    (s.disable k).containers.find? c =
      if k.getD "" = "" ∨ k.getD "" = c then none else s.containers.find? c := by
  rw [disable]
  by_cases hk : k.getD "" = ""
  · simp [hk]
  · rw [if_pos hk, Table.find?_erase]
    simp only [hk, false_or, eq_comm]

/-- One input overwrites the simulation of a container or leaves it alone. -/
theorem Consistent.simulated_next {s : SimulationState R} (h : s.Consistent) (c : String)
    (i : ServiceInput R) : (s.next i).simulated c = (simulationEffect c i).getD (s.simulated c) := by
  rw [(h.next i).simulated_eq, h.simulated_eq]
  cases i with
  | enableSimulation k sim =>
      rw [SimulationState.next, enable, Table.find?_set, simulationEffect]
      by_cases hk : k = c
      · simp [hk]
      · simp [hk, Ne.symm hk]
  | disableSimulation k =>
      rw [SimulationState.next, find?_containers_disable, simulationEffect]
      split <;> rfl
  | restart => rfl
  | health => rfl
  | scoreWindow k v => rfl
  | trainModel k data now => rfl
  | getModelMeta k => rfl
  | listModels => rfl
  | deleteModel k => rfl
  | getModelStats k => rfl
  | getSimulationStatus => rfl

/-- After a run a container is simulated as the last input about it says. -/
theorem simulated_foldl (c : String) (is : List (ServiceInput R)) :
    (is.foldl SimulationState.next .initial).simulated c =
      (lastEffect (simulationEffect c) is).getD none :=
  view_foldl (fun s => s.simulated c) (simulationEffect c) (fun _ i h => h.next i)
    (fun _ i h => h.simulated_next c i) consistent_initial is

end SimulationState

section Runs

variable [Zero R] [LT R] [DecidableLT R]
variable (sk : Sklearn (List R) F R) (anomalyThreshold : R) (featureVectorDim : Nat)
variable (failures : Failures F R)

/-- What the registry answers to a score request, as the endpoint sends it. -/
def registryScore (r : ModelRegistry F) (c : String) (v : List R) : Answer R :=
  scoreAnswer failures c v (r.getModel c).2 (r.score sk anomalyThreshold c v).2

/-- After any run a vector of the right dimension is answered by the simulation of its container, if
the last input about that simulation enabled it, and else by the registry, which has seen the
requests that passed the checks and that no simulation answered. -/
theorem scoreWindow_eq_last (disk : Table String (IsolationForestModel F))
    (is : List (ServiceInput R)) (c : String) {v : List R} (hv : v.length = featureVectorDim) :
    ((serviceAfter sk anomalyThreshold featureVectorDim failures (.start disk) is).handle sk
        anomalyThreshold featureVectorDim failures (.scoreWindow c v)).2 =
      match (lastEffect (simulationEffect c) is).getD none with
      | some sim => .ok (.score sim.score sim.anomalous c (some 999))
      | none =>
          registryScore sk anomalyThreshold failures
            (registryAfter sk anomalyThreshold ⟨Table.empty, disk⟩
              (forwarded featureVectorDim .initial is)) c v := by
  rw [serviceAfter_eq, Service.handle, scoreWindow, validateFeatureVectorLength_eq_none.2 hv]
  have hsim := SimulationState.simulated_foldl c is
  cases hlast : (lastEffect (simulationEffect c) is).getD none with
  | some sim =>
      rw [hlast] at hsim
      simp only [Service.start, hsim]
  | none =>
      rw [hlast] at hsim
      simp only [Service.start, hsim]
      rfl

/-! ## Containers that are not simulated -/

/-- The input is answered about the model of a container. -/
def ServiceInput.about (b : String) : ServiceInput R → Bool
  | .scoreWindow c _ => decide (c = b)
  | .trainModel c _ _ => decide (c = b)
  | .getModelMeta c => decide (c = b)
  | .deleteModel c => decide (c = b)
  | .getModelStats c => decide (c = b)
  | _ => false

/-- The input is a request about simulations. -/
def ServiceInput.isSimulation : ServiceInput R → Bool
  | .enableSimulation _ _ => true
  | .disableSimulation _ => true
  | .getSimulationStatus => true
  | _ => false

/-- Two services agree on the file of a container and do not simulate it; the second one simulates
nothing. -/
structure Unsimulated (b : String) (s s' : Service F R) : Prop where
  file : SameFile (modelPath b) s.registry s'.registry
  others : ∀ a, s.simulation.containers.find? a ≠ none → modelPath a ≠ modelPath b
  off : s'.simulation = .initial

omit [Zero R] [LT R] [DecidableLT R] in
theorem Unsimulated.simulated_eq {b c : String} {s s' : Service F R} (h : Unsimulated b s s')
    (hc : modelPath c = modelPath b) : s.simulation.simulated c = none := by
  have hfind : s.simulation.containers.find? c = none := by
    by_contra hne
    exact h.others c hne hc
  rw [SimulationState.simulated, hfind]
  split <;> rfl

/-- Services that agree on the file of a container, and on its simulation, give the same answers about
it. -/
theorem SameFile.answer_eq {b : String} {s s' : Service F R}
    (h : SameFile (modelPath b) s.registry s'.registry)
    (hsim : s.simulation.simulated b = s'.simulation.simulated b) {i : ServiceInput R}
    (hi : i.about b = true) :
    (s.handle sk anomalyThreshold featureVectorDim failures i).2 =
      (s'.handle sk anomalyThreshold featureVectorDim failures i).2 := by
  have happly := fun op : Op (List R) => h.apply sk anomalyThreshold op
  have hmodel : ∀ {r r' : ModelRegistry F}, SameFile (modelPath b) r r' →
      (r.getModel b).2 = (r'.getModel b).2 := by
    intro r r' hfile
    rw [(getModel_acts r b).2, (getModel_acts r' b).2, hfile.cell_eq rfl]
  cases i with
  | scoreWindow c v =>
      obtain rfl : c = b := by simpa [ServiceInput.about] using hi
      have hscore := Result.scored.inj ((happly (.score c v)).2 c rfl rfl)
      simp only [Service.handle, scoreWindow, hsim, hscore, hmodel h]
      cases validateFeatureVectorLength featureVectorDim v with
      | some message => rfl
      | none => cases s'.simulation.simulated c <;> rfl
  | trainModel c data now =>
      obtain rfl : c = b := by simpa [ServiceInput.about] using hi
      obtain ⟨hfile, hres⟩ := happly (.train c data now)
      have htrain := Result.trained.inj (hres c rfl rfl)
      have hfound : ((s.registry.trainModel sk c data now).1.getModel c).2 =
          ((s'.registry.trainModel sk c data now).1.getModel c).2 := hmodel hfile
      simp only [Service.handle, trainModel, htrain]
      cases validateTrainingData featureVectorDim data with
      | some message => rfl
      | none =>
          cases (s'.registry.trainModel sk c data now).2 with
          | ok result => simp only [hfound]
          | error e => rfl
  | getModelMeta c =>
      obtain rfl : c = b := by simpa [ServiceInput.about] using hi
      have hfound := Result.found.inj ((happly (.getMeta c)).2 c rfl rfl)
      simp only [Service.handle, hfound]
  | deleteModel c =>
      obtain rfl : c = b := by simpa [ServiceInput.about] using hi
      have hdeleted := Result.deleted.inj ((happly (.delete c)).2 c rfl rfl)
      simp only [Service.handle, hdeleted]
  | getModelStats c =>
      obtain rfl : c = b := by simpa [ServiceInput.about] using hi
      have hfound := Result.found.inj ((happly (.getMeta c)).2 c rfl rfl)
      simp only [Service.handle, hfound, h.disk]
  | health => cases hi
  | listModels => cases hi
  | enableSimulation c sim => cases hi
  | disableSimulation c => cases hi
  | getSimulationStatus => cases hi
  | restart => cases hi

theorem Unsimulated.answer_eq {b : String} {s s' : Service F R} (h : Unsimulated b s s')
    {i : ServiceInput R} (hi : i.about b = true) :
    (s.handle sk anomalyThreshold featureVectorDim failures i).2 =
      (s'.handle sk anomalyThreshold featureVectorDim failures i).2 := by
  have hsim : s.simulation.simulated b = s'.simulation.simulated b := by
    rw [h.simulated_eq rfl, h.off]
    rfl
  exact h.file.answer_eq sk anomalyThreshold featureVectorDim failures hsim hi

/-- An operation on a model that uses another file, made on one side only. -/
theorem SameFile.applyForwarded_right {p : String} {r r' : ModelRegistry F}
    (h : SameFile p r r') {op : Op (List R)} {c : String} (hop : op.container = some c)
    (hc : modelPath c ≠ p) :
    SameFile p r (applyForwarded sk anomalyThreshold r' (some op)) := by
  obtain ⟨f, hf⟩ := apply_acts sk anomalyThreshold hop
  exact (h.symm.of_actsOn (hf r').1 hc).symm

omit [Zero R] [LT R] [DecidableLT R] in
/-- What an input that is not about simulations passes on: the same operation on both sides, or a
score on the right whose container is simulated on the left. -/
theorem Unsimulated.forward_cases {b : String} {s s' : Service F R} (h : Unsimulated b s s')
    (i : ServiceInput R) :
    forward featureVectorDim s.simulation i = forward featureVectorDim s'.simulation i ∨
      ∃ c v, modelPath c ≠ modelPath b ∧ forward featureVectorDim s.simulation i = none ∧
        forward featureVectorDim s'.simulation i = some (.score c v) := by
  cases i with
  | scoreWindow c v =>
      have hsim' : s'.simulation.simulated c = none := by rw [h.off]; rfl
      rw [forward, forward, hsim']
      cases hsim : s.simulation.simulated c with
      | none => exact Or.inl rfl
      | some sim =>
          by_cases hv : v.length = featureVectorDim
          · refine Or.inr ⟨c, v, fun hc => ?_, by simp, by simp [hv]⟩
            rw [h.simulated_eq hc] at hsim
            cases hsim
          · exact Or.inl (by simp [hv])
  | trainModel c data now => exact Or.inl rfl
  | health => exact Or.inl rfl
  | getModelMeta c => exact Or.inl rfl
  | listModels => exact Or.inl rfl
  | deleteModel c => exact Or.inl rfl
  | getModelStats c => exact Or.inl rfl
  | enableSimulation c sim => exact Or.inl rfl
  | disableSimulation c => exact Or.inl rfl
  | getSimulationStatus => exact Or.inl rfl
  | restart => exact Or.inl rfl

/-- An input that is not about simulations keeps both services in agreement. -/
theorem Unsimulated.both {b : String} {s s' : Service F R} (h : Unsimulated b s s')
    {i : ServiceInput R} (hi : i.isSimulation = false) :
    Unsimulated b (s.handle sk anomalyThreshold featureVectorDim failures i).1
      (s'.handle sk anomalyThreshold featureVectorDim failures i).1 := by
  have hsim : s.simulation.next i = s.simulation ∨ s.simulation.next i = .initial := by
    cases i <;> first | exact Or.inl rfl | exact Or.inr rfl | cases hi
  have hoff : s'.simulation.next i = .initial := by
    rw [h.off]
    cases i <;> first | rfl | cases hi
  rw [handle_fst, handle_fst]
  refine ⟨?_, fun a ha => ?_, hoff⟩
  · rcases h.forward_cases featureVectorDim i with heq | ⟨c, v, hc, hnone, hop⟩
    · rw [heq]
      cases forward featureVectorDim s'.simulation i with
      | none => exact h.file
      | some op => exact (h.file.apply sk anomalyThreshold op).1
    · rw [hnone, hop]
      exact h.file.applyForwarded_right sk anomalyThreshold rfl hc
  · rcases hsim with heq | heq
    · simp only [heq] at ha
      exact h.others a ha
    · simp only [heq] at ha
      exact absurd rfl ha

/-- A request about the simulation of another file is not noticed on the left. -/
theorem Unsimulated.left {b : String} {s s' : Service F R} (h : Unsimulated b s s')
    {i : ServiceInput R} (hi : i.isSimulation = true)
    (hb : ∀ a sim, i = .enableSimulation a sim → modelPath a ≠ modelPath b) :
    Unsimulated b (s.handle sk anomalyThreshold featureVectorDim failures i).1 s' := by
  cases i with
  | enableSimulation k sim =>
      refine ⟨h.file, fun a ha => ?_, h.off⟩
      have hfind : (s.simulation.containers.set k sim).find? a ≠ none := ha
      rw [Table.find?_set] at hfind
      by_cases hk : a = k
      · rw [hk]
        exact hb k sim rfl
      · rw [if_neg hk] at hfind
        exact h.others a hfind
  | disableSimulation k =>
      refine ⟨h.file, fun a ha => ?_, h.off⟩
      have hfind : (s.simulation.disable k).containers.find? a ≠ none := ha
      rw [SimulationState.find?_containers_disable] at hfind
      split at hfind
      · exact absurd rfl hfind
      · exact h.others a hfind
  | getSimulationStatus => exact h
  | health => cases hi
  | scoreWindow c v => cases hi
  | trainModel c data now => cases hi
  | getModelMeta c => cases hi
  | listModels => cases hi
  | deleteModel c => cases hi
  | getModelStats c => cases hi
  | restart => cases hi

omit [Zero R] [LT R] [DecidableLT R] in
theorem ServiceInput.about_eq_false {i : ServiceInput R} (hi : i.isSimulation = true) (b : String) :
    i.about b = false := by
  cases i <;> first | rfl | cases hi

theorem Unsimulated.record_eq {b : String} {s s' : Service F R} (h : Unsimulated b s s')
    {is : List (ServiceInput R)}
    (hb : ∀ a sim, .enableSimulation a sim ∈ is → modelPath a ≠ modelPath b) :
    (serviceRecord sk anomalyThreshold featureVectorDim failures s is).filter
        (fun e => e.1.about b) =
      (serviceRecord sk anomalyThreshold featureVectorDim failures s'
        (is.filter fun i => !i.isSimulation)).filter fun e => e.1.about b := by
  induction is generalizing s s' with
  | nil => rfl
  | cons i is ih =>
      have hrest : ∀ a sim, .enableSimulation a sim ∈ is → modelPath a ≠ modelPath b :=
        fun a sim ha => hb a sim (List.mem_cons_of_mem _ ha)
      rw [serviceRecord, outputs_cons, List.filter_append]
      cases hi : i.isSimulation with
      | true =>
          -- the request is left out on the right, and its answer is not about the container
          have hleft := h.left sk anomalyThreshold featureVectorDim failures hi
            fun a sim ha => hb a sim (ha ▸ List.mem_cons_self)
          have hnone : [(i, (s.handle sk anomalyThreshold featureVectorDim failures i).2)].filter
              (fun e => e.1.about b) = [] := by
            simp [ServiceInput.about_eq_false hi b]
          rw [List.filter_cons_of_neg (by simp [hi]), Service.step, hnone, List.nil_append]
          exact ih hleft hrest
      | false =>
          have hboth := h.both sk anomalyThreshold featureVectorDim failures hi
          rw [List.filter_cons_of_pos (by simp [hi]), serviceRecord, outputs_cons,
            List.filter_append]
          refine congrArg₂ (· ++ ·) ?_ (ih hboth hrest)
          simp only [Service.step, List.filter_cons, List.filter_nil]
          cases habout : i.about b with
          | false => rfl
          | true =>
              simp only [h.answer_eq sk anomalyThreshold featureVectorDim failures habout]

/-- A container whose model file no simulated container uses gets the same answers as if no request
about simulations had been made. -/
theorem simulation_transparent (disk : Table String (IsolationForestModel F))
    (is : List (ServiceInput R)) {b : String}
    (hb : ∀ a sim, .enableSimulation a sim ∈ is → modelPath a ≠ modelPath b) :
    (serviceRecord sk anomalyThreshold featureVectorDim failures (.start disk) is).filter
        (fun e => e.1.about b) =
      (serviceRecord sk anomalyThreshold featureVectorDim failures (.start disk)
        (is.filter fun i => !i.isSimulation)).filter fun e => e.1.about b := by
  have hstart : Unsimulated b (.start disk : Service F R) (.start disk) :=
    ⟨⟨fun _ _ => rfl, rfl⟩, fun _ ha => absurd rfl ha, rfl⟩
  exact hstart.record_eq sk anomalyThreshold featureVectorDim failures hb

end Runs

/-! ## A demonstration -/

/-- A container is simulated, everything is switched off with an empty id, and the container is
simulated again; another one is switched off and scored. -/
def demonstration : List (ServiceInput ℚ) :=
  [.enableSimulation "prod/api" ⟨-85 / 100, true⟩, .disableSimulation (some ""),
    .enableSimulation "prod/api" ⟨-9 / 10, true⟩, .disableSimulation (some "prod/web"),
    .scoreWindow "prod/web" (List.replicate 594 0)]

/-- Exceptions without a text. -/
def silentFailures : Failures (List (List ℚ)) ℚ :=
  ⟨fun _ => ⟨true, ""⟩, fun _ => ⟨false, ""⟩, fun _ _ => ⟨true, ""⟩⟩

theorem scoreWindow_demonstration :
    ((serviceAfter rememberingForest (-65 / 100) 594 silentFailures (.start Table.empty)
        demonstration).handle rememberingForest (-65 / 100) 594 silentFailures
        (.scoreWindow "prod/api" (List.replicate 594 0))).2 =
      .ok (.score (-9 / 10) true "prod/api" (some 999)) := by
  rw [scoreWindow_eq_last _ _ _ _ _ _ _ (List.length_replicate ..)]
  rfl

theorem simulation_transparent_demonstration :
    (serviceRecord rememberingForest (-65 / 100) 594 silentFailures (.start Table.empty)
        demonstration).filter (fun e => e.1.about "prod/web") =
      (serviceRecord rememberingForest (-65 / 100) 594 silentFailures (.start Table.empty)
        [.scoreWindow "prod/web" (List.replicate 594 0)]).filter
          fun e => e.1.about "prod/web" := by
  refine simulation_transparent rememberingForest (-65 / 100) 594 silentFailures Table.empty
    demonstration fun a sim ha => ?_
  have hname : a = "prod/api" := by
    simp only [demonstration, List.mem_cons, ServiceInput.enableSimulation.injEq, reduceCtorEq,
      List.not_mem_nil, or_false, false_or] at ha
    rcases ha with ha | ha
    · exact ha.1
    · exact ha.1
  rw [hname]
  decide

end DeepKernel.Ml
