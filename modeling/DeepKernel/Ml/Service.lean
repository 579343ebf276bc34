import DeepKernel.Lib.LastEffect
import DeepKernel.Ml.FailedTraining

/-!
# The HTTP service around the model registry

The endpoints of the ML service: the checks of the request schemas, the registry behind them, the
status codes, and the simulation of scores that a demonstration can switch on for a container. The
simulation is a state machine of its own beside the registry. A run of the service is a run of both,
in which the registry sees the requests that pass the checks and that no simulation answers
(`handle_registry`).
-/

set_option autoImplicit false

namespace DeepKernel.Ml

open DeepKernel.Lib

/-! ## Simulation -/

/-- The score and the flag that a container is simulated with. -/
structure Simulation (R : Type) where
  score : R
  anomalous : Bool
  deriving DecidableEq

/-- `_simulation_state`. -/
structure SimulationState (R : Type) where
  enabled : Bool
  containers : Table String (Simulation R)

namespace SimulationState

variable {R : Type}

/-- The state of a new process. -/
def initial : SimulationState R := ⟨false, Table.empty⟩

/-- The simulation that `score_window` finds for a container. -/
def simulated (s : SimulationState R) (containerId : String) : Option (Simulation R) :=
  if s.enabled then s.containers.find? containerId else none

/-- `enable_simulation`. -/
def enable (s : SimulationState R) (containerId : String) (sim : Simulation R) :
    SimulationState R :=
  ⟨true, s.containers.set containerId sim⟩

/-- `disable_simulation`. The empty text is false in Python, so it disables all containers. -/
def disable (s : SimulationState R) (containerId : Option String) : SimulationState R :=
  if containerId.getD "" ≠ "" then
    let containers := s.containers.erase (containerId.getD "")
    ⟨if containers.entries.isEmpty then false else s.enabled, containers⟩
  else ⟨false, Table.empty⟩

end SimulationState

/-! ## Requests and answers -/

/-- A request to the service, or a restart of its process. -/
inductive ServiceInput (R : Type)
  | health
  | scoreWindow (containerId : String) (featureVector : List R)
  | trainModel (containerId : String) (trainingData : List (List R)) (now : Int)
  | getModelMeta (containerId : String)
  | listModels
  | deleteModel (containerId : String)
  | getModelStats (containerId : String)
  | enableSimulation (containerId : String) (sim : Simulation R)
  | disableSimulation (containerId : Option String)
  | getSimulationStatus
  | restart

/-- The body of an answer with status 200. `stats` has the path of the model file, if there is
one. -/
inductive Body (R : Type)
  | health (modelCount : Nat)
  | score (score : R) (anomalous : Bool) (containerId : String) (modelVersion : Option Nat)
  | trained (modelId containerId : String) (version : Nat) (status : ModelStatus) (trainedAt : Int)
      (sampleCount : Nat)
  | model (found : ModelMeta)
  | models (found : List ModelMeta)
  | deleted (containerId : String)
  | stats (found : ModelMeta) (modelFilePath : Option String)
  | simulationEnabled (containerId : String) (sim : Simulation R)
  | simulationDisabled (containerId : String) (activeSimulations : List String)
  | simulationStatus (enabled : Bool) (containers : List (String × Simulation R))
  deriving DecidableEq

/-- An answer. `invalid` is the 422 of a request that fails the checks of its schema, with the field
and the message. -/
inductive Answer (R : Type)
  | ok (body : Body R)
  | invalid (field message : String)
  | failed (status : Nat) (detail : String)
  | restarted
  deriving DecidableEq

/-- An exception: whether it is a `ValueError`, and its text. -/
structure Failure where
  valueError : Bool
  message : String

/-- What numpy and scikit-learn raise where `Sklearn` has no result. -/
structure Failures (F R : Type) where
  conversion : List (List R) → Failure
  fit : List (List R) → Failure
  score : Option (IsolationForestModel F) → List R → Failure

/-- `ScoreRequest.validate_feature_vector_length`: the message of a vector that is rejected. -/
def validateFeatureVectorLength {R : Type} (featureVectorDim : Nat) (v : List R) : Option String :=
  if v.length ≠ featureVectorDim then
    some ("Value error, Feature vector must have exactly " ++ toString featureVectorDim ++
      " dimensions, got " ++ toString v.length)
  else none

/-- The message for a vector of the wrong dimension. -/
def wrongDimension (featureVectorDim i dim : Nat) : String :=
  "Value error, Feature vector at index " ++ toString i ++ " has " ++ toString dim ++
    " dimensions, expected " ++ toString featureVectorDim

/-- `TrainRequest.validate_training_data`, after the bound `min_length` of the field. -/
def validateTrainingData {R : Type} (featureVectorDim : Nat) (data : List (List R)) :
    Option String :=
  if data.length < 1 then some "List should have at least 1 item after validation, not 0"
  else if data.length < 10 then some "Value error, Training requires at least 10 samples"
  else
    (data.zipIdx.find? fun e => decide (e.1.length ≠ featureVectorDim)).map fun e =>
      wrongDimension featureVectorDim e.2 e.1.length

/-- The handlers of exceptions that an endpoint lets through: `value_error_handler` and
`general_exception_handler`. -/
def unhandled {R : Type} (e : Failure) : Answer R :=
  if e.valueError then .failed 422 e.message else .failed 500 "An unexpected error occurred"

/-- The `except` blocks of `train_model`. -/
def trainingFailed {R : Type} (e : Failure) : Answer R :=
  if e.valueError then .failed 422 e.message else .failed 500 ("Training failed: " ++ e.message)

/-! ## The service -/

/-- The registry and the simulation state of the process. -/
structure Service (F R : Type) where
  registry : ModelRegistry F
  simulation : SimulationState R

/-- The service started over a storage directory. -/
def Service.start {F R : Type} (disk : Table String (IsolationForestModel F)) : Service F R :=
  ⟨⟨Table.empty, disk⟩, .initial⟩

section Handle

variable {F R : Type} [Zero R] [LT R] [DecidableLT R]
variable (sk : Sklearn (List R) F R) (anomalyThreshold : R) (featureVectorDim : Nat)
variable (failures : Failures F R)

/-- What the model raised in `train`, for the number of samples that its message names. -/
def trainFailure (data : List (List R)) : TrainError → Failure
  | .tooFewSamples =>
      ⟨true, "Need at least 10 samples for training, got " ++ toString data.length⟩
  | .conversion => failures.conversion data
  | .fit => failures.fit data

/-- What `score_window` makes of the answer of the registry. -/
def scoreAnswer (containerId : String) (featureVector : List R)
    (found : Option (IsolationForestModel F)) : Option (R × Bool × Option Nat) → Answer R
  | some (score, anomalous, version) => .ok (.score score anomalous containerId version)
  | none => unhandled (failures.score found featureVector)

/-- `score_window`. -/
def scoreWindow (s : Service F R) (containerId : String) (featureVector : List R) :
    Service F R × Answer R :=
  match validateFeatureVectorLength featureVectorDim featureVector with
  | some message => (s, .invalid "feature_vector" message)
  | none =>
      match s.simulation.simulated containerId with
      -- a simulated container is answered with version 999, and its model is not looked for
      | some sim => (s, .ok (.score sim.score sim.anomalous containerId (some 999)))
      | none =>
          let scored := s.registry.score sk anomalyThreshold containerId featureVector
          ({ s with registry := scored.1 },
            scoreAnswer failures containerId featureVector (s.registry.getModel containerId).2
              scored.2)

/-- `train_model`. -/
def trainModel (s : Service F R) (containerId : String) (trainingData : List (List R))
    (now : Int) : Service F R × Answer R :=
  match validateTrainingData featureVectorDim trainingData with
  | some message => (s, .invalid "training_data" message)
  | none =>
      let trained := s.registry.trainModel sk containerId trainingData now
      match trained.2 with
      | .ok (version, trainedAt) =>
          let found := trained.1.getModel containerId
          ({ s with registry := found.1 },
            .ok (.trained ((found.2.map fun m => m.modelId).getD ("model-" ++ containerId))
              containerId version .ready trainedAt trainingData.length))
      | .error e =>
          ({ s with registry := trained.1 }, trainingFailed (trainFailure failures trainingData e))

/-- The detail of the 404 answers. -/
def noModelFound (containerId : String) : String := "No model found for container " ++ containerId

/-- The endpoints of the service. -/
def Service.handle (s : Service F R) : ServiceInput R → Service F R × Answer R
  | .health => (s, .ok (.health s.registry.models.entries.length))
  | .scoreWindow c v => scoreWindow sk anomalyThreshold featureVectorDim failures s c v
  | .trainModel c data now => trainModel sk featureVectorDim failures s c data now
  | .getModelMeta c =>
      let found := s.registry.getModelMeta c
      ({ s with registry := found.1 }, .ok (.model (found.2.getD (untrainedMeta c))))
  | .listModels => (s, .ok (.models s.registry.listModels))
  | .deleteModel c =>
      let deleted := s.registry.deleteModel c
      ({ s with registry := deleted.1 },
        if deleted.2 then .ok (.deleted c) else .failed 404 (noModelFound c))
  | .getModelStats c =>
      let found := s.registry.getModelMeta c
      ({ s with registry := found.1 },
        match found.2 with
        | some m =>
            .ok (.stats m (if (s.registry.disk.find? (modelPath c)).isSome then some (modelPath c)
              else none))
        | none => .failed 404 (noModelFound c))
  | .enableSimulation c sim =>
      ({ s with simulation := s.simulation.enable c sim }, .ok (.simulationEnabled c sim))
  | .disableSimulation c =>
      let simulation := s.simulation.disable c
      ({ s with simulation := simulation },
        .ok (.simulationDisabled (if c.getD "" ≠ "" then c.getD "" else "all")
          (simulation.containers.entries.map Prod.fst)))
  | .getSimulationStatus =>
      (s, .ok (.simulationStatus s.simulation.enabled s.simulation.containers.entries))
  | .restart => (⟨s.registry.restart, .initial⟩, .restarted)

/-- One input, with itself and its answer for the record. -/
def Service.step (s : Service F R) (i : ServiceInput R) :
    Service F R × List (ServiceInput R × Answer R) :=
  ((s.handle sk anomalyThreshold featureVectorDim failures i).1,
    [(i, (s.handle sk anomalyThreshold featureVectorDim failures i).2)])

/-- The service after some inputs. -/
abbrev serviceAfter (s : Service F R) (is : List (ServiceInput R)) : Service F R :=
  finalState (Service.step sk anomalyThreshold featureVectorDim failures) s is

/-- The inputs of a run with their answers. -/
abbrev serviceRecord (s : Service F R) (is : List (ServiceInput R)) :
    List (ServiceInput R × Answer R) :=
  outputs (Service.step sk anomalyThreshold featureVectorDim failures) s is

end Handle

/-! ## The two machines of the service -/

section Machines

variable {F R : Type}

/-- What an input does to the simulation. -/
def SimulationState.next (s : SimulationState R) : ServiceInput R → SimulationState R
  | .enableSimulation c sim => s.enable c sim
  | .disableSimulation c => s.disable c
  | .restart => .initial
  | _ => s

/-- The operation that an input makes on the registry, if any. -/
def forward (featureVectorDim : Nat) (s : SimulationState R) :
    ServiceInput R → Option (Op (List R))
  | .scoreWindow c v =>
      if v.length = featureVectorDim ∧ s.simulated c = none then some (.score c v) else none
  | .trainModel c data now =>
      if validateTrainingData featureVectorDim data = none then some (.train c data now) else none
  | .getModelMeta c => some (.getMeta c)
  | .listModels => some .list
  | .deleteModel c => some (.delete c)
  | .getModelStats c => some (.getMeta c)
  | .restart => some .restart
  | _ => none

/-- The operations on the registry in a run. -/
def forwarded (featureVectorDim : Nat) (s : SimulationState R) (is : List (ServiceInput R)) :
    List (Op (List R)) :=
  outputs (fun s i => (s.next i, (forward featureVectorDim s i).toList)) s is

theorem validateFeatureVectorLength_eq_none {featureVectorDim : Nat} {v : List R} :
    validateFeatureVectorLength featureVectorDim v = none ↔ v.length = featureVectorDim := by
  rw [validateFeatureVectorLength]
  split <;> simp_all

/-- The schema accepts at least ten vectors of the right dimension and nothing else. -/
theorem validateTrainingData_eq_none {featureVectorDim : Nat} {data : List (List R)} :
    validateTrainingData featureVectorDim data = none ↔
      10 ≤ data.length ∧ ∀ v ∈ data, v.length = featureVectorDim := by
  rw [validateTrainingData]
  by_cases h1 : data.length < 1
  · rw [if_pos h1]
    exact ⟨fun h => (nomatch h), fun h => by omega⟩
  by_cases h10 : data.length < 10
  · rw [if_neg h1, if_pos h10]
    exact ⟨fun h => (nomatch h), fun h => by omega⟩
  rw [if_neg h1, if_neg h10, Option.map_eq_none_iff, List.find?_eq_none]
  refine ⟨fun h => ⟨by omega, fun v hv => ?_⟩, fun h e he => ?_⟩
  · obtain ⟨i, hi, rfl⟩ := List.mem_iff_getElem.1 hv
    have hmem : (data[i], i) ∈ data.zipIdx := by
      rw [List.mem_zipIdx_iff_getElem?]
      exact List.getElem?_eq_getElem hi
    simpa using h _ hmem
  · have hmem : e.1 ∈ data := List.fst_mem_of_mem_zipIdx he
    simp [h.2 e.1 hmem]

variable [Zero R] [LT R] [DecidableLT R]
variable (sk : Sklearn (List R) F R) (anomalyThreshold : R) (featureVectorDim : Nat)
variable (failures : Failures F R)

/-- The registry after an operation, if there is one. -/
def applyForwarded (r : ModelRegistry F) : Option (Op (List R)) → ModelRegistry F
  | none => r
  | some op => (r.apply sk anomalyThreshold op).1

theorem scoreWindow_fst (s : Service F R) (c : String) (v : List R) :
    (scoreWindow sk anomalyThreshold featureVectorDim failures s c v).1 =
      ⟨applyForwarded sk anomalyThreshold s.registry
        (forward featureVectorDim s.simulation (.scoreWindow c v)), s.simulation⟩ := by
  by_cases hv : v.length = featureVectorDim
  · rw [scoreWindow, validateFeatureVectorLength_eq_none.2 hv, forward]
    cases hsim : s.simulation.simulated c with
    | some sim => simp [applyForwarded]
    | none => simp [applyForwarded, hv, ModelRegistry.apply]
  · have hsome : validateFeatureVectorLength featureVectorDim v ≠ none :=
      fun h => hv (validateFeatureVectorLength_eq_none.1 h)
    obtain ⟨message, hmessage⟩ := Option.ne_none_iff_exists'.1 hsome
    rw [scoreWindow, hmessage, forward, if_neg fun h => hv h.1]
    rfl

omit [Zero R] [LT R] [DecidableLT R] in
/-- After a training the model is in memory, so the lookup that follows changes nothing. -/
theorem getModel_trainModel_fst (r : ModelRegistry F) (c : String) (data : List (List R))
    (now : Int) :
    (((r.trainModel sk c data now).1.getModel c).1) = (r.trainModel sk c data now).1 := by
  have hmem : ∃ m, (r.trainModel sk c data now).1.models.find? c = some m := by
    have hown := (trainModel_acts r c sk data now).1.own
    have hcell : ((r.trainModel sk c data now).1.cell c).memory =
        ((r.cell c).train sk c data now).1.memory := by rw [hown]
    refine ⟨(((r.cell c).modelFor c).train sk data now).1, hcell.trans ?_⟩
    rw [Cell.train]
    cases (((r.cell c).modelFor c).train sk data now).2 <;> rfl
  obtain ⟨m, hm⟩ := hmem
  rw [ModelRegistry.getModel, hm]

theorem trainModel_fst (s : Service F R) (c : String) (data : List (List R)) (now : Int) :
    (trainModel sk featureVectorDim failures s c data now).1 =
      ⟨applyForwarded sk anomalyThreshold s.registry
        (forward featureVectorDim s.simulation (.trainModel c data now)), s.simulation⟩ := by
  rw [trainModel, forward]
  cases hvalid : validateTrainingData featureVectorDim data with
  | some message => simp [applyForwarded]
  | none =>
      simp only [if_true, applyForwarded, ModelRegistry.apply]
      cases hres : (s.registry.trainModel sk c data now).2 with
      | ok result => simp only [getModel_trainModel_fst]
      | error e => rfl

/-- An input moves both machines: the simulation by itself, the registry by the operation that is
passed on. -/
theorem handle_fst (s : Service F R) (i : ServiceInput R) :
    (s.handle sk anomalyThreshold featureVectorDim failures i).1 =
      ⟨applyForwarded sk anomalyThreshold s.registry (forward featureVectorDim s.simulation i),
        s.simulation.next i⟩ := by
  cases i with
  | scoreWindow c v => exact scoreWindow_fst sk anomalyThreshold featureVectorDim failures s c v
  | trainModel c data now =>
      exact trainModel_fst sk anomalyThreshold featureVectorDim failures s c data now
  | health => rfl
  | getModelMeta c => rfl
  | listModels => rfl
  | deleteModel c => rfl
  | getModelStats c => rfl
  | enableSimulation c sim => rfl
  | disableSimulation c => rfl
  | getSimulationStatus => rfl
  | restart => rfl

/-- A run of the service is a run of the simulation and a run of the registry on what is passed
on. -/
theorem serviceAfter_eq (s : Service F R) (is : List (ServiceInput R)) :
    serviceAfter sk anomalyThreshold featureVectorDim failures s is =
      ⟨registryAfter sk anomalyThreshold s.registry (forwarded featureVectorDim s.simulation is),
        is.foldl SimulationState.next s.simulation⟩ := by
  induction is generalizing s with
  | nil => rfl
  | cons i is ih =>
      rw [serviceAfter, finalState_cons]
      refine (ih _).trans ?_
      rw [Service.step, handle_fst, forwarded, forwarded, outputs_cons, List.foldl_cons]
      cases forward featureVectorDim s.simulation i with
      | none => rfl
      | some op => rfl

end Machines

end DeepKernel.Ml
