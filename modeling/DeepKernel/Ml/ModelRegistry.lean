import DeepKernel.Lib.Execution
import DeepKernel.Lib.Table

/-!
# The model registry of the ML service

`IsolationForestModel` and `ModelRegistry` of the Python service, with persistence on and disk
operations that succeed. Memory and disk are two maps: the dictionary is keyed by the container, the
disk by the file name that `_get_model_path` makes of it. The dictionary keeps the order of
insertion, as Python's does. The storage directory and the hyperparameters, which are the same for
all models, are left out.

What scikit-learn and numpy do is a parameter (`Sklearn`). A model object is shared between the
dictionary and the method that trains it, so a training that fails half way leaves its traces in
the dictionary.
-/

set_option autoImplicit false

namespace DeepKernel.Ml

open DeepKernel.Lib

/-! ## Models -/

/-- What the service uses of numpy and scikit-learn, for feature vectors `V`, fitted forests `F` and
scores `R`. `convertible` says whether `np.array` accepts the training data; `fit` and
`scoreSamples` answer `none` when they raise. -/
structure Sklearn (V F R : Type) where
  convertible : List V → Bool
  fit : List V → Option F
  scoreSamples : F → V → Option R

/-- The state of the `IsolationForest` object inside a model. -/
inductive Estimator (F : Type)
  | unfitted
  | fitted (forest : F)
  deriving DecidableEq

/-- `IsolationForestModel`. -/
structure IsolationForestModel (F : Type) where
  containerId : String
  model : Option (Estimator F)
  version : Nat
  trainedAt : Option Int
  sampleCount : Nat
  isFitted : Bool
  deriving DecidableEq

/-- Why a training raises. -/
inductive TrainError
  | tooFewSamples
  | conversion
  | fit
  deriving DecidableEq

/-- `ModelStatus`. -/
inductive ModelStatus
  | untrained
  | training
  | ready
  | error
  deriving DecidableEq

/-- `ModelMeta`, without the hyperparameters. -/
structure ModelMeta where
  modelId : String
  containerId : String
  version : Nat
  featureVersion : String
  status : ModelStatus
  trainedAt : Option Int
  sampleCount : Option Nat
  deriving DecidableEq

section Models

variable {V F R : Type}

namespace IsolationForestModel

/-- `IsolationForestModel(container_id)`. -/
def create (containerId : String) : IsolationForestModel F where
  containerId := containerId
  model := none
  version := 0
  trainedAt := none
  sampleCount := 0
  isFitted := false

/-- `train`: the model after it, with the version and the time it returns. -/
def train (sk : Sklearn V F R) (m : IsolationForestModel F) (trainingData : List V) (now : Int) :
    IsolationForestModel F × Except TrainError (Nat × Int) :=
  if trainingData.length < 10 then (m, .error .tooFewSamples)
  else if !sk.convertible trainingData then (m, .error .conversion)
  else
    match sk.fit trainingData with
    -- the new estimator is assigned before it is fitted
    | none => ({ m with model := some .unfitted }, .error .fit)
    | some forest =>
        ({ m with
            model := some (.fitted forest)
            version := m.version + 1
            trainedAt := some now
            sampleCount := trainingData.length
            isFitted := true },
          .ok (m.version + 1, now))

/-- `score`, `none` when it raises. -/
def score [Zero R] [LT R] [DecidableLT R] (sk : Sklearn V F R) (anomalyThreshold : R)
    (m : IsolationForestModel F) (featureVector : V) : Option (R × Bool) :=
  if !m.isFitted then some (0, false)
  else
    match m.model with
    | none => some (0, false)
    | some .unfitted => none
    | some (.fitted forest) =>
        (sk.scoreSamples forest featureVector).map fun s => (s, decide (s < anomalyThreshold))

/-- `model_id`. -/
def modelId (m : IsolationForestModel F) : String :=
  "model-" ++ String.ofList (m.containerId.toList.map fun ch => if ch = '/' then '-' else ch)

/-- The metadata that `get_model_meta` makes of a model. -/
def toMeta (m : IsolationForestModel F) : ModelMeta where
  modelId := m.modelId
  containerId := m.containerId
  version := m.version
  featureVersion := "v1"
  status := if m.isFitted then .ready else .untrained
  trainedAt := m.trainedAt
  sampleCount := if m.isFitted then some m.sampleCount else none

end IsolationForestModel

/-! ## The registry -/

/-- `_models` and the files of the storage directory. -/
structure ModelRegistry (F : Type) where
  models : Table String (IsolationForestModel F)
  disk : Table String (IsolationForestModel F)

/-- `_get_model_path`: the name of the file. -/
def modelPath (containerId : String) : String :=
  String.ofList (containerId.toList.map fun ch => if ch = '/' ∨ ch = '\\' then '_' else ch) ++ ".pkl"

namespace ModelRegistry

/-- A new registry over an empty directory. -/
def empty : ModelRegistry F := ⟨Table.empty, Table.empty⟩

/-- `_load_from_disk`. -/
def loadFromDisk (r : ModelRegistry F) (containerId : String) : Option (IsolationForestModel F) :=
  r.disk.find? (modelPath containerId)

/-- `_save_to_disk`. -/
def saveToDisk (r : ModelRegistry F) (containerId : String) (m : IsolationForestModel F) :
    ModelRegistry F :=
  { r with disk := r.disk.set (modelPath containerId) m }

/-- `get_or_create_model`. -/
def getOrCreateModel (r : ModelRegistry F) (containerId : String) :
    ModelRegistry F × IsolationForestModel F :=
  match r.models.find? containerId with
  | some m => (r, m)
  | none =>
      let m := (r.loadFromDisk containerId).getD (.create containerId)
      ({ r with models := r.models.set containerId m }, m)

/-- `get_model`. -/
def getModel (r : ModelRegistry F) (containerId : String) :
    ModelRegistry F × Option (IsolationForestModel F) :=
  match r.models.find? containerId with
  | some m => (r, some m)
  | none =>
      match r.loadFromDisk containerId with
      | some m => ({ r with models := r.models.set containerId m }, some m)
      | none => (r, none)

/-- `train_model`. -/
def trainModel (sk : Sklearn V F R) (r : ModelRegistry F) (containerId : String)
    (trainingData : List V) (now : Int) : ModelRegistry F × Except TrainError (Nat × Int) :=
  let found := r.getOrCreateModel containerId
  let trained := found.2.train sk trainingData now
  -- training changes the object in the dictionary, also when it raises
  let kept := { found.1 with models := found.1.models.set containerId trained.1 }
  match trained.2 with
  | .ok result => (kept.saveToDisk containerId trained.1, .ok result)
  | .error e => (kept, .error e)

/-- The part of `score` after `get_model`: the score, the flag and the version, `none` when it
raises. -/
def scoreFound [Zero R] [LT R] [DecidableLT R] (sk : Sklearn V F R) (anomalyThreshold : R)
    (featureVector : V) : Option (IsolationForestModel F) → Option (R × Bool × Option Nat)
  | none => some (0, false, none)
  | some m =>
      (m.score sk anomalyThreshold featureVector).map fun s =>
        (s.1, s.2, if m.isFitted then some m.version else none)

/-- `score`. -/
def score [Zero R] [LT R] [DecidableLT R] (sk : Sklearn V F R) (anomalyThreshold : R)
    (r : ModelRegistry F) (containerId : String) (featureVector : V) :
    ModelRegistry F × Option (R × Bool × Option Nat) :=
  ((r.getModel containerId).1,
    scoreFound sk anomalyThreshold featureVector (r.getModel containerId).2)

/-- `get_model_meta`. -/
def getModelMeta (r : ModelRegistry F) (containerId : String) :
    ModelRegistry F × Option ModelMeta :=
  ((r.getModel containerId).1, (r.getModel containerId).2.map IsolationForestModel.toMeta)

/-- `list_models`. Every key of the loop is in the dictionary, so nothing is loaded. -/
def listModels (r : ModelRegistry F) : List ModelMeta :=
  r.models.entries.map fun e => e.2.toMeta

/-- `delete_model`. -/
def deleteModel (r : ModelRegistry F) (containerId : String) : ModelRegistry F × Bool :=
  match r.models.find? containerId with
  -- the file goes with the entry; a model that is on disk only is not found
  | some _ =>
      ({ models := r.models.erase containerId, disk := r.disk.erase (modelPath containerId) }, true)
  | none => (r, false)

/-- The process is restarted. -/
def restart (r : ModelRegistry F) : ModelRegistry F := ⟨Table.empty, r.disk⟩

end ModelRegistry

/-! ## Operations -/

/-- An operation of the service, or a restart. -/
inductive Op (V : Type)
  | train (containerId : String) (trainingData : List V) (now : Int)
  | score (containerId : String) (featureVector : V)
  | getMeta (containerId : String)
  | list
  | delete (containerId : String)
  | restart

/-- What an operation answers. -/
inductive Result (R : Type)
  | trained (result : Except TrainError (Nat × Int))
  | scored (result : Option (R × Bool × Option Nat))
  | found (result : Option ModelMeta)
  | listed (result : List ModelMeta)
  | deleted (result : Bool)
  | restarted

/-- The container that an operation names. -/
def Op.container : Op V → Option String
  | .train c _ _ => some c
  | .score c _ => some c
  | .getMeta c => some c
  | .list => none
  | .delete c => some c
  | .restart => none

section Step

variable [Zero R] [LT R] [DecidableLT R] (sk : Sklearn V F R) (anomalyThreshold : R)

/-- One operation and its answer. -/
def ModelRegistry.apply (r : ModelRegistry F) : Op V → ModelRegistry F × Result R
  | .train c data now => ((r.trainModel sk c data now).1, .trained (r.trainModel sk c data now).2)
  | .score c v =>
      ((r.score sk anomalyThreshold c v).1, .scored (r.score sk anomalyThreshold c v).2)
  | .getMeta c => ((r.getModelMeta c).1, .found (r.getModelMeta c).2)
  | .list => (r, .listed r.listModels)
  | .delete c => ((r.deleteModel c).1, .deleted (r.deleteModel c).2)
  | .restart => (r.restart, .restarted)

/-- One operation, with itself and its answer for the record. -/
def ModelRegistry.step (r : ModelRegistry F) (op : Op V) :
    ModelRegistry F × List (Op V × Result R) :=
  ((r.apply sk anomalyThreshold op).1, [(op, (r.apply sk anomalyThreshold op).2)])

/-- The registry after some operations. -/
abbrev registryAfter (r : ModelRegistry F) (ops : List (Op V)) : ModelRegistry F :=
  finalState (ModelRegistry.step sk anomalyThreshold) r ops

/-- The operations of a run with their answers. -/
abbrev record (r : ModelRegistry F) (ops : List (Op V)) : List (Op V × Result R) :=
  outputs (ModelRegistry.step sk anomalyThreshold) r ops

end Step

/-! ## What an operation does to one container

An operation reads and writes the entry of its container in memory and the file of that entry. It
is described by what it makes of this pair. -/

/-- The model of a container in memory and the one in its file. -/
structure Cell (F : Type) where
  memory : Option (IsolationForestModel F)
  disk : Option (IsolationForestModel F)
  deriving DecidableEq

/-- The cell of a container. -/
def ModelRegistry.cell (r : ModelRegistry F) (c : String) : Cell F :=
  ⟨r.models.find? c, r.disk.find? (modelPath c)⟩

namespace Cell

/-- The model that `get_or_create_model` finds. -/
def modelFor (cell : Cell F) (c : String) : IsolationForestModel F :=
  cell.memory.getD (cell.disk.getD (.create c))

/-- `train_model` on a cell. -/
def train (sk : Sklearn V F R) (cell : Cell F) (c : String) (trainingData : List V) (now : Int) :
    Cell F × Except TrainError (Nat × Int) :=
  let trained := (cell.modelFor c).train sk trainingData now
  match trained.2 with
  | .ok result => (⟨some trained.1, some trained.1⟩, .ok result)
  | .error e => (⟨some trained.1, cell.disk⟩, .error e)

/-- The cell after `get_model`. -/
def loaded (cell : Cell F) : Cell F := ⟨cell.memory <|> cell.disk, cell.disk⟩

/-- `delete_model` on a cell. -/
def delete (cell : Cell F) : Cell F × Bool :=
  if cell.memory.isSome then (⟨none, none⟩, true) else (cell, false)

end Cell

/-- An operation on a container makes `cell` of its cell and changes no other entry and no other
file. -/
structure ActsOn (c : String) (r r' : ModelRegistry F) (cell : Cell F) : Prop where
  own : r'.cell c = cell
  models : ∀ k, k ≠ c → r'.models.find? k = r.models.find? k
  disk : ∀ p, p ≠ modelPath c → r'.disk.find? p = r.disk.find? p

section Acts

variable (r : ModelRegistry F) (c : String)

theorem ActsOn.refl : ActsOn c r r (r.cell c) := ⟨rfl, fun _ _ => rfl, fun _ _ => rfl⟩

/-- Inserting a model into the dictionary. -/
theorem ActsOn.set_models (m : IsolationForestModel F) :
    ActsOn c r { r with models := r.models.set c m } ⟨some m, (r.cell c).disk⟩ where
  own := by rw [ModelRegistry.cell, Table.find?_set_self]; rfl
  models := fun _ hk => Table.find?_set_of_ne _ _ hk
  disk := fun _ _ => rfl

theorem getModel_acts :
    ActsOn c r (r.getModel c).1 (r.cell c).loaded ∧
      (r.getModel c).2 = (r.cell c).loaded.memory := by
  rw [ModelRegistry.getModel, Cell.loaded]
  cases hm : r.models.find? c with
  | some m =>
      have hcell : (r.cell c).memory = some m := hm
      rw [hcell]
      refine ⟨⟨?_, fun _ _ => rfl, fun _ _ => rfl⟩, rfl⟩
      rw [ModelRegistry.cell, hm]
      rfl
  | none =>
      have hcell : (r.cell c).memory = none := hm
      have hdisk : (r.cell c).disk = r.loadFromDisk c := rfl
      rw [hcell, hdisk]
      cases hd : r.loadFromDisk c with
      -- a model found on disk enters the dictionary
      | some m =>
          have hacts := ActsOn.set_models r c m
          rw [hdisk, hd] at hacts
          exact ⟨hacts, rfl⟩
      | none =>
          refine ⟨⟨?_, fun _ _ => rfl, fun _ _ => rfl⟩, rfl⟩
          have hfile : r.disk.find? (modelPath c) = none := hd
          rw [ModelRegistry.cell, hm, hfile]
          rfl

theorem getOrCreateModel_acts :
    ActsOn c r (r.getOrCreateModel c).1 ⟨some ((r.cell c).modelFor c), (r.cell c).disk⟩ ∧
      (r.getOrCreateModel c).2 = (r.cell c).modelFor c := by
  rw [ModelRegistry.getOrCreateModel, Cell.modelFor]
  cases hm : r.models.find? c with
  | some m =>
      have hcell : (r.cell c).memory = some m := hm
      rw [hcell]
      refine ⟨⟨?_, fun _ _ => rfl, fun _ _ => rfl⟩, rfl⟩
      rw [ModelRegistry.cell, hm]
      rfl
  | none =>
      have hcell : (r.cell c).memory = none := hm
      rw [hcell]
      exact ⟨ActsOn.set_models r c _, rfl⟩

/-- `train_model` acts on the cell of its container only. -/
theorem trainModel_acts (sk : Sklearn V F R) (trainingData : List V) (now : Int) :
    ActsOn c r (r.trainModel sk c trainingData now).1
        ((r.cell c).train sk c trainingData now).1 ∧
      (r.trainModel sk c trainingData now).2 = ((r.cell c).train sk c trainingData now).2 := by
  obtain ⟨hacts, hmodel⟩ := getOrCreateModel_acts r c
  rw [ModelRegistry.trainModel, Cell.train, hmodel]
  simp only
  have hset := ActsOn.set_models (r.getOrCreateModel c).1 c
    (((r.cell c).modelFor c).train sk trainingData now).1
  rw [hacts.own] at hset
  cases (((r.cell c).modelFor c).train sk trainingData now).2 with
  -- only a training that succeeds reaches the file
  | ok result =>
      refine ⟨⟨?_, fun k hk => ?_, fun p hp => ?_⟩, rfl⟩
      · rw [ModelRegistry.saveToDisk, ModelRegistry.cell, Table.find?_set_self,
          Table.find?_set_self]
      · exact (hset.models k hk).trans (hacts.models k hk)
      · exact (Table.find?_set_of_ne _ _ hp).trans (hacts.disk p hp)
  | error e =>
      exact ⟨⟨hset.own, fun k hk => (hset.models k hk).trans (hacts.models k hk), hacts.disk⟩, rfl⟩

theorem deleteModel_acts :
    ActsOn c r (r.deleteModel c).1 (r.cell c).delete.1 ∧
      (r.deleteModel c).2 = (r.cell c).delete.2 := by
  rw [ModelRegistry.deleteModel, Cell.delete]
  have hcell : (r.cell c).memory = r.models.find? c := rfl
  rw [hcell]
  cases hm : r.models.find? c with
  | some m =>
      refine ⟨⟨?_, fun k hk => ?_, fun p hp => ?_⟩, rfl⟩
      · simp [ModelRegistry.cell]
      · rw [Table.find?_erase, if_neg hk]
      · rw [Table.find?_erase, if_neg hp]
  | none => exact ⟨ActsOn.refl r c, rfl⟩

end Acts

end Models

end DeepKernel.Ml
