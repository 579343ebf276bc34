import DeepKernel.Lib.Table

/-!
# The model registry of the server

`ModelRegistryService`: for every container the list of its model versions, oldest first. Every
operation is described by the list of every container after it (`list_update`, `list_setStatus`,
`list_removeLatest`, `list_getMeta`), so that proofs about the service never look at the map.

The answer of `anomalyDetectionPort.getModelMeta` is an argument. It is `none` when the adapter
answers null, throws or is not set: the service treats the three alike.
-/

set_option autoImplicit false

namespace DeepKernel.Server

open DeepKernel.Lib

/-! ## Data -/

/-- `ModelStatus`. -/
inductive ModelStatus
  | untrained
  | ready
  | training
  | error
  deriving DecidableEq

/-- `ModelMeta`. -/
structure ModelMeta where
  modelId : String
  containerId : String
  version : Int32
  featureVersion : String
  status : ModelStatus
  deriving DecidableEq

/-- `ModelVersion`, without its metrics, which are always empty. `trainedAt` is an `Instant` in
nanoseconds. -/
structure ModelVersion where
  modelId : String
  containerId : String
  version : Int32
  featureVersion : String
  trainedAt : Int
  status : ModelStatus
  deriving DecidableEq

/-- The description that `getMeta` makes of a stored version. -/
def ModelVersion.toMeta (v : ModelVersion) : ModelMeta where
  modelId := v.modelId
  containerId := v.containerId
  version := v.version
  featureVersion := v.featureVersion
  status := v.status

/-- The state of `ModelRegistryService`. -/
structure ModelRegistry where
  versions : Table String (List ModelVersion)

namespace ModelRegistry

/-! ## Operations -/

/-- A registry without versions. -/
def empty : ModelRegistry := ⟨Table.empty⟩

/-- `list`. -/
def list (r : ModelRegistry) (containerId : String) : List ModelVersion :=
  (r.versions.find? containerId).getD []

/-- The latest version of a container. -/
def latest (r : ModelRegistry) (containerId : String) : Option ModelVersion :=
  (r.list containerId).getLast?

/-- `update`; `now` is the value of `Instant.now()`. -/
def update (r : ModelRegistry) (containerId modelId : String) (version : Int32)
    (featureVersion : String) (status : ModelStatus) (now : Int) : ModelRegistry where
  versions := r.versions.set containerId
    (r.list containerId ++ [⟨modelId, containerId, version, featureVersion, now, status⟩])

/-- The part of `getMeta` and `syncFromMlService` that stores an answer of the ML service. -/
def cacheAnswer (r : ModelRegistry) (containerId : String) (answer : ModelMeta) (now : Int) :
    ModelRegistry :=
  r.update containerId answer.modelId answer.version answer.featureVersion answer.status now

/-- An answer that is stored. -/
def trainedAnswer (remote : Option ModelMeta) : Option ModelMeta :=
  remote.filter fun answer => decide (answer.status ≠ .untrained)

/-- The description of a container that no model is known of. -/
def unsetMeta (containerId : String) : ModelMeta where
  modelId := "unset"
  containerId := containerId
  version := 0
  featureVersion := "v1"
  status := .untrained

/-- `getMeta`. -/
def getMeta (r : ModelRegistry) (containerId : String) (remote : Option ModelMeta) (now : Int) :
    ModelRegistry × ModelMeta :=
  match r.latest containerId with
  | some v => (r, v.toMeta)
  -- the ML service is asked only about a container without entries
  | none =>
      match trainedAnswer remote with
      | some answer => (r.cacheAnswer containerId answer now, answer)
      | none => (r, unsetMeta containerId)

/-- `setStatus`. -/
def setStatus (r : ModelRegistry) (containerId : String) (version : Int32)
    (status : ModelStatus) : ModelRegistry :=
  match r.latest containerId with
  | none => r
  | some latest =>
      -- an entry other than the latest is never found
      if latest.version ≠ version then r
      else
        { versions := r.versions.set containerId
            ((r.list containerId).dropLast ++ [{ latest with status := status }]) }

/-- `removeLatest`. -/
def removeLatest (r : ModelRegistry) (containerId : String) : ModelRegistry :=
  if r.list containerId = [] then r
  else if (r.list containerId).dropLast = [] then { versions := r.versions.erase containerId }
  else { versions := r.versions.set containerId (r.list containerId).dropLast }

/-- One container of `syncFromMlService` with the answer of the ML service for it. -/
structure SyncAnswer where
  containerId : String
  remote : Option ModelMeta
  now : Int

/-- The body of the loop of `syncFromMlService`. -/
def syncOne (r : ModelRegistry) (answer : SyncAnswer) : ModelRegistry :=
  match trainedAnswer answer.remote with
  | some found => r.cacheAnswer answer.containerId found answer.now
  | none => r

/-- `syncFromMlService` and the number it returns. -/
def syncFromMlService (r : ModelRegistry) (answers : List SyncAnswer) : ModelRegistry × Nat :=
  (answers.foldl syncOne r, answers.countP fun a => (trainedAnswer a.remote).isSome)

/-- `clearCache`. -/
def clearCache (_ : ModelRegistry) : ModelRegistry := empty

/-! ## The lists after an operation -/

section Lists

variable (r : ModelRegistry) (c : String)

@[simp] theorem list_empty : empty.list c = [] := rfl

theorem latest_eq_none_iff : r.latest c = none ↔ r.list c = [] :=
  List.getLast?_eq_none_iff

theorem list_of_latest {v : ModelVersion} (h : r.latest c = some v) :
    r.list c = (r.list c).dropLast ++ [v] :=
  (List.dropLast_append_getLast? v h).symm

theorem list_update (k modelId : String) (version : Int32) (featureVersion : String)
    (status : ModelStatus) (now : Int) :
    (r.update k modelId version featureVersion status now).list c =
      if c = k then r.list k ++ [⟨modelId, k, version, featureVersion, now, status⟩]
      else r.list c := by
  by_cases h : c = k
  · rw [if_pos h, h, list, update, Table.find?_set_self, Option.getD_some]
  · rw [if_neg h, list, update, Table.find?_set_of_ne _ _ h, list]

/-- The entry that a stored answer becomes. -/
def answerVersion (k : String) (answer : ModelMeta) (now : Int) : ModelVersion :=
  ⟨answer.modelId, k, answer.version, answer.featureVersion, now, answer.status⟩

theorem list_cacheAnswer (k : String) (answer : ModelMeta) (now : Int) :
    (r.cacheAnswer k answer now).list c =
      if c = k then r.list k ++ [answerVersion k answer now] else r.list c :=
  list_update r c k _ _ _ _ now

/-- What `getMeta` adds to the list of the container it is asked for. -/
def cachedBy (k : String) (remote : Option ModelMeta) (now : Int) : List ModelVersion :=
  if r.list k = [] then ((trainedAnswer remote).map fun a => answerVersion k a now).toList else []

theorem list_getMeta (k : String) (remote : Option ModelMeta) (now : Int) :
    (r.getMeta k remote now).1.list c =
      if c = k then r.list k ++ r.cachedBy k remote now else r.list c := by
  rw [getMeta, cachedBy]
  cases hlatest : r.latest k with
  -- a container with entries is answered from the registry
  | some v =>
      have hne : r.list k ≠ [] := by
        rw [list_of_latest r k hlatest]
        simp
      simp only [if_neg hne, List.append_nil]
      by_cases h : c = k <;> simp [h]
  | none =>
      rw [if_pos ((latest_eq_none_iff r k).1 hlatest)]
      cases hanswer : trainedAnswer remote with
      | some answer =>
          simp only [Option.map_some, Option.toList_some]
          exact list_cacheAnswer r c k answer now
      | none =>
          simp only [Option.map_none, Option.toList_none, List.append_nil]
          by_cases h : c = k <;> simp [h]

theorem list_syncOne (a : SyncAnswer) :
    (r.syncOne a).list c =
      if c = a.containerId then
        r.list c ++ ((trainedAnswer a.remote).map fun m => answerVersion c m a.now).toList
      else r.list c := by
  rw [syncOne]
  cases trainedAnswer a.remote with
  | some found =>
      simp only [list_cacheAnswer, Option.map_some, Option.toList_some]
      by_cases h : c = a.containerId
      · rw [if_pos h, if_pos h, h]
      · rw [if_neg h, if_neg h]
  | none => simp

theorem list_setStatus (k : String) (version : Int32) (status : ModelStatus) :
    (r.setStatus k version status).list c =
      if c = k then
        match r.latest k with
        | none => []
        | some v =>
            (r.list k).dropLast ++ [if v.version = version then { v with status := status } else v]
      else r.list c := by
  rw [setStatus]
  cases hlatest : r.latest k with
  | none =>
      by_cases h : c = k
      · rw [if_pos h, h, (latest_eq_none_iff r k).1 hlatest]
      · rw [if_neg h]
  | some v =>
      by_cases hv : v.version = version
      · simp only [hv, ne_eq, not_true_eq_false, if_false, if_true]
        by_cases h : c = k
        · rw [if_pos h, h, list, Table.find?_set_self, Option.getD_some]
        · rw [if_neg h, list, Table.find?_set_of_ne _ _ h, list]
      · -- the status is for an older version and is dropped
        simp only [hv, ne_eq, not_false_eq_true, if_true, if_false]
        by_cases h : c = k
        · rw [if_pos h, h]
          exact list_of_latest r k hlatest
        · rw [if_neg h]

theorem list_removeLatest (k : String) :
    (r.removeLatest k).list c = if c = k then (r.list k).dropLast else r.list c := by
  rw [removeLatest]
  by_cases hnil : r.list k = []
  · by_cases h : c = k <;> simp [hnil, h]
  · by_cases hdrop : (r.list k).dropLast = []
    -- the last entry goes with its key
    · simp only [hnil, hdrop, if_false, if_true]
      by_cases h : c = k <;> simp [list, h]
    · simp only [hnil, hdrop, if_false]
      by_cases h : c = k
      · rw [if_pos h, h, list, Table.find?_set_self, Option.getD_some]
      · rw [if_neg h, list, Table.find?_set_of_ne _ _ h, list]

/-- The version `getMeta` reports: that of the latest entry, else that of a stored answer,
else zero. -/
def baseVersion (k : String) (remote : Option ModelMeta) : Int32 :=
  match r.latest k with
  | some v => v.version
  | none => ((trainedAnswer remote).map ModelMeta.version).getD 0

theorem version_getMeta (k : String) (remote : Option ModelMeta) (now : Int) :
    (r.getMeta k remote now).2.version = r.baseVersion k remote := by
  rw [getMeta, baseVersion]
  cases r.latest k with
  | some v => rfl
  | none =>
      cases trainedAnswer remote with
      | some answer => rfl
      | none => rfl

end Lists

end ModelRegistry

end DeepKernel.Server
