import DeepKernel.Ml.Isolation

/-!
# Trainings that fail

A training that raises leaves its traces in the dictionary: the model that was created or loaded for
it, and, if `fit` raised, an estimator that was never fitted in the place of the old one. The first
trace is not seen by later requests for scores and metadata (`Alike`), the second one is if the
model was in service, since `is_fitted` is still set.
-/

set_option autoImplicit false

namespace DeepKernel.Ml

open DeepKernel.Lib

variable {V F R : Type} [Zero R] [LT R] [DecidableLT R]

/-! ## Answers of the service -/

/-- What `POST /api/ml/score` and `GET /api/ml/models/{id}` answer; a score is `none` for an internal
error. -/
inductive Response (R : Type)
  | score (result : Option (R × Bool × Option Nat))
  | model (found : ModelMeta)

/-- The metadata that the endpoint makes up for a container without a model. -/
def untrainedMeta (containerId : String) : ModelMeta where
  modelId := "model-" ++ String.ofList (containerId.toList.map fun ch => if ch = '/' then '-' else ch)
  containerId := containerId
  version := 0
  featureVersion := "v1"
  status := .untrained
  trainedAt := none
  sampleCount := none

/-- The answer to an operation, for the two endpoints. -/
def respond : Op V × Result R → Option (Response R)
  | (.score _ _, .scored result) => some (.score result)
  | (.getMeta c, .found result) => some (.model (result.getD (untrainedMeta c)))
  | _ => none

/-- The operation is one of the two. -/
def Op.isQuery : Op V → Bool
  | .score _ _ => true
  | .getMeta _ => true
  | _ => false

omit [Zero R] [LT R] [DecidableLT R] in
theorem respond_eq_none {op : Op V} (hop : op.isQuery = false) (result : Result R) :
    respond (op, result) = none := by
  cases op with
  | score c v => cases hop
  | getMeta c => cases hop
  | train c data now => rfl
  | list => rfl
  | delete c => rfl
  | restart => rfl

/-- The answers of the two endpoints in a run. -/
def answers (sk : Sklearn V F R) (anomalyThreshold : R) (r : ModelRegistry F) (ops : List (Op V)) :
    List (Response R) :=
  (record sk anomalyThreshold r ops).filterMap respond

/-- Metadata asked for after another operation. -/
theorem answers_then_getMeta {sk : Sklearn V F R} {anomalyThreshold : R} {op : Op V}
    (hop : op.isQuery = false) {r : ModelRegistry F} {c : String} :
    answers sk anomalyThreshold r [op, .getMeta c] =
      [.model (((r.apply sk anomalyThreshold op).1.getModelMeta c).2.getD (untrainedMeta c))] := by
  rw [answers, record, outputs_cons, List.filterMap_append, ModelRegistry.step,
    List.filterMap_cons, respond_eq_none hop]
  rfl

/-! ## Models that serve alike -/

/-- The models differ at most in the estimator, and only while it is not used. -/
structure Alike (m m' : IsolationForestModel F) : Prop where
  rest : m' = { m with model := m'.model }
  model : m.isFitted = true → m'.model = m.model

omit [Zero R] [LT R] [DecidableLT R] in
theorem Alike.refl (m : IsolationForestModel F) : Alike m m := ⟨rfl, fun _ => rfl⟩

section Alike

variable {m m' : IsolationForestModel F} (h : Alike m m')
include h

omit [Zero R] [LT R] [DecidableLT R] in
theorem Alike.isFitted_eq : m'.isFitted = m.isFitted := by
  rw [h.rest]

omit [Zero R] [LT R] [DecidableLT R] in
theorem Alike.toMeta_eq : m'.toMeta = m.toMeta := by
  rw [h.rest]
  rfl

theorem Alike.score_eq (sk : Sklearn V F R) (anomalyThreshold : R) (v : V) :
    m'.score sk anomalyThreshold v = m.score sk anomalyThreshold v := by
  rw [IsolationForestModel.score, IsolationForestModel.score, h.isFitted_eq]
  cases hfitted : m.isFitted with
  | false => rfl
  | true => rw [h.model hfitted]

theorem Alike.scoreFound_eq (sk : Sklearn V F R) (anomalyThreshold : R) (v : V) :
    ModelRegistry.scoreFound sk anomalyThreshold v (some m') =
      ModelRegistry.scoreFound sk anomalyThreshold v (some m) := by
  have hversion : m'.version = m.version := by rw [h.rest]
  rw [ModelRegistry.scoreFound, ModelRegistry.scoreFound, h.score_eq, h.isFitted_eq, hversion]

omit [Zero R] [LT R] [DecidableLT R] in
/-- A training treats both models in the same way, and a training that succeeds makes them equal. -/
theorem Alike.train (sk : Sklearn V F R) (data : List V) (now : Int) :
    Alike (m.train sk data now).1 (m'.train sk data now).1 ∧
      (m'.train sk data now).2 = (m.train sk data now).2 ∧
      ∀ result, (m.train sk data now).2 = .ok result →
        (m'.train sk data now).1 = (m.train sk data now).1 := by
  obtain ⟨estimator, rfl⟩ : ∃ estimator, m' = { m with model := estimator } := ⟨_, h.rest⟩
  rw [IsolationForestModel.train, IsolationForestModel.train]
  split
  · exact ⟨h, rfl, fun _ hok => by cases hok⟩
  split
  · exact ⟨h, rfl, fun _ hok => by cases hok⟩
  -- both estimators are replaced
  cases sk.fit data with
  | none => exact ⟨.refl _, rfl, fun _ hok => by cases hok⟩
  | some forest => exact ⟨.refl _, rfl, fun _ _ => rfl⟩

end Alike

/-! ## Registries that serve alike -/

/-- No other container has the file of `c`. -/
def OwnFile (c : String) : Prop := ∀ k, modelPath k = modelPath c → k = c

/-- The cells of `c` in two registries serve alike: the files are the same, and so are the models in
memory, or the second registry has an untrained model where the first has none. -/
inductive CellAlike (c : String) : Cell F → Cell F → Prop
  | absent (disk : Option (IsolationForestModel F)) : CellAlike c ⟨none, disk⟩ ⟨none, disk⟩
  | present {m m' : IsolationForestModel F} (disk : Option (IsolationForestModel F))
      (h : Alike m m') : CellAlike c ⟨some m, disk⟩ ⟨some m', disk⟩
  | created {m' : IsolationForestModel F} (hown : OwnFile c) (h : Alike (.create c) m') :
      CellAlike c ⟨none, none⟩ ⟨some m', none⟩

/-- Two registries agree but for the cell of `c`, which serve alike. -/
structure RegistryAlike (c : String) (r r' : ModelRegistry F) : Prop where
  models : ∀ k, k ≠ c → r'.models.find? k = r.models.find? k
  disk : ∀ p, p ≠ modelPath c → r'.disk.find? p = r.disk.find? p
  own : CellAlike c (r.cell c) (r'.cell c)

section CellAlike

variable {c : String} {cell cell' : Cell F} (h : CellAlike c cell cell')
include h

omit [Zero R] [LT R] [DecidableLT R] in
theorem CellAlike.disk_eq : cell'.disk = cell.disk := by
  cases h with
  | absent disk => rfl
  | present disk h => rfl
  | created hown h => rfl

omit [Zero R] [LT R] [DecidableLT R] in
theorem CellAlike.modelFor : Alike (cell.modelFor c) (cell'.modelFor c) := by
  cases h with
  | absent disk => exact .refl _
  | present disk h => exact h
  | created hown h => exact h

omit [Zero R] [LT R] [DecidableLT R] in
/-- `train_model`. -/
theorem CellAlike.train (sk : Sklearn V F R) (data : List V) (now : Int) :
    CellAlike c (cell.train sk c data now).1 (cell'.train sk c data now).1 := by
  obtain ⟨halike, hresult, hok⟩ := h.modelFor.train sk data now
  rw [Cell.train, Cell.train, hresult]
  cases hresult' : ((cell.modelFor c).train sk data now).2 with
  | ok result =>
      simp only
      rw [hok result hresult']
      exact .present _ (.refl _)
  | error e =>
      simp only
      rw [h.disk_eq]
      exact .present _ halike

omit [Zero R] [LT R] [DecidableLT R] in
/-- `get_model`. -/
theorem CellAlike.loaded : CellAlike c cell.loaded cell'.loaded := by
  cases h with
  | absent disk =>
      cases disk with
      | none => exact .absent none
      | some m => exact .present (some m) (.refl m)
  | present disk h => exact .present disk h
  | created hown h => exact .created hown h

/-- The score that the model gives that `get_model` finds. -/
theorem CellAlike.scoreFound_eq (sk : Sklearn V F R) (anomalyThreshold : R) (v : V) :
    ModelRegistry.scoreFound sk anomalyThreshold v cell'.loaded.memory =
      ModelRegistry.scoreFound sk anomalyThreshold v cell.loaded.memory := by
  cases h with
  | absent disk => rfl
  | present disk h => exact h.scoreFound_eq sk anomalyThreshold v
  -- an untrained model answers as no model does
  | created hown h => exact h.scoreFound_eq sk anomalyThreshold v

omit [Zero R] [LT R] [DecidableLT R] in
/-- Its metadata. -/
theorem CellAlike.toMeta_eq :
    (cell'.loaded.memory.map IsolationForestModel.toMeta).getD (untrainedMeta c) =
      (cell.loaded.memory.map IsolationForestModel.toMeta).getD (untrainedMeta c) := by
  cases h with
  | absent disk => rfl
  | present disk h => exact h.toMeta_eq
  | created hown h => exact h.toMeta_eq

omit [Zero R] [LT R] [DecidableLT R] in
/-- `delete_model`. -/
theorem CellAlike.delete : CellAlike c cell.delete.1 cell'.delete.1 := by
  cases h with
  | absent disk => exact .absent disk
  | present disk h => exact .absent none
  | created hown h => exact .absent none

omit [Zero R] [LT R] [DecidableLT R] in
/-- The file is written by another container. -/
theorem CellAlike.of_disk (disk : Option (IsolationForestModel F))
    (hdisk : OwnFile c → disk = cell.disk) :
    CellAlike c ⟨cell.memory, disk⟩ ⟨cell'.memory, disk⟩ := by
  cases h with
  | absent _ => exact .absent disk
  | present _ h => exact .present disk h
  | created hown h =>
      rw [hdisk hown]
      exact .created hown h

end CellAlike

section RegistryAlike

variable {c : String} {r r' r₁ r₁' : ModelRegistry F} (h : RegistryAlike c r r')
include h

omit [Zero R] [LT R] [DecidableLT R] in
theorem RegistryAlike.find?_disk (p : String) : r'.disk.find? p = r.disk.find? p := by
  by_cases hp : p = modelPath c
  · rw [hp]
    exact h.own.disk_eq
  · exact h.disk p hp

omit [Zero R] [LT R] [DecidableLT R] in
theorem RegistryAlike.cell_eq {k : String} (hk : k ≠ c) : r'.cell k = r.cell k := by
  rw [ModelRegistry.cell, ModelRegistry.cell, h.models k hk, h.find?_disk]

omit [Zero R] [LT R] [DecidableLT R] in
/-- An operation on `c`. -/
theorem RegistryAlike.of_own {cell cell' : Cell F} (hacts : ActsOn c r r₁ cell)
    (hacts' : ActsOn c r' r₁' cell') (hcell : CellAlike c cell cell') : RegistryAlike c r₁ r₁' where
  models := fun k hk => by rw [hacts.models k hk, hacts'.models k hk, h.models k hk]
  disk := fun p hp => by rw [hacts.disk p hp, hacts'.disk p hp, h.disk p hp]
  own := by rwa [hacts.own, hacts'.own]

omit [Zero R] [LT R] [DecidableLT R] in
/-- An operation on another container. -/
theorem RegistryAlike.of_other {k : String} (hk : k ≠ c) {cell : Cell F}
    (hacts : ActsOn k r r₁ cell) (hacts' : ActsOn k r' r₁' cell) : RegistryAlike c r₁ r₁' := by
  have hfiles : ∀ p, r₁'.disk.find? p = r₁.disk.find? p := by
    intro p
    by_cases hp : p = modelPath k
    · rw [hp]
      exact congrArg Cell.disk (hacts'.own.trans hacts.own.symm)
    · rw [hacts.disk p hp, hacts'.disk p hp, h.find?_disk]
  refine ⟨fun j hj => ?_, fun p _ => hfiles p, ?_⟩
  · by_cases hjk : j = k
    · rw [hjk]
      exact congrArg Cell.memory (hacts'.own.trans hacts.own.symm)
    · rw [hacts.models j hjk, hacts'.models j hjk, h.models j hj]
  · have hcell := h.own.of_disk (r₁.disk.find? (modelPath c)) fun hown => ?_
    · rw [ModelRegistry.cell, ModelRegistry.cell, hacts.models c (Ne.symm hk),
        hacts'.models c (Ne.symm hk), hfiles]
      exact hcell
    · exact hacts.disk _ fun hp => hk (hown k hp.symm)

omit [Zero R] [LT R] [DecidableLT R] in
theorem RegistryAlike.restart : RegistryAlike c r.restart r'.restart where
  models := fun _ _ => rfl
  disk := fun p _ => h.find?_disk p
  own := by
    have hdisk : r'.restart.cell c = r.restart.cell c :=
      congrArg (Cell.mk none) (h.find?_disk (modelPath c))
    rw [hdisk]
    exact .absent _

/-- The same operation on both, and what the endpoints answer. -/
theorem RegistryAlike.apply (sk : Sklearn V F R) (anomalyThreshold : R) (op : Op V) :
    RegistryAlike c (r.apply sk anomalyThreshold op).1 (r'.apply sk anomalyThreshold op).1 ∧
      respond (op, (r'.apply sk anomalyThreshold op).2) =
        respond (op, (r.apply sk anomalyThreshold op).2) := by
  by_cases hother : ∃ k, op.container = some k ∧ k ≠ c
  · -- another container: its cell is the same in both registries
    obtain ⟨k, hk, hne⟩ := hother
    obtain ⟨f, hf⟩ := apply_acts sk anomalyThreshold hk
    obtain ⟨hacts, hresult⟩ := hf r
    obtain ⟨hacts', hresult'⟩ := hf r'
    rw [h.cell_eq hne] at hacts' hresult'
    exact ⟨h.of_other hne hacts hacts', by rw [hresult, hresult']⟩
  · -- an operation on `c` itself, or one that names no container
    have hown : ∀ k, op.container = some k → k = c := by
      intro k hk
      by_contra hne
      exact hother ⟨k, hk, hne⟩
    cases op with
    | train k data now =>
        obtain rfl := hown k rfl
        refine ⟨h.of_own (trainModel_acts r k sk data now).1 (trainModel_acts r' k sk data now).1
          (h.own.train sk data now), ?_⟩
        rw [respond_eq_none rfl, respond_eq_none rfl]
    | score k v =>
        obtain rfl := hown k rfl
        obtain ⟨hacts, hmodel⟩ := getModel_acts r k
        obtain ⟨hacts', hmodel'⟩ := getModel_acts r' k
        refine ⟨h.of_own hacts hacts' h.own.loaded, ?_⟩
        rw [ModelRegistry.apply, ModelRegistry.apply, ModelRegistry.score, ModelRegistry.score,
          hmodel, hmodel', h.own.scoreFound_eq]
    | getMeta k =>
        obtain rfl := hown k rfl
        obtain ⟨hacts, hmodel⟩ := getModel_acts r k
        obtain ⟨hacts', hmodel'⟩ := getModel_acts r' k
        refine ⟨h.of_own hacts hacts' h.own.loaded, ?_⟩
        rw [ModelRegistry.apply, ModelRegistry.apply, ModelRegistry.getModelMeta,
          ModelRegistry.getModelMeta, hmodel, hmodel', respond, respond, h.own.toMeta_eq]
    | list => exact ⟨h, rfl⟩
    | delete k =>
        obtain rfl := hown k rfl
        refine ⟨h.of_own (deleteModel_acts r k).1 (deleteModel_acts r' k).1 h.own.delete, ?_⟩
        rw [respond_eq_none rfl, respond_eq_none rfl]
    | restart => exact ⟨h.restart, rfl⟩

/-- Registries that serve alike give the same answers for ever. -/
theorem RegistryAlike.answers_eq (sk : Sklearn V F R) (anomalyThreshold : R) (ops : List (Op V)) :
    answers sk anomalyThreshold r' ops = answers sk anomalyThreshold r ops := by
  refine (filterMap_outputs_congr (P := fun _ => True) (fun s s' op _ halike => ?_) h
    fun _ _ => trivial).symm
  obtain ⟨hnext, hanswer⟩ := RegistryAlike.apply halike sk anomalyThreshold op
  refine ⟨hnext, ?_⟩
  rw [ModelRegistry.step, ModelRegistry.step, List.filterMap_cons, List.filterMap_cons, hanswer]

end RegistryAlike

/-! ## Queries only -/

omit [Zero R] [LT R] [DecidableLT R] in
/-- `get_model` does not change what any container would find. -/
theorem loaded_getModel (r : ModelRegistry F) (c k : String) :
    ((r.getModel c).1.cell k).loaded = (r.cell k).loaded := by
  obtain ⟨hacts, -⟩ := getModel_acts r c
  by_cases hk : k = c
  · subst hk
    rw [hacts.own, Cell.loaded, Cell.loaded]
    cases (r.cell k).memory with
    | none =>
        cases (r.cell k).disk with
        | none => rfl
        | some m => rfl
    | some m => rfl
  · have hdisk : (r.getModel c).1.disk.find? (modelPath k) = r.disk.find? (modelPath k) := by
      by_cases hp : modelPath k = modelPath c
      · rw [hp]
        exact congrArg Cell.disk hacts.own
      · exact hacts.disk _ hp
    rw [ModelRegistry.cell, ModelRegistry.cell, hacts.models k hk, hdisk]

/-- Every container gets the same answers from both registries. -/
def SameAnswers (sk : Sklearn V F R) (anomalyThreshold : R) (r r' : ModelRegistry F) : Prop :=
  ∀ k, (∀ v, ModelRegistry.scoreFound sk anomalyThreshold v (r'.cell k).loaded.memory =
      ModelRegistry.scoreFound sk anomalyThreshold v (r.cell k).loaded.memory) ∧
    ((r'.cell k).loaded.memory.map IsolationForestModel.toMeta).getD (untrainedMeta k) =
      ((r.cell k).loaded.memory.map IsolationForestModel.toMeta).getD (untrainedMeta k)

theorem SameAnswers.answers_eq {sk : Sklearn V F R} {anomalyThreshold : R}
    {r r' : ModelRegistry F} (h : SameAnswers sk anomalyThreshold r r') {ops : List (Op V)}
    (hops : ∀ op ∈ ops, op.isQuery = true) :
    answers sk anomalyThreshold r' ops = answers sk anomalyThreshold r ops := by
  refine (filterMap_outputs_congr (P := fun op : Op V => op.isQuery = true)
    (fun s s' op hop hsame => ?_) h hops).symm
  cases op with
  | score k v =>
      refine ⟨fun j => ?_, ?_⟩
      · -- a lookup loads a model, and what would be loaded stays the same
        have hj := hsame j
        rw [← loaded_getModel s k j, ← loaded_getModel s' k j] at hj
        exact hj
      · rw [ModelRegistry.step, ModelRegistry.step, List.filterMap_cons, List.filterMap_cons,
          ModelRegistry.apply, ModelRegistry.apply, ModelRegistry.score, ModelRegistry.score,
          (getModel_acts s k).2, (getModel_acts s' k).2, (hsame k).1 v]
  | getMeta k =>
      refine ⟨fun j => ?_, ?_⟩
      · have hj := hsame j
        rw [← loaded_getModel s k j, ← loaded_getModel s' k j] at hj
        exact hj
      · rw [ModelRegistry.step, ModelRegistry.step, List.filterMap_cons, List.filterMap_cons,
          ModelRegistry.apply, ModelRegistry.apply, ModelRegistry.getModelMeta,
          ModelRegistry.getModelMeta, (getModel_acts s k).2, (getModel_acts s' k).2, respond,
          respond, (hsame k).2]
  | train k data now => cases hop
  | list => cases hop
  | delete k => cases hop
  | restart => cases hop

/-! ## The traces of a training that fails -/

/-- `fit` is reached and raises. -/
def FitRaises (sk : Sklearn V F R) (data : List V) : Prop :=
  10 ≤ data.length ∧ sk.convertible data = true ∧ sk.fit data = none

/-- The model gives scores. -/
def InService (m : IsolationForestModel F) : Prop :=
  m.isFitted = true ∧ m.model ≠ some .unfitted

section Failure

variable {sk : Sklearn V F R} {data : List V} {now : Int}

omit [Zero R] [LT R] [DecidableLT R] in
/-- A training that fails in `fit` replaces the estimator, any other one leaves the model alone. -/
theorem train_of_error {m : IsolationForestModel F} {e : TrainError}
    (h : (m.train sk data now).2 = .error e) :
    FitRaises sk data ∧ (m.train sk data now).1 = { m with model := some .unfitted } ∨
      ¬ FitRaises sk data ∧ (m.train sk data now).1 = m := by
  rw [IsolationForestModel.train] at h ⊢
  split at h
  · -- too few vectors: the code raises before it makes an estimator
    rename_i hlen
    rw [if_pos hlen]
    exact .inr ⟨fun hraises => absurd hraises.1 (by omega), rfl⟩
  rename_i hlen
  rw [if_neg hlen]
  split at h
  · -- no numeric array
    rename_i hconv
    rw [if_pos hconv]
    refine .inr ⟨fun hraises => ?_, rfl⟩
    rw [hraises.2.1] at hconv
    cases hconv
  rename_i hconv
  rw [if_neg hconv]
  -- the new estimator is in the model before `fit` is called
  cases hfit : sk.fit data with
  | none => exact .inl ⟨⟨by omega, by simpa using hconv, hfit⟩, rfl⟩
  | some forest =>
      rw [hfit] at h
      cases h

omit [Zero R] [LT R] [DecidableLT R] in
theorem alike_of_error {m : IsolationForestModel F} {e : TrainError}
    (h : (m.train sk data now).2 = .error e) (hm : FitRaises sk data → ¬ InService m) :
    Alike m (m.train sk data now).1 := by
  rcases train_of_error h with ⟨hraises, hmodel⟩ | ⟨-, hmodel⟩
  · rw [hmodel]
    refine ⟨rfl, fun hfitted => ?_⟩
    -- a fitted model that is not in service has lost its estimator before
    by_contra hne
    exact hm hraises ⟨hfitted, fun hbroken => hne hbroken.symm⟩
  · rw [hmodel]
    exact .refl m

omit [Zero R] [LT R] [DecidableLT R] in
/-- The registry after a training that fails. -/
theorem trainModel_of_error {r : ModelRegistry F} {c : String} {e : TrainError}
    (h : (r.trainModel sk c data now).2 = .error e) :
    (((r.cell c).modelFor c).train sk data now).2 = .error e ∧
      ActsOn c r (r.trainModel sk c data now).1
        ⟨some (((r.cell c).modelFor c).train sk data now).1, (r.cell c).disk⟩ := by
  obtain ⟨hacts, hresult⟩ := trainModel_acts r c sk data now
  rw [hresult, Cell.train] at h
  rw [Cell.train] at hacts
  cases htrained : (((r.cell c).modelFor c).train sk data now).2 with
  | ok result =>
      simp only [htrained] at h
      cases h
  | error e' =>
      simp only [htrained] at h hacts
      exact ⟨h, hacts⟩

/-- A training that spares the model in service leaves no trace that a query sees. -/
theorem sameAnswers_of_error {r : ModelRegistry F} {c : String} {e : TrainError}
    (anomalyThreshold : R) (h : (r.trainModel sk c data now).2 = .error e)
    (hm : FitRaises sk data → ¬ InService ((r.cell c).modelFor c)) :
    SameAnswers sk anomalyThreshold r (r.trainModel sk c data now).1 := by
  obtain ⟨hfails, hacts⟩ := trainModel_of_error h
  have halike := alike_of_error hfails hm
  intro k
  by_cases hk : k = c
  · subst hk
    rw [hacts.own]
    have hfound : Alike ((r.cell k).loaded.memory.getD (.create k))
        (((r.cell k).modelFor k).train sk data now).1 := by
      have hmodel : (r.cell k).loaded.memory.getD (.create k) = (r.cell k).modelFor k := by
        rw [Cell.loaded, Cell.modelFor]
        cases (r.cell k).memory with
        | none => rfl
        | some m => rfl
      rwa [hmodel]
    -- where nothing was found before, there is an untrained model now
    cases hmemory : (r.cell k).loaded.memory with
    | none =>
        rw [hmemory] at hfound
        exact ⟨fun v => hfound.scoreFound_eq sk anomalyThreshold v, hfound.toMeta_eq⟩
    | some m =>
        rw [hmemory] at hfound
        exact ⟨fun v => hfound.scoreFound_eq sk anomalyThreshold v, hfound.toMeta_eq⟩
  · have hdisk : (r.trainModel sk c data now).1.disk.find? (modelPath k) =
        r.disk.find? (modelPath k) := by
      by_cases hp : modelPath k = modelPath c
      · rw [hp]
        exact congrArg Cell.disk hacts.own
      · exact hacts.disk _ hp
    rw [ModelRegistry.cell, ModelRegistry.cell, hacts.models k hk, hdisk]
    exact ⟨fun _ => rfl, rfl⟩

/-- A training that fails in `fit` takes the model out of service. -/
theorem not_forall_answers_eq {r : ModelRegistry F} {c : String} {e : TrainError}
    (anomalyThreshold : R) (hscores : ∀ forest, ∃ v, (sk.scoreSamples forest v).isSome)
    (h : (r.trainModel sk c data now).2 = .error e) (hraises : FitRaises sk data)
    (hm : InService ((r.cell c).modelFor c)) :
    ∃ v, answers sk anomalyThreshold (r.trainModel sk c data now).1 [.score c v] ≠
      answers sk anomalyThreshold r [.score c v] := by
  obtain ⟨hfails, hacts⟩ := trainModel_of_error h
  obtain ⟨-, htrained⟩ : FitRaises sk data ∧ (((r.cell c).modelFor c).train sk data now).1 =
      { (r.cell c).modelFor c with model := some .unfitted } := by
    rcases train_of_error hfails with hbroken | ⟨hnot, -⟩
    · exact hbroken
    · exact absurd hraises hnot
  obtain ⟨hfitted, hmodel⟩ := hm
  -- a fitted model is one that was found
  have hfound : (r.cell c).loaded.memory = some ((r.cell c).modelFor c) := by
    rw [Cell.loaded]
    rw [Cell.modelFor] at hfitted ⊢
    cases hmemory : (r.cell c).memory with
    | some m => rfl
    | none =>
        cases hdisk : (r.cell c).disk with
        | some m => rfl
        | none =>
            rw [hmemory, hdisk] at hfitted
            cases hfitted
  obtain ⟨v, hv⟩ : ∃ v, (((r.cell c).modelFor c).score sk anomalyThreshold v).isSome := by
    cases hestimator : ((r.cell c).modelFor c).model with
    | none =>
        obtain ⟨v, -⟩ := List.exists_mem_of_length_pos (l := data) (by have := hraises.1; omega)
        refine ⟨v, ?_⟩
        simp [IsolationForestModel.score, hestimator]
    | some estimator =>
        cases estimator with
        | unfitted => exact absurd hestimator hmodel
        | fitted forest =>
            obtain ⟨v, hv⟩ := hscores forest
            refine ⟨v, ?_⟩
            simp [IsolationForestModel.score, hestimator, hfitted, hv]
  refine ⟨v, fun hsame => ?_⟩
  have hafter : (((r.trainModel sk c data now).1.score sk anomalyThreshold c v).2).isNone := by
    rw [ModelRegistry.score, (getModel_acts _ c).2, hacts.own, htrained]
    simp [Cell.loaded, ModelRegistry.scoreFound, IsolationForestModel.score, hfitted]
  have hbefore : ((r.score sk anomalyThreshold c v).2).isSome := by
    rw [ModelRegistry.score, (getModel_acts _ c).2, hfound]
    simpa [ModelRegistry.scoreFound] using hv
  have hscore : ((r.trainModel sk c data now).1.score sk anomalyThreshold c v).2 =
      (r.score sk anomalyThreshold c v).2 := by
    simpa [answers, ModelRegistry.step, ModelRegistry.apply, respond] using hsame
  rw [hscore, Option.isNone_iff_eq_none] at hafter
  rw [hafter] at hbefore
  cases hbefore

end Failure

/-! ## Reachable registries -/

/-- The registry is reached from an empty one. -/
def Reachable (sk : Sklearn V F R) (anomalyThreshold : R) (r : ModelRegistry F) : Prop :=
  ∃ ops, r = registryAfter sk anomalyThreshold .empty ops

/-- Only trained models are written to files. -/
def FilesTrained (r : ModelRegistry F) : Prop :=
  ∀ p m, r.disk.find? p = some m → m.isFitted = true

omit [Zero R] [LT R] [DecidableLT R] in
theorem FilesTrained.of_actsOn {r r' : ModelRegistry F} {c : String} {cell : Cell F}
    (h : FilesTrained r) (hacts : ActsOn c r r' cell)
    (hcell : ∀ m, cell.disk = some m → m.isFitted = true) : FilesTrained r' := by
  intro p m hm
  by_cases hp : p = modelPath c
  · apply hcell m
    rw [← hacts.own, ← hm, hp]
    rfl
  · rw [hacts.disk p hp] at hm
    exact h p m hm

theorem FilesTrained.apply {sk : Sklearn V F R} {anomalyThreshold : R} {r : ModelRegistry F}
    (h : FilesTrained r) (op : Op V) : FilesTrained (r.apply sk anomalyThreshold op).1 := by
  cases op with
  | train c data now =>
      refine h.of_actsOn (trainModel_acts r c sk data now).1 fun m hm => ?_
      rw [Cell.train] at hm
      cases htrained : (((r.cell c).modelFor c).train sk data now).2 with
      | error e =>
          simp only [htrained] at hm
          exact h _ m hm
      | ok result =>
          simp only [htrained, Option.some.injEq] at hm
          -- the only branch of `train` that returns sets the flag
          rw [← hm]
          rw [IsolationForestModel.train] at htrained ⊢
          split at htrained
          · cases htrained
          split at htrained
          · cases htrained
          rename_i hlen hconv
          rw [if_neg hlen, if_neg hconv]
          cases hfit : sk.fit data with
          | none =>
              rw [hfit] at htrained
              cases htrained
          | some forest => rfl
  | score c v => exact h.of_actsOn (getModel_acts r c).1 fun m hm => h _ m hm
  | getMeta c => exact h.of_actsOn (getModel_acts r c).1 fun m hm => h _ m hm
  | list => exact h
  | delete c =>
      refine h.of_actsOn (deleteModel_acts r c).1 fun m hm => ?_
      rw [Cell.delete] at hm
      split at hm
      · cases hm
      · exact h _ m hm
  | restart => exact h

theorem Reachable.filesTrained {sk : Sklearn V F R} {anomalyThreshold : R} {r : ModelRegistry F}
    (h : Reachable sk anomalyThreshold r) : FilesTrained r := by
  obtain ⟨ops, rfl⟩ := h
  refine finalState_invariant (P := fun _ => True) (fun s op _ hs => ?_) (fun p m hm => ?_)
    fun _ _ => trivial
  · exact FilesTrained.apply hs op
  · cases hm

/-! ## When a failed training goes unnoticed -/

/-- The failed training changes nothing that any later run can see: it does not take a model out of
service, and it neither loads a model from disk (which `delete_model` would then find) nor creates one
where another container could still write the file. -/
def Unnoticed (sk : Sklearn V F R) (r : ModelRegistry F) (c : String) (data : List V) : Prop :=
  (FitRaises sk data → ¬ InService ((r.cell c).modelFor c)) ∧
    ((r.cell c).memory.isSome ∨ (r.cell c).disk = none ∧ OwnFile c)

section Runs

variable {sk : Sklearn V F R} {anomalyThreshold : R} {r : ModelRegistry F} {c : String}
  {data : List V} {now : Int} {e : TrainError} (h : (r.trainModel sk c data now).2 = .error e)
include h

omit [Zero R] [LT R] [DecidableLT R] in
theorem registryAlike_of_unnoticed (hun : Unnoticed sk r c data) :
    RegistryAlike c r (r.trainModel sk c data now).1 := by
  obtain ⟨hfails, hacts⟩ := trainModel_of_error h
  obtain ⟨hm, hcell⟩ := hun
  have halike := alike_of_error hfails hm
  refine ⟨hacts.models, hacts.disk, ?_⟩
  rw [hacts.own]
  obtain ⟨memory, disk, hrcell⟩ : ∃ memory disk, r.cell c = ⟨memory, disk⟩ := ⟨_, _, rfl⟩
  rw [hrcell] at halike hcell ⊢
  cases memory with
  | some m => exact .present disk halike
  | none =>
      obtain hsome | ⟨hdisk, hown⟩ := hcell
      · cases hsome
      · have hnone : disk = none := hdisk
        subst hnone
        exact .created hown halike

/-- A model that the failed training has loaded can be deleted, one on disk only cannot. -/
theorem answers_delete_ne (hfiles : FilesTrained r) {m : IsolationForestModel F}
    (hmemory : (r.cell c).memory = none) (hdisk : (r.cell c).disk = some m) :
    answers sk anomalyThreshold (r.trainModel sk c data now).1 [.delete c, .getMeta c] ≠
      answers sk anomalyThreshold r [.delete c, .getMeta c] := by
  obtain ⟨-, hacts⟩ := trainModel_of_error h
  have hfitted : m.isFitted = true := hfiles _ m hdisk
  obtain ⟨hdeleted, -⟩ := deleteModel_acts r c
  obtain ⟨hdeleted', -⟩ := deleteModel_acts (r.trainModel sk c data now).1 c
  intro hsame
  have hmeta : (((r.trainModel sk c data now).1.deleteModel c).1.getModelMeta c).2.getD
      (untrainedMeta c) = ((r.deleteModel c).1.getModelMeta c).2.getD (untrainedMeta c) := by
    rw [answers_then_getMeta rfl, answers_then_getMeta rfl] at hsame
    exact Response.model.inj (List.head_eq_of_cons_eq hsame)
  rw [ModelRegistry.getModelMeta, ModelRegistry.getModelMeta, (getModel_acts _ c).2,
    (getModel_acts _ c).2, hdeleted.own, hdeleted'.own, hacts.own] at hmeta
  have hstatus := congrArg ModelMeta.status hmeta
  simp [Cell.delete, Cell.loaded, hmemory, hdisk, untrainedMeta, IsolationForestModel.toMeta,
    hfitted] at hstatus

/-- A model that the failed training has created hides the file that another container writes. -/
theorem answers_train_ne {k : String} (hk : k ≠ c) (hpath : modelPath k = modelPath c)
    (hmemory : (r.cell c).memory = none) (hdisk : (r.cell c).disk = none) {fresh : List V}
    (hfresh : Trainable sk fresh) :
    answers sk anomalyThreshold (r.trainModel sk c data now).1 [.train k fresh 0, .getMeta c] ≠
      answers sk anomalyThreshold r [.train k fresh 0, .getMeta c] := by
  obtain ⟨hfails, hacts⟩ := trainModel_of_error h
  obtain ⟨hother, -⟩ := trainModel_acts r k sk fresh 0
  obtain ⟨hother', -⟩ := trainModel_acts (r.trainModel sk c data now).1 k sk fresh 0
  intro hsame
  have hmeta : (((r.trainModel sk c data now).1.trainModel sk k fresh 0).1.getModelMeta c).2.getD
      (untrainedMeta c) = ((r.trainModel sk k fresh 0).1.getModelMeta c).2.getD
        (untrainedMeta c) := by
    rw [answers_then_getMeta rfl, answers_then_getMeta rfl] at hsame
    exact Response.model.inj (List.head_eq_of_cons_eq hsame)
  -- with the failed training: the created model
  have hleft : (((r.trainModel sk c data now).1.trainModel sk k fresh 0).1.cell c).memory =
      some (((r.cell c).modelFor c).train sk data now).1 := by
    have hmodels := hother'.models c (Ne.symm hk)
    have hown := congrArg Cell.memory hacts.own
    exact hmodels.trans hown
  have huntrained : (((r.cell c).modelFor c).train sk data now).1.isFitted = false := by
    have hcreate : (r.cell c).modelFor c = .create c := by
      rw [Cell.modelFor, hmemory, hdisk]
      rfl
    rw [hcreate] at hfails ⊢
    rcases train_of_error hfails with ⟨-, hmodel⟩ | ⟨-, hmodel⟩
    · rw [hmodel]
      rfl
    · rw [hmodel]
      rfl
  -- without it: the model of the other container
  obtain ⟨forest, -, htrain⟩ := train_of_trainable hfresh ((r.cell k).modelFor k) 0
  have hright : ((r.trainModel sk k fresh 0).1.cell c).memory = none := by
    exact (hother.models c (Ne.symm hk)).trans hmemory
  have hfile : ((r.trainModel sk k fresh 0).1.cell c).disk =
      ((r.trainModel sk k fresh 0).1.cell k).disk := by
    rw [ModelRegistry.cell, ModelRegistry.cell, hpath]
  rw [hother.own, Cell.train, htrain] at hfile
  rw [ModelRegistry.getModelMeta, ModelRegistry.getModelMeta, (getModel_acts _ c).2,
    (getModel_acts _ c).2, Cell.loaded, Cell.loaded, hleft, hright, hfile] at hmeta
  have hstatus := congrArg ModelMeta.status hmeta
  simp [IsolationForestModel.toMeta, huntrained] at hstatus

end Runs

/-- After a training that failed, later queries are answered as without it exactly if it did not take
a model out of service; in later runs of any operations, exactly if it goes unnoticed. -/
theorem failed_training_iff (sk : Sklearn V F R) (anomalyThreshold : R)
    (hsk : ∃ fresh, Trainable sk fresh)
    (hscores : ∀ forest, ∃ v, (sk.scoreSamples forest v).isSome) (r : ModelRegistry F)
    (hr : Reachable sk anomalyThreshold r) (c : String) (data : List V) (now : Int)
    (e : TrainError) (h : (r.trainModel sk c data now).2 = .error e) :
    ((∀ ops, (∀ op ∈ ops, op.isQuery = true) →
        answers sk anomalyThreshold (r.trainModel sk c data now).1 ops =
          answers sk anomalyThreshold r ops) ↔
      (FitRaises sk data → ¬ InService ((r.cell c).modelFor c))) ∧
    ((∀ ops, answers sk anomalyThreshold (r.trainModel sk c data now).1 ops =
        answers sk anomalyThreshold r ops) ↔ Unnoticed sk r c data) := by
  -- a score shows a model that went out of service
  have hbroken : (∀ v, answers sk anomalyThreshold (r.trainModel sk c data now).1 [.score c v] =
      answers sk anomalyThreshold r [.score c v]) →
        FitRaises sk data → ¬ InService ((r.cell c).modelFor c) := by
    intro hsame hraises hm
    obtain ⟨v, hv⟩ := not_forall_answers_eq anomalyThreshold hscores h hraises hm
    exact hv (hsame v)
  refine ⟨⟨fun hsame => hbroken fun v => ?_, fun hm ops hops => ?_⟩,
    ⟨fun hsame => ⟨hbroken fun v => hsame _, ?_⟩, fun hun ops => ?_⟩⟩
  · exact hsame _ fun op hop => by rw [List.mem_singleton.1 hop]; rfl
  · exact (sameAnswers_of_error anomalyThreshold h hm).answers_eq hops
  · -- a delete, or a training of a container with the same file, shows an entry that was added
    cases hmemory : (r.cell c).memory with
    | some m => exact .inl rfl
    | none =>
        cases hdisk : (r.cell c).disk with
        | some m => exact absurd (hsame _) (answers_delete_ne h hr.filesTrained hmemory hdisk)
        | none =>
            refine .inr ⟨rfl, fun k hpath => ?_⟩
            by_contra hk
            obtain ⟨fresh, hfresh⟩ := hsk
            exact absurd (hsame _) (answers_train_ne h hk hpath hmemory hdisk hfresh)
  · exact (registryAlike_of_unnoticed h hun).answers_eq sk anomalyThreshold ops

/-! ## A fit that runs out of memory -/

/-- Vectors of one length are accepted, the fitted forest is the training data, and the memory is
enough for twenty vectors. -/
def limitedForest : Sklearn (List ℚ) (List (List ℚ)) ℚ where
  convertible := fun data => data.all fun v => decide (v.length = (data.headD []).length)
  fit := fun data => if data = [] ∨ 20 < data.length then none else some data
  scoreSamples := fun _ _ => some (-1 / 2)

/-- Training data of the given number of vectors. -/
@[irreducible] def flatData (n : Nat) : List (List ℚ) := List.replicate n (List.replicate 594 0)

theorem length_flatData (n : Nat) : (flatData n).length = n := by
  rw [flatData, List.length_replicate]

theorem convertible_flatData (n : Nat) : limitedForest.convertible (flatData n) = true := by
  refine List.all_eq_true.2 fun v hv => decide_eq_true ?_
  rw [flatData] at hv ⊢
  obtain ⟨hn, rfl⟩ := List.mem_replicate.1 hv
  obtain ⟨m, rfl⟩ := Nat.exists_eq_succ_of_ne_zero hn
  rfl

theorem trainable_flatData : Trainable limitedForest (flatData 10) := by
  refine ⟨by rw [length_flatData], convertible_flatData 10, ?_⟩
  have hfit : ¬ (flatData 10 = [] ∨ 20 < (flatData 10).length) := by
    rw [← List.length_eq_zero_iff, length_flatData]
    decide
  rw [limitedForest]
  simp only [if_neg hfit, Option.isSome_some]

theorem fitRaises_flatData : FitRaises limitedForest (flatData 21) := by
  refine ⟨by rw [length_flatData]; decide, convertible_flatData 21, ?_⟩
  have hfit : flatData 21 = [] ∨ 20 < (flatData 21).length := by
    rw [length_flatData]
    exact .inr (by decide)
  rw [limitedForest]
  simp only [if_pos hfit]

/-- A registry with one trained model. -/
def trainedOnce : ModelRegistry (List (List ℚ)) :=
  (ModelRegistry.empty.trainModel limitedForest "prod/api" (flatData 10) 0).1

theorem reachable_trainedOnce : Reachable limitedForest (-65 / 100) trainedOnce :=
  ⟨[.train "prod/api" (flatData 10) 0], rfl⟩

/-- Its model is in memory and in service. -/
theorem inService_trainedOnce :
    (trainedOnce.cell "prod/api").memory.isSome ∧
      InService ((trainedOnce.cell "prod/api").modelFor "prod/api") := by
  obtain ⟨forest, -, htrain⟩ := train_of_trainable trainable_flatData (.create "prod/api") 0
  have hown := (trainModel_acts (ModelRegistry.empty : ModelRegistry (List (List ℚ))) "prod/api"
    limitedForest (flatData 10) 0).1.own
  have hcreate : ((ModelRegistry.empty : ModelRegistry (List (List ℚ))).cell "prod/api").modelFor
      "prod/api" = .create "prod/api" := rfl
  rw [Cell.train, hcreate, htrain] at hown
  have hcell : trainedOnce.cell "prod/api" = _ := hown
  rw [hcell]
  exact ⟨rfl, rfl, fun hbroken => by cases hbroken⟩

/-- A retraining with more vectors than the memory takes makes the model raise. -/
theorem retraining_breaks_model :
    (∃ e, (trainedOnce.trainModel limitedForest "prod/api" (flatData 21) 1).2 = .error e) ∧
      ∃ v, answers limitedForest (-65 / 100)
          (trainedOnce.trainModel limitedForest "prod/api" (flatData 21) 1).1
          [.score "prod/api" v] ≠
        answers limitedForest (-65 / 100) trainedOnce [.score "prod/api" v] := by
  have hfails : (trainedOnce.trainModel limitedForest "prod/api" (flatData 21) 1).2 =
      .error .fit := by
    obtain ⟨hlen, hconv, hfit⟩ := fitRaises_flatData
    rw [(trainModel_acts _ _ _ _ _).2, Cell.train, IsolationForestModel.train,
      if_neg (by omega), hconv, hfit]
    rfl
  exact ⟨⟨.fit, hfails⟩, not_forall_answers_eq (-65 / 100) (fun _ => ⟨[], rfl⟩) hfails
    fitRaises_flatData inService_trainedOnce.2⟩

/-- A retraining with too few vectors is not noticed. -/
theorem retraining_without_vectors_unnoticed :
    (trainedOnce.trainModel limitedForest "prod/api" [] 1).2 = .error .tooFewSamples ∧
      ∀ ops, answers limitedForest (-65 / 100)
          (trainedOnce.trainModel limitedForest "prod/api" [] 1).1 ops =
        answers limitedForest (-65 / 100) trainedOnce ops :=
  ⟨rfl, (failed_training_iff limitedForest (-65 / 100) ⟨_, trainable_flatData⟩ (fun _ => ⟨[], rfl⟩)
    trainedOnce reachable_trainedOnce "prod/api" [] 1 .tooFewSamples rfl).2.2
    ⟨fun hraises => absurd hraises.1 (by decide), .inl inService_trainedOnce.1⟩⟩

end DeepKernel.Ml
