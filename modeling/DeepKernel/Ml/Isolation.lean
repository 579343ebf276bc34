import DeepKernel.Ml.ModelRegistry

/-!
# Isolation of the models of two containers

The dictionary is keyed by the container, the disk by its file name. Containers with different file
names never meet (`record_without`); containers with the same one share their models through the
disk.
-/

set_option autoImplicit false

namespace DeepKernel.Ml

open DeepKernel.Lib

variable {V F R : Type} [Zero R] [LT R] [DecidableLT R]

/-- The operation names the container. -/
def Op.names (c : String) (op : Op V) : Bool := decide (op.container = some c)

/-- Leaving out all operations that name `a` changes no answer to an operation that names `b`. -/
def Isolated (sk : Sklearn V F R) (anomalyThreshold : R) (a b : String) (ops : List (Op V)) :
    Prop :=
  (record sk anomalyThreshold .empty ops).filter (fun e => e.1.names b) =
    (record sk anomalyThreshold .empty (ops.filter fun op => !op.names a)).filter
      fun e => e.1.names b

/-- Two registries agree on a file and on the entries of the containers that use it. -/
structure SameFile (p : String) (r r' : ModelRegistry F) : Prop where
  models : ∀ c, modelPath c = p → r.models.find? c = r'.models.find? c
  disk : r.disk.find? p = r'.disk.find? p

theorem SameFile.cell_eq {p : String} {r r' : ModelRegistry F} (h : SameFile p r r') {c : String}
    (hc : modelPath c = p) : r.cell c = r'.cell c := by
  subst hc
  rw [ModelRegistry.cell, ModelRegistry.cell, h.models c rfl, h.disk]

/-- An operation on a container with another file is not noticed. -/
theorem SameFile.of_actsOn {p : String} {r r₁ r' : ModelRegistry F} {c : String} {cell : Cell F}
    (h : SameFile p r r') (hacts : ActsOn c r r₁ cell) (hc : modelPath c ≠ p) :
    SameFile p r₁ r' where
  models := fun k hk => by
    have hne : k ≠ c := fun hkc => hc (hkc ▸ hk)
    rw [hacts.models k hne, h.models k hk]
  disk := by rw [hacts.disk p (Ne.symm hc), h.disk]

theorem SameFile.symm {p : String} {r r' : ModelRegistry F} (h : SameFile p r r') :
    SameFile p r' r :=
  ⟨fun c hc => (h.models c hc).symm, h.disk.symm⟩

/-- The same operation on the same cell keeps both registries in agreement. -/
theorem SameFile.both {p : String} {r r₁ r' r₁' : ModelRegistry F} {c : String} {cell : Cell F}
    (h : SameFile p r r') (hacts : ActsOn c r r₁ cell) (hacts' : ActsOn c r' r₁' cell)
    (hc : modelPath c = p) : SameFile p r₁ r₁' where
  models := fun k hk => by
    by_cases hkc : k = c
    · rw [hkc]
      exact congrArg Cell.memory (hacts.own.trans hacts'.own.symm)
    · rw [hacts.models k hkc, hacts'.models k hkc, h.models k hk]
  disk := by
    rw [← hc]
    exact congrArg Cell.disk (hacts.own.trans hacts'.own.symm)

section Steps

variable (sk : Sklearn V F R) (anomalyThreshold : R)

/-- An operation that names a container is a function of the cell of that container. -/
theorem apply_acts {op : Op V} {c : String} (hop : op.container = some c) :
    ∃ f : Cell F → Cell F × Result R, ∀ r : ModelRegistry F,
      ActsOn c r (r.apply sk anomalyThreshold op).1 (f (r.cell c)).1 ∧
        (r.apply sk anomalyThreshold op).2 = (f (r.cell c)).2 := by
  cases op with
  | train k data now =>
      obtain rfl : k = c := Option.some.inj hop
      refine ⟨fun cell => ((cell.train sk k data now).1, .trained (cell.train sk k data now).2),
        fun r => ?_⟩
      obtain ⟨hacts, hresult⟩ := trainModel_acts r k sk data now
      exact ⟨hacts, congrArg Result.trained hresult⟩
  | score k v =>
      obtain rfl : k = c := Option.some.inj hop
      refine ⟨fun cell => (cell.loaded,
        .scored (ModelRegistry.scoreFound sk anomalyThreshold v cell.loaded.memory)), fun r => ?_⟩
      obtain ⟨hacts, hmodel⟩ := getModel_acts r k
      refine ⟨hacts, ?_⟩
      rw [ModelRegistry.apply, ModelRegistry.score, hmodel]
  | getMeta k =>
      obtain rfl : k = c := Option.some.inj hop
      refine ⟨fun cell =>
        (cell.loaded, .found (cell.loaded.memory.map IsolationForestModel.toMeta)), fun r => ?_⟩
      obtain ⟨hacts, hmodel⟩ := getModel_acts r k
      refine ⟨hacts, ?_⟩
      rw [ModelRegistry.apply, ModelRegistry.getModelMeta, hmodel]
  | list => cases hop
  | delete k =>
      obtain rfl : k = c := Option.some.inj hop
      refine ⟨fun cell => (cell.delete.1, .deleted cell.delete.2), fun r => ?_⟩
      obtain ⟨hacts, hresult⟩ := deleteModel_acts r k
      exact ⟨hacts, congrArg Result.deleted hresult⟩
  | restart => cases hop

theorem SameFile.restart {p : String} {r r' : ModelRegistry F} (h : SameFile p r r') :
    SameFile p r.restart r'.restart :=
  ⟨fun _ _ => rfl, h.disk⟩

/-- The same operation keeps two registries in agreement, and if its container uses the file, they
give the same answer. -/
theorem SameFile.apply {p : String} {r r' : ModelRegistry F} (h : SameFile p r r') (op : Op V) :
    SameFile p (r.apply sk anomalyThreshold op).1 (r'.apply sk anomalyThreshold op).1 ∧
      ∀ c, op.container = some c → modelPath c = p →
        (r.apply sk anomalyThreshold op).2 = (r'.apply sk anomalyThreshold op).2 := by
  cases hop : op.container with
  | none =>
      refine ⟨?_, fun c hc => nomatch hc⟩
      cases op with
      | list => exact h
      | restart => exact h.restart
      | train k data now => cases hop
      | score k v => cases hop
      | getMeta k => cases hop
      | delete k => cases hop
  | some k =>
      obtain ⟨f, hf⟩ := apply_acts sk anomalyThreshold hop
      obtain ⟨hacts, hresult⟩ := hf r
      obtain ⟨hacts', hresult'⟩ := hf r'
      by_cases hk : modelPath k = p
      · -- the container uses the file, so its cell is the same in both
        have hcell := h.cell_eq hk
        rw [← hcell] at hacts' hresult'
        exact ⟨h.both hacts hacts' hk, fun _ _ _ => hresult.trans hresult'.symm⟩
      · -- a container with another file changes nothing that the relation speaks of
        refine ⟨((h.of_actsOn hacts hk).symm.of_actsOn hacts' hk).symm, fun c hc hp => ?_⟩
        exact absurd (Option.some.inj hc ▸ hp) hk

/-- Operations of a container with another file can be left out. -/
theorem record_without {a b : String} (hne : modelPath a ≠ modelPath b) {r r' : ModelRegistry F}
    (h : SameFile (modelPath b) r r') (ops : List (Op V)) :
    (record sk anomalyThreshold r ops).filter (fun e => e.1.names b) =
      (record sk anomalyThreshold r' (ops.filter fun op => !op.names a)).filter
        fun e => e.1.names b := by
  induction ops generalizing r r' with
  | nil => rfl
  | cons op ops ih =>
      rw [record, outputs_cons, List.filter_append]
      by_cases ha : op.container = some a
      · -- The operation is left out on the right and has no answer about `b` on the left.
        obtain ⟨f, hf⟩ := apply_acts sk anomalyThreshold ha
        have hnext := h.of_actsOn (hf r).1 hne
        have hdrop : [(op, (r.apply sk anomalyThreshold op).2)].filter
            (fun e => e.1.names b) = [] := by
          have hab : a ≠ b := fun hab => hne (hab ▸ rfl)
          simp [Op.names, ha, hab]
        rw [List.filter_cons_of_neg (by simp [Op.names, ha])]
        exact (congrArg (· ++ _) hdrop).trans (ih hnext)
      · -- Both runs make the step; its answer counts only if it names `b`.
        obtain ⟨hnext, hresult⟩ := h.apply sk anomalyThreshold op
        rw [List.filter_cons_of_pos (by simp [Op.names, ha]), record, outputs_cons,
          List.filter_append]
        have hhead : [(op, (r.apply sk anomalyThreshold op).2)].filter (fun e => e.1.names b) =
            [(op, (r'.apply sk anomalyThreshold op).2)].filter (fun e => e.1.names b) := by
          by_cases hb : op.container = some b
          · rw [hresult b hb rfl]
          · simp [Op.names, hb]
        exact congrArg₂ (· ++ ·) hhead (ih hnext)

end Steps

/-! ## Containers that share a file -/

/-- Training data that makes a model. -/
def Trainable (sk : Sklearn V F R) (data : List V) : Prop :=
  10 ≤ data.length ∧ sk.convertible data = true ∧ (sk.fit data).isSome

omit [Zero R] [LT R] [DecidableLT R] in
theorem train_of_trainable {sk : Sklearn V F R} {data : List V} (h : Trainable sk data)
    (m : IsolationForestModel F) (now : Int) :
    ∃ forest, sk.fit data = some forest ∧ m.train sk data now =
      ({ m with
          model := some (.fitted forest)
          version := m.version + 1
          trainedAt := some now
          sampleCount := data.length
          isFitted := true }, .ok (m.version + 1, now)) := by
  obtain ⟨hlen, hconv, hfit⟩ := h
  obtain ⟨forest, hforest⟩ := Option.isSome_iff_exists.1 hfit
  refine ⟨forest, hforest, ?_⟩
  rw [IsolationForestModel.train, if_neg (by omega), hconv, hforest]
  rfl

/-- A training of `a`, then `b` is asked for: if both use one file, `b` finds the model of `a`. -/
theorem not_isolated_of_modelPath_eq {sk : Sklearn V F R} (anomalyThreshold : R) {data : List V}
    (hdata : Trainable sk data) {a b : String} (hab : a ≠ b) (hpath : modelPath a = modelPath b) :
    ¬ Isolated sk anomalyThreshold a b [.train a data 0, .getMeta b] := by
  intro hrun
  obtain ⟨forest, -, htrain⟩ := train_of_trainable hdata (.create a) 0
  have hown := (trainModel_acts (ModelRegistry.empty : ModelRegistry F) a sk data 0).1.own
  have hcreate : ((ModelRegistry.empty : ModelRegistry F).cell a).modelFor a = .create a := rfl
  rw [Cell.train, hcreate, htrain] at hown
  -- The trained model is in the file of `a`, which is the file of `b`.
  have hdisk : ((ModelRegistry.empty : ModelRegistry F).trainModel sk a data 0).1.disk.find?
      (modelPath a) = some _ := congrArg Cell.disk hown
  rw [hpath] at hdisk
  have hfound : (((ModelRegistry.empty : ModelRegistry F).trainModel sk a data 0).1.getModelMeta
      b).2 ≠ none := by
    rw [ModelRegistry.getModelMeta, (getModel_acts _ b).2, Cell.loaded, ModelRegistry.cell, hdisk]
    simp
  have hba : b ≠ a := Ne.symm hab
  -- The one answer about `b` with the training of `a` and without it.
  have hanswer : (((ModelRegistry.empty : ModelRegistry F).trainModel sk a data 0).1.getModelMeta
      b).2 = ((ModelRegistry.empty : ModelRegistry F).getModelMeta b).2 := by
    simpa [Isolated, Op.names, Op.container, ModelRegistry.step, ModelRegistry.apply, hab, hba]
      using hrun
  exact hfound hanswer

/-- Two containers are isolated from each other, in every run, exactly when their files differ. -/
theorem isolated_iff (sk : Sklearn V F R) (anomalyThreshold : R) (hsk : ∃ data, Trainable sk data)
    (a b : String) (hab : a ≠ b) :
    (∀ ops, Isolated sk anomalyThreshold a b ops) ↔ modelPath a ≠ modelPath b := by
  constructor
  · intro h hpath
    obtain ⟨data, hdata⟩ := hsk
    exact not_isolated_of_modelPath_eq anomalyThreshold hdata hab hpath (h _)
  · intro hne ops
    exact record_without sk anomalyThreshold hne ⟨fun _ _ => rfl, rfl⟩ ops

/-! ## A forest that remembers its training data -/

/-- Vectors of one length are accepted, and the fitted forest is the training data. -/
def rememberingForest : Sklearn (List ℚ) (List (List ℚ)) ℚ where
  convertible := fun data => data.all fun v => decide (v.length = (data.headD []).length)
  fit := fun data => if data = [] then none else some data
  scoreSamples := fun _ _ => some (-1 / 2)

theorem trainable_replicate {n : Nat} (hn : 10 ≤ n) :
    Trainable rememberingForest (List.replicate n [0]) := by
  obtain ⟨m, rfl⟩ : ∃ m, n = m + 1 := ⟨n - 1, by omega⟩
  refine ⟨by simpa using hn, ?_, ?_⟩
  · simp [rememberingForest, List.replicate_succ]
  · simp [rememberingForest]

/-- The containers `a` and `b` are isolated. -/
theorem isolated_a_b :
    modelPath "a" ≠ modelPath "b" ∧
      ∀ ops, Isolated rememberingForest (-65 / 100) "a" "b" ops :=
  ⟨by decide, (isolated_iff rememberingForest (-65 / 100) ⟨_, trainable_replicate le_rfl⟩ "a" "b"
    (by decide)).2 (by decide)⟩

/-- The containers `prod/api` and `prod_api` are not. -/
theorem isolated_fails :
    ¬ Isolated rememberingForest (-65 / 100) "prod/api" "prod_api"
      [.train "prod/api" (List.replicate 10 [0]) 0, .getMeta "prod_api"] :=
  not_isolated_of_modelPath_eq (-65 / 100) (trainable_replicate le_rfl) (by decide) (by decide)

end DeepKernel.Ml
