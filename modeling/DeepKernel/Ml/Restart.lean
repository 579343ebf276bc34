import DeepKernel.Ml.Versions

/-!
# Restarts and the plain map of models

What the registry is for is a plain map from containers to models, which survives a restart. Run
without restarts, the dictionary is that map. After a restart the dictionary is empty and fills up
again with the models that are asked for. `delete_model` and `list_models` look at the dictionary
only, so they answer for the part of the map that was loaded again (`Visible`).
-/

set_option autoImplicit false

namespace DeepKernel.Ml

open DeepKernel.Lib

variable {V F R : Type} [Zero R] [LT R] [DecidableLT R]

/-! ## The plain map -/

section Plain

variable (sk : Sklearn V F R) (anomalyThreshold : R)

/-- One operation on a plain map of models, with its answer. -/
def plainApply (p : Table String (IsolationForestModel F)) :
    Op V → Table String (IsolationForestModel F) × Result R
  | .train c data now =>
      let trained := ((p.find? c).getD (.create c)).train sk data now
      (p.set c trained.1, .trained trained.2)
  | .score c v => (p, .scored (ModelRegistry.scoreFound sk anomalyThreshold v (p.find? c)))
  | .getMeta c => (p, .found ((p.find? c).map IsolationForestModel.toMeta))
  | .list => (p, .listed (p.entries.map fun e => e.2.toMeta))
  | .delete c => (p.erase c, .deleted (p.find? c).isSome)
  | .restart => (p, .restarted)

def plainStep (p : Table String (IsolationForestModel F)) (op : Op V) :
    Table String (IsolationForestModel F) × List (Op V × Result R) :=
  ((plainApply sk anomalyThreshold p op).1, [(op, (plainApply sk anomalyThreshold p op).2)])

/-- The plain map after some operations. -/
abbrev plainAfter (p : Table String (IsolationForestModel F)) (ops : List (Op V)) :
    Table String (IsolationForestModel F) :=
  finalState (plainStep sk anomalyThreshold) p ops

/-- The operations of a run of the plain map with their answers. -/
abbrev plainRecord (p : Table String (IsolationForestModel F)) (ops : List (Op V)) :
    List (Op V × Result R) :=
  outputs (plainStep sk anomalyThreshold) p ops

end Plain

/-! ## The registry against the plain map -/

/-- The files of the containers `C` hold the plain map, and the dictionary a part of it. -/
structure Stores (C : String → Prop) (r : ModelRegistry F)
    (p : Table String (IsolationForestModel F)) : Prop where
  disk : ∀ c, C c → r.disk.find? (modelPath c) = p.find? c
  memory : ∀ c m, r.models.find? c = some m → p.find? c = some m
  owner : ∀ c m, p.find? c = some m → m.containerId = c

/-- The operation can be answered from the dictionary: a model that is to be deleted is loaded, and
for a listing all models are, in the order of the plain map. -/
def Visible (r : ModelRegistry F) (p : Table String (IsolationForestModel F)) : Op V → Prop
  | .delete c => (p.find? c).isSome → (r.models.find? c).isSome
  | .list => r.models.entries.map Prod.fst = p.entries.map Prod.fst
  | _ => True

/-- The operation is a restart. -/
def Op.isRestart : Op V → Bool
  | .restart => true
  | _ => false

section Cells

variable {C : String → Prop} {r r' : ModelRegistry F}
  {p p' : Table String (IsolationForestModel F)} {c : String} {cell : Cell F}

/-- An operation on the cell of `c` keeps the relation if it does to the plain map what it does to
that cell. -/
theorem Stores.of_actsOn (h : Stores C r p)
    (hfiles : ∀ k, C k → modelPath k = modelPath c → k = c) (hacts : ActsOn c r r' cell)
    (hother : ∀ k, k ≠ c → p'.find? k = p.find? k) (hdisk : cell.disk = p'.find? c)
    (hmemory : ∀ m, cell.memory = some m → p'.find? c = some m)
    (howner : ∀ m, p'.find? c = some m → m.containerId = c) : Stores C r' p' where
  disk := fun k hk => by
    by_cases hkc : k = c
    · rw [hkc, ← hdisk]
      exact congrArg Cell.disk hacts.own
    · -- no other container of the kind has the file
      rw [hacts.disk _ fun hpath => hkc (hfiles k hk hpath), hother k hkc]
      exact h.disk k hk
  memory := fun k m hm => by
    by_cases hkc : k = c
    · subst hkc
      exact hmemory m ((congrArg Cell.memory hacts.own).symm.trans hm)
    · rw [hacts.models k hkc] at hm
      rw [hother k hkc]
      exact h.memory k m hm
  owner := fun k m hm => by
    by_cases hkc : k = c
    · subst hkc
      exact howner m hm
    · rw [hother k hkc] at hm
      exact h.owner k m hm

theorem Stores.loaded_eq (h : Stores C r p) (hc : C c) : (r.cell c).loaded.memory = p.find? c := by
  rw [Cell.loaded, ModelRegistry.cell, h.disk c hc]
  cases hm : r.models.find? c with
  | none => rfl
  | some m => exact (h.memory c m hm).symm

theorem Stores.modelFor_eq (h : Stores C r p) (hc : C c) :
    (r.cell c).modelFor c = (p.find? c).getD (.create c) := by
  rw [← h.loaded_eq hc, Cell.loaded, Cell.modelFor]
  cases (r.cell c).memory with
  | none => rfl
  | some m => rfl

theorem Stores.getModel (h : Stores C r p) (hc : C c)
    (hfiles : ∀ k, C k → modelPath k = modelPath c → k = c) :
    Stores C (r.getModel c).1 p ∧ (r.getModel c).2 = p.find? c := by
  obtain ⟨hacts, hmodel⟩ := getModel_acts r c
  rw [h.loaded_eq hc] at hmodel
  refine ⟨h.of_actsOn hfiles hacts (fun _ _ => rfl) (h.disk c hc) (fun m hm => ?_) (h.owner c),
    hmodel⟩
  rw [h.loaded_eq hc] at hm
  exact hm

theorem Stores.restart (h : Stores C r p) : Stores C r.restart p :=
  ⟨h.disk, fun _ _ hm => (nomatch hm), h.owner⟩

/-- All models are in the dictionary, in order, if their containers are. -/
theorem Stores.models_eq (h : Stores C r p)
    (hkeys : r.models.entries.map Prod.fst = p.entries.map Prod.fst) : r.models = p :=
  Table.eq_of_keys hkeys h.memory

/-- A listing shows the models of the plain map exactly when the dictionary has all of them in
order. -/
theorem Stores.listModels_eq_iff (h : Stores C r p) :
    (r.listModels = p.entries.map fun e => e.2.toMeta) ↔
      r.models.entries.map Prod.fst = p.entries.map Prod.fst := by
  -- The containers in a listing are the keys of the entries, since each model knows its own.
  have howner : ∀ t : Table String (IsolationForestModel F),
      (∀ c m, t.find? c = some m → p.find? c = some m) →
        (t.entries.map fun e => e.2.toMeta).map ModelMeta.containerId =
          t.entries.map Prod.fst := by
    intro t ht
    rw [List.map_map]
    refine List.map_congr_left fun e he => ?_
    exact h.owner e.1 e.2 (ht e.1 e.2 ((t.mem_entries_iff e.1 e.2).1 he))
  constructor
  · intro hlist
    rw [← howner r.models h.memory, ← howner p fun _ _ hm => hm, ← hlist]
    rfl
  · intro hkeys
    rw [ModelRegistry.listModels, h.models_eq hkeys]

end Cells

/-! ## One operation -/

section Steps

variable {sk : Sklearn V F R} (anomalyThreshold : R) {C : String → Prop} {r : ModelRegistry F}
  {p : Table String (IsolationForestModel F)}

omit [Zero R] [LT R] [DecidableLT R] in
theorem Stores.trainModel (h : Stores C r p) {c : String} (hc : C c)
    (hfiles : ∀ k, C k → modelPath k = modelPath c → k = c) {data : List V}
    (hdata : Trainable sk data) (now : Int) :
    Stores C (r.trainModel sk c data now).1
        (p.set c (((p.find? c).getD (.create c)).train sk data now).1) ∧
      (r.trainModel sk c data now).2 = (((p.find? c).getD (.create c)).train sk data now).2 := by
  obtain ⟨hacts, hresult⟩ := trainModel_acts r c sk data now
  have howner : ((p.find? c).getD (.create c)).containerId = c := by
    cases hm : p.find? c with
    | none => rfl
    | some m => exact h.owner c m hm
  obtain ⟨forest, -, htrain⟩ := train_of_trainable hdata ((p.find? c).getD (.create c)) now
  rw [Cell.train, h.modelFor_eq hc, htrain] at hacts hresult
  rw [htrain]
  refine ⟨h.of_actsOn hfiles hacts (fun k hk => Table.find?_set_of_ne _ _ hk) ?_ (fun m hm => ?_)
    (fun m hm => ?_), hresult⟩
  · rw [Table.find?_set_self]
  · rw [Table.find?_set_self]
    exact hm
  · rw [Table.find?_set_self] at hm
    rw [← Option.some.inj hm]
    exact howner

omit [Zero R] [LT R] [DecidableLT R] in
theorem Stores.deleteModel (h : Stores C r p) {c : String}
    (hfiles : ∀ k, C k → modelPath k = modelPath c → k = c) (hc : C c)
    (hvisible : (p.find? c).isSome → (r.models.find? c).isSome) :
    Stores C (r.deleteModel c).1 (p.erase c) ∧ (r.deleteModel c).2 = (p.find? c).isSome := by
  obtain ⟨hacts, hresult⟩ := deleteModel_acts r c
  have hother : ∀ k, k ≠ c → (p.erase c).find? k = p.find? k := fun k hk => by
    rw [Table.find?_erase, if_neg hk]
  have hself : (p.erase c).find? c = none := by rw [Table.find?_erase, if_pos rfl]
  rw [Cell.delete] at hacts hresult
  cases hp : p.find? c with
  | some m =>
      have hmem : (r.cell c).memory.isSome = true := hvisible (by rw [hp]; rfl)
      rw [if_pos hmem] at hacts hresult
      refine ⟨h.of_actsOn hfiles hacts hother hself.symm (fun m hm => by cases hm) fun m hm => ?_,
        hresult⟩
      rw [hself] at hm
      cases hm
  | none =>
      -- There is nothing to delete, in the dictionary or in the file.
      have hmem : (r.cell c).memory = none := by
        cases hm : (r.cell c).memory with
        | none => rfl
        | some m => exact absurd (hp.symm.trans (h.memory c m hm)) (by simp)
      rw [hmem, if_neg (by simp)] at hacts hresult
      refine ⟨h.of_actsOn hfiles hacts hother ?_ (fun m hm => ?_) fun m hm => ?_, hresult⟩
      · rw [hself, ← hp]
        exact h.disk c hc
      · rw [hmem] at hm
        cases hm
      · rw [hself] at hm
        cases hm

/-- An operation whose models are visible answers as the plain map does and keeps the relation. -/
theorem Stores.apply (h : Stores C r p)
    (hfiles : ∀ a b, C a → C b → modelPath a = modelPath b → a = b) {op : Op V}
    (hop : ∀ c, op.container = some c → C c)
    (htrain : ∀ c data now, op = .train c data now → Trainable sk data)
    (hvisible : Visible r p op) :
    Stores C (r.apply sk anomalyThreshold op).1 (plainApply sk anomalyThreshold p op).1 ∧
      (r.apply sk anomalyThreshold op).2 = (plainApply sk anomalyThreshold p op).2 := by
  cases op with
  | train c data now =>
      have hc := hop c rfl
      obtain ⟨hnext, hresult⟩ := h.trainModel hc (fun k hk => hfiles k c hk hc)
        (htrain c data now rfl) now
      exact ⟨hnext, congrArg Result.trained hresult⟩
  | score c v =>
      have hc := hop c rfl
      obtain ⟨hnext, hmodel⟩ := h.getModel hc (fun k hk => hfiles k c hk hc)
      refine ⟨hnext, ?_⟩
      rw [ModelRegistry.apply, ModelRegistry.score, hmodel]
      rfl
  | getMeta c =>
      have hc := hop c rfl
      obtain ⟨hnext, hmodel⟩ := h.getModel hc (fun k hk => hfiles k c hk hc)
      refine ⟨hnext, ?_⟩
      rw [ModelRegistry.apply, ModelRegistry.getModelMeta, hmodel]
      rfl
  | list => exact ⟨h, congrArg Result.listed (h.listModels_eq_iff.2 hvisible)⟩
  | delete c =>
      have hc := hop c rfl
      obtain ⟨hnext, hresult⟩ := h.deleteModel (fun k hk => hfiles k c hk hc) hc hvisible
      exact ⟨hnext, congrArg Result.deleted hresult⟩
  | restart => exact ⟨h.restart, rfl⟩

/-- An operation that answers as the plain map does found its models in the dictionary. -/
theorem Stores.visible_of_answer (h : Stores C r p) {op : Op V}
    (hanswer : (r.apply sk anomalyThreshold op).2 = (plainApply sk anomalyThreshold p op).2) :
    Visible r p op := by
  cases op with
  | train c data now => trivial
  | score c v => trivial
  | getMeta c => trivial
  | list => exact h.listModels_eq_iff.1 (Result.listed.inj hanswer)
  | delete c =>
      -- The plain map answers true, so the registry does, and it does so for a loaded model only.
      intro hsome
      have hdeleted : (r.deleteModel c).2 = (p.find? c).isSome := Result.deleted.inj hanswer
      rw [hsome, (deleteModel_acts r c).2, Cell.delete] at hdeleted
      by_contra hmem
      have hcell : ¬ (r.cell c).memory.isSome = true := hmem
      rw [if_neg hcell] at hdeleted
      cases hdeleted
  | restart => trivial

end Steps

/-! ## Without restarts the dictionary is the plain map -/

omit [Zero R] [LT R] [DecidableLT R] in
theorem trainModel_models (sk : Sklearn V F R) (r : ModelRegistry F) (c : String) (data : List V)
    (now : Int) :
    (r.trainModel sk c data now).1.models =
      r.models.set c (((r.cell c).modelFor c).train sk data now).1 := by
  have hmodel := (getOrCreateModel_acts r c).2
  have hmodels : ∀ m, (r.getOrCreateModel c).1.models.set c m = r.models.set c m := by
    intro m
    rw [ModelRegistry.getOrCreateModel]
    cases r.models.find? c with
    | some m' => rfl
    | none => exact Table.set_set r.models c _ m
  rw [ModelRegistry.trainModel, hmodel]
  simp only
  cases (((r.cell c).modelFor c).train sk data now).2 with
  | ok result => exact hmodels _
  | error e => exact hmodels _

section Loaded

variable (sk : Sklearn V F R) (anomalyThreshold : R) {C : String → Prop} {r : ModelRegistry F}
  {p : Table String (IsolationForestModel F)}

omit [Zero R] [LT R] [DecidableLT R] in
theorem Stores.getModel_models (h : Stores C r p) (hmodels : r.models = p) {c : String}
    (hc : C c) : (r.getModel c).1.models = p := by
  have hdisk : r.loadFromDisk c = p.find? c := h.disk c hc
  rw [ModelRegistry.getModel, hdisk, hmodels]
  cases p.find? c with
  | some m => exact hmodels
  | none => exact hmodels

theorem Stores.apply_models (h : Stores C r p) (hmodels : r.models = p) {op : Op V}
    (hop : ∀ c, op.container = some c → C c) (hrestart : op.isRestart = false) :
    (r.apply sk anomalyThreshold op).1.models = (plainApply sk anomalyThreshold p op).1 := by
  cases op with
  | train c data now =>
      rw [ModelRegistry.apply, trainModel_models, h.modelFor_eq (hop c rfl), hmodels]
      rfl
  | score c v => exact h.getModel_models hmodels (hop c rfl)
  | getMeta c => exact h.getModel_models hmodels (hop c rfl)
  | list => exact hmodels
  | delete c =>
      rw [ModelRegistry.apply, ModelRegistry.deleteModel, plainApply, hmodels]
      cases hp : p.find? c with
      | some m => rfl
      | none => exact hmodels.trans (p.erase_of_find?_eq_none hp).symm
  | restart => cases hrestart

omit [Zero R] [LT R] [DecidableLT R] in
theorem visible_of_models_eq (hmodels : r.models = p) (op : Op V) : Visible r p op := by
  subst hmodels
  cases op with
  | delete c => exact id
  | list => rfl
  | _ => trivial

end Loaded

/-! ## Runs -/

/-- The trainings of a run make models. -/
def TrainingsSucceed (sk : Sklearn V F R) (ops : List (Op V)) : Prop :=
  ∀ c data now, .train c data now ∈ ops → Trainable sk data

omit [Zero R] [LT R] [DecidableLT R] in
theorem trainingsSucceed_cons {sk : Sklearn V F R} {op : Op V} {ops : List (Op V)} :
    TrainingsSucceed sk (op :: ops) ↔
      (∀ c data now, op = .train c data now → Trainable sk data) ∧ TrainingsSucceed sk ops := by
  constructor
  · intro h
    constructor
    · rintro c data now rfl
      exact h c data now List.mem_cons_self
    · intro c data now hmem
      exact h c data now (List.mem_cons_of_mem op hmem)
  · rintro ⟨hop, hops⟩ c data now hmem
    rcases List.mem_cons.1 hmem with rfl | hmem
    · exact hop c data now rfl
    · exact hops c data now hmem

section Runs

variable {sk : Sklearn V F R} (anomalyThreshold : R) {C : String → Prop}
  (hfiles : ∀ a b, C a → C b → modelPath a = modelPath b → a = b)
include hfiles

/-- A run with restarts answers as the plain map does exactly when the models of each of its
operations are visible. -/
theorem Stores.answers_eq_plain_iff {r : ModelRegistry F}
    {p : Table String (IsolationForestModel F)} (h : Stores C r p) {ops : List (Op V)}
    (hops : ∀ c, NamedIn ops c → C c) (htrain : TrainingsSucceed sk ops) :
    (record sk anomalyThreshold r ops).filter (fun e => !e.1.isRestart) =
        plainRecord sk anomalyThreshold p (ops.filter fun op => !op.isRestart) ↔
      ∀ pre op, pre ++ [op] <+: ops →
        Visible (registryAfter sk anomalyThreshold r pre) (plainAfter sk anomalyThreshold p pre)
          op := by
  induction ops generalizing r p with
  | nil => exact ⟨fun _ pre op hpre => by simp at hpre, fun _ => rfl⟩
  | cons op ops ih =>
      simp only [namedIn_cons, or_imp, forall_and] at hops
      obtain ⟨hop, hops⟩ := hops
      obtain ⟨hdata, hlater⟩ := trainingsSucceed_cons.1 htrain
      rw [forall_concat_prefix_cons, record, outputs_cons, List.filter_append]
      cases hrestart : op.isRestart with
      | true =>
          -- A restart is not among the answers and leaves the plain map as it is.
          obtain rfl : op = .restart := by
            cases op with
            | restart => rfl
            | _ => cases hrestart
          rw [List.filter_cons_of_neg (by simp [Op.isRestart])]
          refine (ih h.restart hops hlater).trans ?_
          exact ⟨fun hrest => ⟨trivial, hrest⟩, And.right⟩
      | false =>
          -- Both runs answer; the answers agree exactly when the operation is visible.
          rw [List.filter_cons_of_pos (by simp [hrestart]), plainRecord, outputs_cons]
          have hkeep : (ModelRegistry.step sk anomalyThreshold r op).2.filter
              (fun e => !e.1.isRestart) = [(op, (r.apply sk anomalyThreshold op).2)] := by
            simp [ModelRegistry.step, hrestart]
          rw [hkeep, plainStep, List.singleton_append, List.singleton_append, List.cons.injEq,
            Prod.mk.injEq]
          constructor
          · rintro ⟨⟨-, hanswer⟩, hrest⟩
            have hvisible := h.visible_of_answer anomalyThreshold hanswer
            obtain ⟨hnext, -⟩ := h.apply anomalyThreshold hfiles hop hdata hvisible
            exact ⟨hvisible, (ih hnext hops hlater).1 hrest⟩
          · rintro ⟨hvisible, hrest⟩
            obtain ⟨hnext, hanswer⟩ := h.apply anomalyThreshold hfiles hop hdata hvisible
            exact ⟨⟨rfl, hanswer⟩, (ih hnext hops hlater).2 hrest⟩

/-- A run without restarts answers as the plain map does. -/
theorem Stores.record_eq_plain {r : ModelRegistry F} {p : Table String (IsolationForestModel F)}
    (h : Stores C r p) (hmodels : r.models = p) {ops : List (Op V)}
    (hops : ∀ c, NamedIn ops c → C c) (htrain : TrainingsSucceed sk ops)
    (hrestart : ∀ op ∈ ops, op.isRestart = false) :
    record sk anomalyThreshold r ops = plainRecord sk anomalyThreshold p ops := by
  induction ops generalizing r p with
  | nil => rfl
  | cons op ops ih =>
      simp only [namedIn_cons, or_imp, forall_and] at hops
      obtain ⟨hop, hops⟩ := hops
      obtain ⟨hdata, hlater⟩ := trainingsSucceed_cons.1 htrain
      obtain ⟨hnow, hrestart⟩ := List.forall_mem_cons.1 hrestart
      obtain ⟨hnext, hanswer⟩ := h.apply anomalyThreshold hfiles hop hdata
        (visible_of_models_eq hmodels op)
      have hmodels' := h.apply_models sk anomalyThreshold hmodels hop hnow
      rw [record, plainRecord, outputs_cons, outputs_cons, ModelRegistry.step, plainStep, hanswer]
      exact congrArg (_ :: ·) (ih hnext hmodels' hops hlater hrestart)

end Runs

theorem Stores.empty (C : String → Prop) :
    Stores C (ModelRegistry.empty : ModelRegistry F) Table.empty :=
  ⟨fun _ _ => rfl, fun _ _ hm => (nomatch hm), fun _ _ hm => nomatch hm⟩

/-- Restarts are not noticed: the answers are those of the run without restarts, which are those of
a plain map. So a deletion answers whether there is a model, there is none after it, and a listing
shows all containers with a model. -/
structure RestartTransparent (sk : Sklearn V F R) (anomalyThreshold : R) (ops : List (Op V)) :
    Prop where
  unchanged : (record sk anomalyThreshold .empty ops).filter (fun e => !e.1.isRestart) =
    record sk anomalyThreshold .empty (ops.filter fun op => !op.isRestart)
  plain : (record sk anomalyThreshold .empty ops).filter (fun e => !e.1.isRestart) =
    plainRecord sk anomalyThreshold Table.empty (ops.filter fun op => !op.isRestart)

/-- Restarts are not noticed exactly when every deletion and every listing finds in the dictionary
the models it is about. -/
theorem restart_transparent_iff (sk : Sklearn V F R) (anomalyThreshold : R) (ops : List (Op V))
    (hfiles : DistinctFiles ops) (htrain : TrainingsSucceed sk ops) :
    RestartTransparent sk anomalyThreshold ops ↔
      ∀ pre op, pre ++ [op] <+: ops →
        Visible (registryAfter sk anomalyThreshold .empty pre)
          (plainAfter sk anomalyThreshold Table.empty pre) op := by
  have hiff := (Stores.empty (NamedIn ops)).answers_eq_plain_iff anomalyThreshold hfiles
    (fun _ hc => hc) htrain
  have hplain : record sk anomalyThreshold .empty (ops.filter fun op => !op.isRestart) =
      plainRecord sk anomalyThreshold Table.empty (ops.filter fun op => !op.isRestart) := by
    apply (Stores.empty (NamedIn ops)).record_eq_plain anomalyThreshold hfiles rfl
    · exact fun c ⟨op, hmem, hc⟩ => ⟨op, (List.mem_filter.1 hmem).1, hc⟩
    · exact fun c data now hmem => htrain c data now (List.mem_filter.1 hmem).1
    · exact fun op hmem => by simpa using (List.mem_filter.1 hmem).2
  refine Iff.trans ?_ hiff
  exact ⟨RestartTransparent.plain, fun h => ⟨h.trans hplain.symm, h⟩⟩

/-- A model that was asked for after the restart is deleted. -/
def reloading : List (Op (List ℚ)) :=
  [.train "a" (List.replicate 10 [0]) 0, .restart, .getMeta "a", .list, .delete "a"]

theorem namedIn_reloading {c : String} (h : NamedIn reloading c) : c = "a" := by
  obtain ⟨op, hop, hc⟩ := h
  simp only [reloading, List.mem_cons, List.not_mem_nil, or_false] at hop
  rcases hop with rfl | rfl | rfl | rfl | rfl <;> cases hc <;> rfl

theorem trainingsSucceed_reloading : TrainingsSucceed rememberingForest reloading := by
  intro c data now hmem
  simp only [reloading, List.mem_cons, List.not_mem_nil, or_false, Op.train.injEq,
    reduceCtorEq] at hmem
  obtain ⟨-, rfl, -⟩ := hmem
  exact trainable_replicate le_rfl

theorem restart_transparent_reloading :
    RestartTransparent rememberingForest (-65 / 100) reloading := by
  refine (restart_transparent_iff rememberingForest (-65 / 100) reloading ?_
    trainingsSucceed_reloading).2 ?_
  · intro a b ha hb _
    rw [namedIn_reloading ha, namedIn_reloading hb]
  · refine forall_concat_prefix_cons.2 ⟨trivial, ?_⟩
    refine forall_concat_prefix_cons.2 ⟨trivial, ?_⟩
    refine forall_concat_prefix_cons.2 ⟨trivial, ?_⟩
    refine forall_concat_prefix_cons.2 ⟨?_, ?_⟩
    · rw [Visible]
      decide
    · refine forall_concat_prefix_cons.2 ⟨?_, fun pre op hpre => by simp at hpre⟩
      rw [Visible]
      decide

/-- The answer of a deletion. -/
def Result.deleted? : Result R → Option Bool
  | .deleted answer => some answer
  | _ => none

/-- A model is trained, and deleted right after a restart. -/
def forgetting : List (Op (List ℚ)) :=
  [.train "a" (List.replicate 10 [0]) 0, .restart, .delete "a"]

/-- The deletion answers that there is no such model, and the model stays. -/
theorem restart_not_transparent_forgetting :
    ¬ RestartTransparent rememberingForest (-65 / 100) forgetting := by
  intro h
  have hanswers := congrArg (List.map fun e => e.2.deleted?) h.unchanged
  revert hanswers
  decide

end DeepKernel.Ml
