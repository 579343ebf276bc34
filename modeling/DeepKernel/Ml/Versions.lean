import DeepKernel.Ml.Isolation

/-!
# Versions count trainings

The version of a model is kept in two places, in the dictionary and in the file, and a restart
forgets the first. The record of a run says how many trainings of a container are to be counted
(`liveTrainings`). `Counted` relates both copies to that number: a trained model is always on disk,
and the dictionary has it or nothing; without one, the dictionary may hold an untrained model.
-/

set_option autoImplicit false

namespace DeepKernel.Ml

open DeepKernel.Lib

variable {V F R : Type}

/-! ## The count of a history -/

/-- One answered operation changes the number of trainings of `c`. -/
def countTraining (c : String) (n : Nat) : Op V × Result R → Nat
  | (.train k _ _, .trained (.ok _)) => if k = c then n + 1 else n
  | (.delete k, .deleted true) => if k = c then 0 else n
  | _ => n

/-- The successful trainings of `c` since the last deletion of `c` that answered true. -/
def liveTrainings (c : String) (history : List (Op V × Result R)) : Nat :=
  history.foldl (countTraining c) 0

theorem countTraining_of_ne {c : String} {n : Nat} {op : Op V} (res : Result R)
    (hop : op.container ≠ some c) : countTraining c n (op, res) = n := by
  have hne : ∀ k, op.container = some k → k ≠ c := fun k hk hkc => hop (hk.trans (hkc ▸ rfl))
  cases op with
  | train k data now =>
      rcases res with ⟨e | e⟩ | _ | _ | _ | _ | _ <;>
        first | exact if_neg (hne k rfl) | rfl
  | delete k =>
      rcases res with _ | _ | _ | _ | ⟨_ | _⟩ | _ <;>
        first | exact if_neg (hne k rfl) | rfl
  | score k v => rfl
  | getMeta k => rfl
  | list => rfl
  | restart => rfl

theorem liveTrainings_concat (c : String) (history : List (Op V × Result R))
    (e : Op V × Result R) :
    liveTrainings c (history ++ [e]) = countTraining c (liveTrainings c history) e := by
  rw [liveTrainings, List.foldl_concat]
  rfl

/-! ## The two copies of a model -/

/-- The copies of a model after `n` trainings. -/
inductive Counted : Cell F → Nat → Prop
  | untrained {memory : Option (IsolationForestModel F)}
      (h : ∀ m, memory = some m → m.version = 0 ∧ m.isFitted = false) : Counted ⟨memory, none⟩ 0
  | trained {memory : Option (IsolationForestModel F)} {m : IsolationForestModel F}
      (hversion : 0 < m.version) (hfitted : m.isFitted = true)
      (h : memory = none ∨ memory = some m) : Counted ⟨memory, some m⟩ m.version

theorem Counted.modelFor {cell : Cell F} {n : Nat} (h : Counted cell n) (c : String) :
    (cell.modelFor c).version = n := by
  cases h with
  | @untrained memory h =>
      cases memory with
      | none => rfl
      | some m => exact (h m rfl).1
  | trained hversion hfitted h =>
      rcases h with rfl | rfl
      · rfl
      · rfl

theorem Counted.loaded {cell : Cell F} {n : Nat} (h : Counted cell n) : Counted cell.loaded n := by
  cases h with
  | @untrained memory h =>
      cases memory with
      | none => exact .untrained h
      | some m => exact .untrained h
  | trained hversion hfitted h =>
      rcases h with rfl | rfl
      · exact .trained hversion hfitted (Or.inr rfl)
      · exact .trained hversion hfitted (Or.inr rfl)

theorem Counted.restart {cell : Cell F} {n : Nat} (h : Counted cell n) :
    Counted (F := F) ⟨none, cell.disk⟩ n := by
  cases h with
  | untrained h => exact .untrained fun m hm => nomatch hm
  | trained hversion hfitted h => exact .trained hversion hfitted (Or.inl rfl)

theorem Counted.delete {cell : Cell F} {n : Nat} (h : Counted cell n) :
    Counted cell.delete.1 (if cell.delete.2 then 0 else n) := by
  rw [Cell.delete]
  cases hm : cell.memory.isSome with
  | true => exact .untrained fun m hm => by cases hm
  | false => exact h

/-- After a training the model that `get_model` finds. -/
theorem Counted.ready {cell : Cell F} {n : Nat} (h : Counted cell n) (hn : 0 < n) :
    ∃ m, cell.loaded.memory = some m ∧ m.version = n ∧ m.isFitted = true := by
  cases h with
  | untrained h => exact absurd hn (Nat.lt_irrefl 0)
  | @trained memory m hversion hfitted h =>
      refine ⟨m, ?_, rfl, hfitted⟩
      rcases h with rfl | rfl
      · rfl
      · rfl

section Training

/-- Fits succeed on the data they are called with. -/
def FitsSucceed (sk : Sklearn V F R) : Prop :=
  ∀ data, 10 ≤ data.length → sk.convertible data = true → (sk.fit data).isSome

variable (sk : Sklearn V F R) (hfit : FitsSucceed sk)
include hfit

/-- When no fit fails, a training either leaves the model alone or makes the next version of it. -/
theorem train_cases (m : IsolationForestModel F) (data : List V) (now : Int) :
    (∃ e, m.train sk data now = (m, .error e)) ∨
      ∃ m', m.train sk data now = (m', .ok (m.version + 1, now)) ∧
        m'.version = m.version + 1 ∧ m'.isFitted = true := by
  by_cases hlen : data.length < 10
  · exact Or.inl ⟨_, if_pos hlen⟩
  · cases hconv : sk.convertible data with
    | false =>
        refine Or.inl ⟨.conversion, ?_⟩
        rw [IsolationForestModel.train, if_neg hlen, hconv]
        rfl
    | true =>
        -- Nothing is left that can fail.
        have htrainable : Trainable sk data :=
          ⟨by omega, hconv, hfit data (by omega) hconv⟩
        obtain ⟨forest, -, htrain⟩ := train_of_trainable htrainable m now
        exact Or.inr ⟨_, htrain, rfl, rfl⟩

/-- A training answers the next version or leaves the number as it is. -/
theorem Counted.train {cell : Cell F} {n : Nat} (h : Counted cell n) (c : String) (data : List V)
    (now : Int) :
    (∃ e, (cell.train sk c data now).2 = .error e ∧ Counted (cell.train sk c data now).1 n) ∨
      ((cell.train sk c data now).2 = .ok (n + 1, now) ∧
        Counted (cell.train sk c data now).1 (n + 1)) := by
  have hversion := h.modelFor c
  rw [Cell.train]
  rcases train_cases sk hfit (cell.modelFor c) data now with ⟨e, htrain⟩ | ⟨m', htrain, hm', hf⟩
  · rw [htrain]
    refine Or.inl ⟨e, rfl, ?_⟩
    -- The model that was found is in the dictionary now.
    cases h with
    | @untrained memory h =>
        refine .untrained fun m hm => ?_
        obtain rfl := Option.some.inj hm
        cases memory with
        | none => exact ⟨rfl, rfl⟩
        | some m => exact h m rfl
    | trained hpos hfitted h =>
        refine .trained hpos hfitted (Or.inr ?_)
        rcases h with rfl | rfl
        · rfl
        · rfl
  · rw [htrain]
    rw [hversion] at hm' ⊢
    have hpos : 0 < m'.version := by omega
    refine Or.inr ⟨rfl, ?_⟩
    rw [← hm']
    exact .trained hpos hf (Or.inr rfl)

end Training

/-! ## Runs -/

/-- Some operation names the container. -/
def NamedIn (ops : List (Op V)) (c : String) : Prop := ∃ op ∈ ops, op.container = some c

theorem namedIn_cons {op : Op V} {ops : List (Op V)} {c : String} :
    NamedIn (op :: ops) c ↔ op.container = some c ∨ NamedIn ops c := by
  simp [NamedIn]

/-- The containers named in a run have different files. -/
def DistinctFiles (ops : List (Op V)) : Prop :=
  ∀ a b, NamedIn ops a → NamedIn ops b → modelPath a = modelPath b → a = b

theorem ActsOn.cell_of_ne {c k : String} {r r' : ModelRegistry F} {cell : Cell F}
    (h : ActsOn c r r' cell) (hne : modelPath k ≠ modelPath c) : r'.cell k = r.cell k := by
  have hkc : k ≠ c := fun hkc => hne (hkc ▸ rfl)
  rw [ModelRegistry.cell, ModelRegistry.cell, h.models k hkc, h.disk _ hne]

/-- The answers of a run about versions: every successful training answers one more than the
trainings before it, and as long as there are some, the metadata show their number and READY. -/
structure VersionsCounted (history : List (Op V × Result R)) : Prop where
  train : ∀ pre c data now version trainedAt,
    pre ++ [(.train c data now, .trained (.ok (version, trainedAt)))] <+: history →
      version = 1 + liveTrainings c pre
  meta_ready : ∀ pre c found, pre ++ [(.getMeta c, .found found)] <+: history →
    0 < liveTrainings c pre →
      ∃ found', found = some found' ∧ found'.version = liveTrainings c pre ∧
        found'.status = .ready

section Runs

variable [Zero R] [LT R] [DecidableLT R] {sk : Sklearn V F R} (hfit : FitsSucceed sk)
  (anomalyThreshold : R)
include hfit

/-- An operation that names the container and its answer change the number as its cell. -/
theorem Counted.apply_own {r : ModelRegistry F} {c : String} {n : Nat} (h : Counted (r.cell c) n)
    {op : Op V} (hop : op.container = some c) :
    Counted ((r.apply sk anomalyThreshold op).1.cell c)
      (countTraining c n (op, (r.apply sk anomalyThreshold op).2)) := by
  cases op with
  | train k data now =>
      obtain rfl : k = c := Option.some.inj hop
      obtain ⟨hacts, hresult⟩ := trainModel_acts r k sk data now
      rw [ModelRegistry.apply, hacts.own, hresult]
      -- a training that fails keeps the number, one that succeeds adds one
      rcases h.train sk hfit k data now with ⟨e, hanswer, hnext⟩ | ⟨hanswer, hnext⟩
      · rw [hanswer]
        exact hnext
      · rw [hanswer, countTraining, if_pos rfl]
        exact hnext
  | score k v =>
      obtain rfl : k = c := Option.some.inj hop
      rw [ModelRegistry.apply, ModelRegistry.score, (getModel_acts r k).1.own]
      exact h.loaded
  | getMeta k =>
      obtain rfl : k = c := Option.some.inj hop
      rw [ModelRegistry.apply, ModelRegistry.getModelMeta, (getModel_acts r k).1.own]
      exact h.loaded
  | list => cases hop
  | delete k =>
      obtain rfl : k = c := Option.some.inj hop
      obtain ⟨hacts, hresult⟩ := deleteModel_acts r k
      have hnext := h.delete
      rw [ModelRegistry.apply, hacts.own, hresult]
      -- a delete that finds something starts again at zero
      cases hanswer : (r.cell k).delete.2 with
      | true =>
          rw [hanswer] at hnext
          rw [countTraining, if_pos rfl]
          exact hnext
      | false =>
          rw [hanswer] at hnext
          exact hnext
  | restart => cases hop

/-- An operation and its answer change the number as the cell, whatever container they name. -/
theorem Counted.apply {r : ModelRegistry F} {c : String} {n : Nat} (h : Counted (r.cell c) n)
    {op : Op V} (hop : ∀ k, op.container = some k → k ≠ c → modelPath k ≠ modelPath c) :
    Counted ((r.apply sk anomalyThreshold op).1.cell c)
      (countTraining c n (op, (r.apply sk anomalyThreshold op).2)) := by
  by_cases hc : op.container = some c
  · exact h.apply_own hfit anomalyThreshold hc
  · rw [countTraining_of_ne _ hc]
    cases hk : op.container with
    | some k =>
        -- Another container has another file, so neither copy is touched.
        obtain ⟨f, hf⟩ := apply_acts (F := F) sk anomalyThreshold hk
        have hne := hop k hk fun hkc => hc (hk.trans (hkc ▸ rfl))
        rw [(hf r).1.cell_of_ne (Ne.symm hne)]
        exact h
    | none =>
        cases op with
        | list => exact h
        | restart => exact h.restart
        | train k data now => cases hk
        | score k v => cases hk
        | getMeta k => cases hk
        | delete k => cases hk

/-- In every run the copies of a model stand for its live trainings. -/
theorem counted_registryAfter {ops : List (Op V)} (hfiles : DistinctFiles ops) {c : String}
    (hc : NamedIn ops c) {pre : List (Op V)} (hpre : pre <+: ops) :
    Counted ((registryAfter sk anomalyThreshold .empty pre).cell c)
      (liveTrainings c (record sk anomalyThreshold .empty pre)) := by
  induction pre using List.reverseRecOn with
  | nil => exact .untrained fun m hm => nomatch hm
  | append_singleton pre op ih =>
      have hnow := ih ((List.prefix_append pre [op]).trans hpre)
      have hop : op ∈ ops := hpre.subset (List.mem_append_right _ List.mem_cons_self)
      rw [registryAfter, record, finalState_concat, outputs_concat, ModelRegistry.step,
        liveTrainings_concat]
      refine hnow.apply hfit anomalyThreshold fun k hk hkc hpath => ?_
      exact hkc (hfiles k c ⟨op, hop, hk⟩ hc hpath)

omit hfit in
/-- An entry of the record is an operation with what the registry answers at that point. -/
theorem exists_of_concat_prefix_record {ops : List (Op V)} {pre : List (Op V × Result R)}
    {op : Op V} {res : Result R}
    (h : pre ++ [(op, res)] <+: record sk anomalyThreshold .empty ops) :
    ∃ before, before ++ [op] <+: ops ∧ pre = record sk anomalyThreshold .empty before ∧
      ((registryAfter sk anomalyThreshold .empty before).apply sk anomalyThreshold op).2 = res := by
  obtain ⟨before, op', hinit, hpre, hlast⟩ :=
    exists_of_concat_prefix_outputs (fun r op => ⟨_, rfl⟩) h
  rw [ModelRegistry.step] at hlast
  obtain ⟨rfl, hres⟩ := Prod.mk.inj (List.cons.inj hlast).1
  exact ⟨before, hinit, hpre, hres⟩

/-- Where the record has an operation on `c`, the copies of its model stand for the trainings
recorded before. -/
theorem exists_counted_of_concat_prefix {ops : List (Op V)} (hfiles : DistinctFiles ops)
    {pre : List (Op V × Result R)} {op : Op V} {res : Result R} {c : String}
    (hop : op.container = some c)
    (h : pre ++ [(op, res)] <+: record sk anomalyThreshold .empty ops) :
    ∃ r : ModelRegistry F, Counted (r.cell c) (liveTrainings c pre) ∧
      (r.apply sk anomalyThreshold op).2 = res := by
  obtain ⟨before, hinit, rfl, hres⟩ := exists_of_concat_prefix_record anomalyThreshold h
  have hnamed : NamedIn ops c :=
    ⟨op, hinit.subset (List.mem_append_right _ List.mem_cons_self), hop⟩
  have hbefore : before <+: ops := (List.prefix_append before _).trans hinit
  exact ⟨_, counted_registryAfter hfit anomalyThreshold hfiles hnamed hbefore, hres⟩

/-- In every run over containers with different files, with restarts at any point and trainings that
may be rejected, versions count trainings. -/
theorem versions_count_trainings {ops : List (Op V)} (hfiles : DistinctFiles ops) :
    VersionsCounted (record sk anomalyThreshold .empty ops) where
  train := by
    intro pre c data now version trainedAt h
    obtain ⟨r, hcount, hres⟩ :=
      exists_counted_of_concat_prefix hfit anomalyThreshold hfiles rfl h
    have hanswer := Result.trained.inj hres
    rw [(trainModel_acts r c sk data now).2] at hanswer
    -- the answer is that of a training that succeeded
    rcases hcount.train sk hfit c data now with ⟨e, herror, -⟩ | ⟨hok, -⟩
    · rw [herror] at hanswer
      cases hanswer
    · rw [hok] at hanswer
      obtain ⟨hversion, -⟩ := Prod.mk.inj (Except.ok.inj hanswer)
      rw [← hversion, Nat.add_comm]
  meta_ready := by
    intro pre c found h hlive
    obtain ⟨r, hcount, hres⟩ :=
      exists_counted_of_concat_prefix hfit anomalyThreshold hfiles rfl h
    obtain ⟨m, hm, hversion, hfitted⟩ := hcount.ready hlive
    have hanswer := Result.found.inj hres
    rw [ModelRegistry.getModelMeta, (getModel_acts r c).2, hm] at hanswer
    refine ⟨m.toMeta, hanswer.symm, hversion, ?_⟩
    exact if_pos hfitted

end Runs

theorem rememberingForest_fitsSucceed : FitsSucceed rememberingForest := by
  intro data hlen _
  have hne : data ≠ [] := by
    rintro rfl
    simp at hlen
  simp [rememberingForest, hne]

/-- A model is trained, survives a restart, is deleted and trained again. -/
def retraining : List (Op (List ℚ)) :=
  [.train "prod/api" (List.replicate 10 [0]) 0, .restart, .getMeta "prod/api",
    .train "prod/api" (List.replicate 10 [0]) 1, .delete "prod/api",
    .train "prod/api" (List.replicate 9 [0]) 2, .train "prod/api" (List.replicate 10 [0]) 3,
    .getMeta "prod/api"]

theorem versions_count_retraining :
    VersionsCounted (record rememberingForest (-65 / 100) .empty retraining) := by
  have honly : ∀ c, NamedIn retraining c → c = "prod/api" := by
    rintro c ⟨op, hop, hc⟩
    simp only [retraining, List.mem_cons, List.not_mem_nil, or_false] at hop
    rcases hop with rfl | rfl | rfl | rfl | rfl | rfl | rfl | rfl <;> cases hc <;> rfl
  apply versions_count_trainings rememberingForest_fitsSucceed
  intro a b ha hb _
  rw [honly a ha, honly b hb]

end DeepKernel.Ml
