import DeepKernel.Server.ModelRegistry
import DeepKernel.Lib.Execution

/-!
# Orchestrated training

`TrainingService`: the jobs in flight next to the model registry. `startOrchestratedTraining` is
cut at the call of the agent into `beginTraining` and, if that call throws, `rollbackTraining`.

The invariant that ties jobs to registry entries (`Consistent`) is about one container: its list
of versions and its job. `inv_step_iff` says for every operation when it keeps the invariant; a run
keeps it when all its operations do.
-/

set_option autoImplicit false

namespace DeepKernel.Server

open DeepKernel.Lib

/-! ## The service -/

/-- The state of `TrainingService` and of the registry it writes to. -/
structure TrainingState where
  registry : ModelRegistry
  jobs : Table String Int32

namespace TrainingState

/-- A started server. -/
def init : TrainingState := ⟨.empty, Table.empty⟩

/-- The versions and the job of a container. -/
def slot (s : TrainingState) (c : String) : List ModelVersion × Option Int32 :=
  (s.registry.list c, s.jobs.find? c)

/-- `startOrchestratedTraining` up to the call of the agent. -/
def beginTraining (s : TrainingState) (containerId : String) (remote : Option ModelMeta)
    (now : Int) : TrainingState :=
  let found := s.registry.getMeta containerId remote now
  let nextVersion := found.2.version + 1
  { registry :=
      found.1.update containerId ("model-" ++ containerId) nextVersion "v1" .training now
    jobs := s.jobs.set containerId nextVersion }

/-- The handler of `startOrchestratedTraining` for an exception of the agent call. -/
def rollbackTraining (s : TrainingState) (containerId : String) : TrainingState where
  registry := s.registry.removeLatest containerId
  jobs := s.jobs.erase containerId

/-- `startOrchestratedTraining` and whether it returns normally; `agentThrows` says whether
`agentControlPort.requestLongDump` throws. -/
def startOrchestratedTraining (s : TrainingState) (containerId : String)
    (remote : Option ModelMeta) (now : Int) (agentThrows : Bool) : TrainingState × Bool :=
  let begun := s.beginTraining containerId remote now
  if agentThrows then (begun.rollbackTraining containerId, false) else (begun, true)

/-- `handleDumpComplete` for a completion of a container. -/
def handleDumpComplete (s : TrainingState) (containerId : String) : TrainingState :=
  match s.jobs.find? containerId with
  | none => { s with jobs := s.jobs.erase containerId }
  | some version =>
      { registry := s.registry.setStatus containerId version .ready
        jobs := s.jobs.erase containerId }

end TrainingState

/-- The entry that a start makes. -/
def trainingVersion (c : String) (version : Int32) (now : Int) : ModelVersion :=
  ⟨"model-" ++ c, c, version, "v1", now, .training⟩

/-! ## Operations on the service -/

/-- The operations that change jobs or registry, with the answers of the ML service. -/
inductive TrainingOp
  | start (containerId : String) (remote : Option ModelMeta) (now : Int)
  | dumpComplete (containerId : String)
  | getMeta (containerId : String) (remote : Option ModelMeta) (now : Int)
  | sync (answers : List ModelRegistry.SyncAnswer)
  | clear

/-- One operation. The agent accepts the command of a start. -/
def TrainingState.step (s : TrainingState) : TrainingOp → TrainingState
  | .start c remote now => (s.startOrchestratedTraining c remote now false).1
  | .dumpComplete c => s.handleDumpComplete c
  | .getMeta c remote now => { s with registry := (s.registry.getMeta c remote now).1 }
  | .sync answers => { s with registry := (s.registry.syncFromMlService answers).1 }
  | .clear => { s with registry := s.registry.clearCache }

section Slots

variable (s : TrainingState) (c : String)

theorem slot_beginTraining (k : String) (remote : Option ModelMeta) (now : Int) :
    (s.beginTraining k remote now).slot c =
      if c = k then
        (s.registry.list k ++ s.registry.cachedBy k remote now ++
            [trainingVersion k (s.registry.baseVersion k remote + 1) now],
          some (s.registry.baseVersion k remote + 1))
      else s.slot c := by
  simp only [TrainingState.beginTraining, TrainingState.slot, ModelRegistry.list_update,
    ModelRegistry.list_getMeta, ModelRegistry.version_getMeta, Table.find?_set]
  by_cases h : c = k
  · simp [h, trainingVersion]
  · simp [h]

theorem slot_rollbackTraining (k : String) :
    (s.rollbackTraining k).slot c =
      if c = k then ((s.registry.list k).dropLast, none) else s.slot c := by
  simp only [TrainingState.rollbackTraining, TrainingState.slot, ModelRegistry.list_removeLatest,
    Table.find?_erase]
  by_cases h : c = k <;> simp [h]

theorem slot_handleDumpComplete_of_ne {k : String} (h : c ≠ k) :
    (s.handleDumpComplete k).slot c = s.slot c := by
  rw [TrainingState.handleDumpComplete]
  cases s.jobs.find? k <;>
    simp [TrainingState.slot, ModelRegistry.list_setStatus, h]

theorem slot_handleDumpComplete_none (h : s.jobs.find? c = none) :
    (s.handleDumpComplete c).slot c = s.slot c := by
  simp [TrainingState.handleDumpComplete, TrainingState.slot, h]

theorem slot_handleDumpComplete_some {v : Int32} {e : ModelVersion}
    (h : s.jobs.find? c = some v) (he : s.registry.latest c = some e) :
    (s.handleDumpComplete c).slot c =
      ((s.registry.list c).dropLast ++ [if e.version = v then { e with status := .ready } else e],
        none) := by
  simp [TrainingState.handleDumpComplete, TrainingState.slot, ModelRegistry.list_setStatus, h, he]

end Slots

/-! ## The invariant of one container -/

/-- The versions and the job of a container fit together: the versions increase, only the last
entry can be in training, and it is, with version `v`, exactly when `v` is the job. -/
structure Consistent (entries : List ModelVersion) (job : Option Int32) : Prop where
  increasing : (entries.map fun e => e.version.toInt).Pairwise (· < ·)
  settled : ∀ e ∈ entries.dropLast, e.status ≠ .training
  job_iff : ∀ v, (∃ e, entries.getLast? = some e ∧ e.status = .training ∧ e.version = v) ↔
    job = some v

/-- The job that a last entry stands for. -/
def openJob (e : ModelVersion) : Option Int32 :=
  if e.status = .training then some e.version else none

theorem openJob_eq_some_iff {e : ModelVersion} {v : Int32} :
    openJob e = some v ↔ e.status = .training ∧ e.version = v := by
  rw [openJob]
  by_cases h : e.status = .training <;> simp [h]

theorem openJob_eq_none_iff {e : ModelVersion} : openJob e = none ↔ e.status ≠ .training := by
  rw [openJob]
  by_cases h : e.status = .training <;> simp [h]

theorem consistent_nil {job : Option Int32} : Consistent [] job ↔ job = none := by
  constructor
  · intro h
    cases job with
    | none => rfl
    | some v =>
        obtain ⟨e, he, -⟩ := (h.job_iff v).2 rfl
        cases he
  · rintro rfl
    refine ⟨List.Pairwise.nil, fun e he => ?_, fun v => by simp⟩
    cases he

theorem consistent_concat {entries : List ModelVersion} {e : ModelVersion} {job : Option Int32} :
    Consistent (entries ++ [e]) job ↔
      (entries.map fun d => d.version.toInt).Pairwise (· < ·) ∧
        (∀ d ∈ entries, d.version.toInt < e.version.toInt) ∧
        (∀ d ∈ entries, d.status ≠ .training) ∧ job = openJob e := by
  -- the equivalence over all versions says which option the job is
  have hjob : (∀ v, (e.status = .training ∧ e.version = v) ↔ job = some v) ↔ job = openJob e := by
    constructor
    · intro h
      apply Option.ext
      intro v
      rw [openJob_eq_some_iff, h]
    · rintro rfl v
      exact openJob_eq_some_iff.symm
  constructor
  · intro h
    have hinc := h.increasing
    rw [List.map_append, List.pairwise_append] at hinc
    refine ⟨hinc.1, fun d hd => hinc.2.2 _ (List.mem_map_of_mem hd) _ (by simp), ?_, ?_⟩
    · simpa using h.settled
    · exact hjob.1 (by simpa using h.job_iff)
  · rintro ⟨hinc, hlast, hset, hj⟩
    refine ⟨?_, by simpa using hset, by simpa using hjob.2 hj⟩
    rw [List.map_append, List.pairwise_append]
    refine ⟨hinc, by simp, fun x hx y hy => ?_⟩
    obtain ⟨d, hd, rfl⟩ := List.mem_map.1 hx
    simp only [List.map_cons, List.map_nil, List.mem_singleton] at hy
    rw [hy]
    exact hlast d hd

namespace Consistent

variable {entries : List ModelVersion} {job : Option Int32}

/-- A container without a job has no entry in training. -/
theorem forall_settled_iff (h : Consistent entries job) :
    (∀ d ∈ entries, d.status ≠ .training) ↔ job = none := by
  -- Only the last entry can be in training, and then it is the job.
  rcases List.eq_nil_or_concat' entries with rfl | ⟨l, e, rfl⟩
  · simp [consistent_nil.1 h]
  · obtain ⟨-, -, hset, rfl⟩ := consistent_concat.1 h
    rw [openJob_eq_none_iff]
    constructor
    · exact fun hall => hall e (by simp)
    · intro he d hd
      rcases List.mem_append.1 hd with hd | hd
      · exact hset d hd
      · rwa [List.mem_singleton.1 hd]

/-- All versions are below a bound when the last one is. -/
theorem forall_version_lt_iff (h : Consistent entries job) {n : Int} :
    (∀ d ∈ entries, d.version.toInt < n) ↔
      ∀ d, entries.getLast? = some d → d.version.toInt < n := by
  rcases List.eq_nil_or_concat' entries with rfl | ⟨l, e, rfl⟩
  · simp
  · obtain ⟨-, hlt, -, -⟩ := consistent_concat.1 h
    constructor
    · intro hall d hd
      exact hall d (List.mem_of_getLast? hd)
    · intro hlast d hd
      have he := hlast e (by simp)
      rcases List.mem_append.1 hd with hd | hd
      · exact (hlt d hd).trans he
      · rwa [List.mem_singleton.1 hd]

/-- When an appended entry, with a new job, keeps the invariant. -/
theorem concat_iff (h : Consistent entries job) {e : ModelVersion} {job' : Option Int32} :
    Consistent (entries ++ [e]) job' ↔
      job = none ∧ (∀ d, entries.getLast? = some d → d.version.toInt < e.version.toInt) ∧
        job' = openJob e := by
  rw [consistent_concat, h.forall_settled_iff, h.forall_version_lt_iff]
  constructor
  · rintro ⟨-, hlast, hjob, hjob'⟩
    exact ⟨hjob, hlast, hjob'⟩
  · rintro ⟨hjob, hlast, hjob'⟩
    exact ⟨h.increasing, hlast, hjob, hjob'⟩

/-- Marking the entry of the job as ready ends the job. -/
theorem mark_ready {e : ModelVersion} {v : Int32} (h : Consistent (entries ++ [e]) (some v)) :
    e.version = v ∧ Consistent (entries ++ [{ e with status := .ready }]) none := by
  obtain ⟨hinc, hlt, hset, hjob⟩ := consistent_concat.1 h
  obtain ⟨-, hv⟩ := openJob_eq_some_iff.1 hjob.symm
  refine ⟨hv, consistent_concat.2 ⟨hinc, hlt, hset, ?_⟩⟩
  simp [openJob]

end Consistent

/-- The next version is larger unless the counter wraps. -/
theorem toInt_lt_toInt_succ_iff (v : Int32) : v.toInt < (v + 1).toInt ↔ v ≠ Int32.maxValue := by
  have hle : v.toInt ≤ 2147483647 := v.toInt_le
  have hge : -2147483648 ≤ v.toInt := v.le_toInt
  have hmax : v ≠ Int32.maxValue ↔ v.toInt ≠ 2147483647 := not_congr Int32.toInt_inj.symm
  have hadd : (v + 1).toInt = (v.toInt + 1).bmod 4294967296 := Int32.toInt_add v 1
  rw [hmax, hadd]
  constructor
  · intro h heq
    rw [heq] at h
    exact absurd h (by decide)
  · intro hne
    rw [Int.bmod_eq_of_le (by omega) (by omega)]
    omega

/-! ## The invariant of the service -/

/-- Every container is consistent. -/
def TrainingState.Inv (s : TrainingState) : Prop := ∀ c, Consistent (s.slot c).1 (s.slot c).2

/-- The ML service answers with a trained model, with an untrained one, or not at all. -/
def ReadyOrUntrained (remote : Option ModelMeta) : Prop :=
  ∀ answer, remote = some answer → answer.status = .ready ∨ answer.status = .untrained

/-- The answers of the ML service during an operation are ready or untrained. -/
def TrainingOp.ReadyOrUntrained : TrainingOp → Prop
  | .start _ remote _ => Server.ReadyOrUntrained remote
  | .dumpComplete _ => True
  | .getMeta _ remote _ => Server.ReadyOrUntrained remote
  | .sync answers => ∀ a ∈ answers, Server.ReadyOrUntrained a.remote
  | .clear => True

theorem status_of_trainedAnswer {remote : Option ModelMeta} (h : ReadyOrUntrained remote)
    {answer : ModelMeta} (ha : ModelRegistry.trainedAnswer remote = some answer) :
    answer.status = .ready := by
  obtain ⟨hremote, hstatus⟩ := Option.filter_eq_some_iff.1 ha
  have hne : answer.status ≠ .untrained := by simpa using hstatus
  exact (h answer hremote).resolve_right hne

/-- The answer for one container of a synchronisation can be stored: the container has no job and
its latest version is older. -/
def SyncOneSafe (s : TrainingState) (a : ModelRegistry.SyncAnswer) : Prop :=
  ∀ found, ModelRegistry.trainedAnswer a.remote = some found →
    s.jobs.find? a.containerId = none ∧
      ∀ e, s.registry.latest a.containerId = some e → e.version.toInt < found.version.toInt

/-- All answers of a synchronisation can be stored, one after another. -/
def SyncSafe (s : TrainingState) : List ModelRegistry.SyncAnswer → Prop
  | [] => True
  | a :: rest => SyncOneSafe s a ∧ SyncSafe { s with registry := s.registry.syncOne a } rest

/-- The operations that keep the invariant. -/
def TrainingState.Safe (s : TrainingState) : TrainingOp → Prop
  | .start c remote _ =>
      s.jobs.find? c = none ∧ s.registry.baseVersion c remote ≠ Int32.maxValue
  | .dumpComplete _ => True
  | .getMeta _ _ _ => True
  | .sync answers => SyncSafe s answers
  | .clear => ∀ c, s.jobs.find? c = none

/-- An operation that changes one container keeps the invariant when that container stays
consistent. -/
theorem inv_iff_of_slot {s s' : TrainingState} (hs : s.Inv) {k : String}
    (hother : ∀ c, c ≠ k → s'.slot c = s.slot c) :
    s'.Inv ↔ Consistent (s'.slot k).1 (s'.slot k).2 := by
  constructor
  · exact fun h => h k
  · intro h c
    by_cases hc : c = k
    · rw [hc]
      exact h
    · rw [hother c hc]
      exact hs c

section Steps

variable {s : TrainingState}

/-- What `getMeta` stores keeps a container consistent. -/
theorem Consistent.cachedBy (hs : s.Inv) {k : String} {remote : Option ModelMeta}
    (hremote : ReadyOrUntrained remote) (now : Int) :
    Consistent (s.registry.list k ++ s.registry.cachedBy k remote now) (s.jobs.find? k) := by
  have hk : Consistent (s.registry.list k) (s.jobs.find? k) := hs k
  rw [ModelRegistry.cachedBy]
  by_cases hnil : s.registry.list k = []
  · rw [if_pos hnil, hnil, List.nil_append]
    rw [hnil, consistent_nil] at hk
    rw [hk]
    cases hanswer : ModelRegistry.trainedAnswer remote with
    | none => exact consistent_nil.2 rfl
    | some answer =>
        have hready := status_of_trainedAnswer hremote hanswer
        refine (consistent_nil.2 rfl).concat_iff.2 ⟨rfl, fun d hd => ?_, ?_⟩
        · cases hd
        · exact (openJob_eq_none_iff.2 (by simp [ModelRegistry.answerVersion, hready])).symm
  · rw [if_neg hnil, List.append_nil]
    exact hk

/-- The version that a start counts on from is that of the last entry it finds, if any. -/
theorem version_getLast?_cachedBy {r : ModelRegistry} {k : String} {remote : Option ModelMeta}
    {now : Int} {d : ModelVersion} (hd : (r.list k ++ r.cachedBy k remote now).getLast? = some d) :
    d.version = r.baseVersion k remote := by
  rw [ModelRegistry.cachedBy] at hd
  rw [ModelRegistry.baseVersion]
  by_cases hnil : r.list k = []
  · rw [if_pos hnil, hnil, List.nil_append] at hd
    rw [(r.latest_eq_none_iff k).2 hnil]
    cases hanswer : ModelRegistry.trainedAnswer remote with
    | none =>
        rw [hanswer] at hd
        cases hd
    | some answer =>
        rw [hanswer] at hd
        cases hd
        rfl
  · rw [if_neg hnil, List.append_nil] at hd
    rw [ModelRegistry.latest, hd]

/-- A start keeps the invariant when the container has no job and the version does not wrap. -/
theorem inv_start_iff (hs : s.Inv) {k : String} {remote : Option ModelMeta}
    (hremote : ReadyOrUntrained remote) (now : Int) :
    (s.beginTraining k remote now).Inv ↔
      s.jobs.find? k = none ∧ s.registry.baseVersion k remote ≠ Int32.maxValue := by
  have hslot := fun c => slot_beginTraining s c k remote now
  rw [inv_iff_of_slot (k := k) hs fun c hc => by rw [hslot, if_neg hc], hslot, if_pos rfl,
    (Consistent.cachedBy hs hremote now).concat_iff]
  have hjob : some (s.registry.baseVersion k remote + 1) =
      openJob (trainingVersion k (s.registry.baseVersion k remote + 1) now) := rfl
  refine and_congr_right fun hnone => ?_
  rw [← toInt_lt_toInt_succ_iff]
  constructor
  · rintro ⟨hlast, -⟩
    cases hlatest : (s.registry.list k ++ s.registry.cachedBy k remote now).getLast? with
    | some d =>
        have hd := hlast d hlatest
        rwa [version_getLast?_cachedBy hlatest] at hd
    | none =>
        -- Nothing is known of the container, so the start counts from zero.
        rw [List.getLast?_eq_none_iff, List.append_eq_nil_iff] at hlatest
        obtain ⟨hnil, hcached⟩ := hlatest
        rw [ModelRegistry.cachedBy, if_pos hnil, Option.toList_eq_nil_iff, Option.map_eq_none_iff]
          at hcached
        rw [ModelRegistry.baseVersion, (s.registry.latest_eq_none_iff k).2 hnil, hcached]
        decide
  · intro hlt
    refine ⟨fun d hd => ?_, hjob⟩
    rw [version_getLast?_cachedBy hd]
    exact hlt

/-- A completion always keeps the invariant. -/
theorem inv_handleDumpComplete (hs : s.Inv) (k : String) : (s.handleDumpComplete k).Inv := by
  rw [inv_iff_of_slot (k := k) hs fun c hc => slot_handleDumpComplete_of_ne s c hc]
  have hk : Consistent (s.registry.list k) (s.jobs.find? k) := hs k
  cases hjob : s.jobs.find? k with
  | none =>
      rw [slot_handleDumpComplete_none s k hjob]
      exact hs k
  | some v =>
      -- the invariant finds the entry of the job at the end of the list
      rw [hjob] at hk
      obtain ⟨e, he, -⟩ := (hk.job_iff v).2 rfl
      rw [s.registry.list_of_latest k he] at hk
      obtain ⟨hv, hready⟩ := hk.mark_ready
      rw [slot_handleDumpComplete_some s k hjob he, if_pos hv]
      exact hready

theorem inv_getMeta (hs : s.Inv) {k : String} {remote : Option ModelMeta}
    (hremote : ReadyOrUntrained remote) (now : Int) :
    TrainingState.Inv { s with registry := (s.registry.getMeta k remote now).1 } := by
  intro c
  simp only [TrainingState.slot, ModelRegistry.list_getMeta]
  by_cases hc : c = k
  · rw [if_pos hc, hc]
    exact Consistent.cachedBy hs hremote now
  · rw [if_neg hc]
    exact hs c

end Steps

/-! ## Synchronisation -/

section Sync

variable {s : TrainingState}

theorem slot_syncOne (s : TrainingState) (a : ModelRegistry.SyncAnswer) (c : String) :
    TrainingState.slot { s with registry := s.registry.syncOne a } c =
      if c = a.containerId then
        (s.registry.list c ++
          ((ModelRegistry.trainedAnswer a.remote).map fun m =>
            ModelRegistry.answerVersion c m a.now).toList, s.jobs.find? c)
      else s.slot c := by
  simp only [TrainingState.slot, ModelRegistry.list_syncOne]
  by_cases hc : c = a.containerId
  · rw [if_pos hc, if_pos hc]
  · rw [if_neg hc, if_neg hc]

theorem inv_syncOne_iff (hs : s.Inv) {a : ModelRegistry.SyncAnswer}
    (ha : ReadyOrUntrained a.remote) :
    TrainingState.Inv { s with registry := s.registry.syncOne a } ↔ SyncOneSafe s a := by
  have hslot := slot_syncOne s a
  rw [inv_iff_of_slot (k := a.containerId) hs fun c hc => by rw [hslot, if_neg hc], hslot,
    if_pos rfl, SyncOneSafe]
  cases hanswer : ModelRegistry.trainedAnswer a.remote with
  | none =>
      have hk := hs a.containerId
      simpa [TrainingState.slot] using hk
  | some found =>
      -- an answer that is stored is ready, so it opens no job
      have hopen : openJob (ModelRegistry.answerVersion a.containerId found a.now) = none :=
        openJob_eq_none_iff.2
          (by simp [ModelRegistry.answerVersion, status_of_trainedAnswer ha hanswer])
      have hk : Consistent (s.registry.list a.containerId) (s.jobs.find? a.containerId) :=
        hs a.containerId
      simp only [Option.map_some, Option.toList_some, Option.some.injEq, forall_eq',
        hk.concat_iff, hopen]
      constructor
      · rintro ⟨hnone, hlast, -⟩
        exact ⟨hnone, hlast⟩
      · rintro ⟨hnone, hlast⟩
        exact ⟨hnone, hlast, hnone⟩

/-- Storing an answer repairs nothing. -/
theorem inv_of_inv_syncOne {a : ModelRegistry.SyncAnswer} (ha : ReadyOrUntrained a.remote)
    (h : TrainingState.Inv { s with registry := s.registry.syncOne a }) : s.Inv := by
  intro c
  have hc := h c
  rw [slot_syncOne] at hc
  by_cases hk : c = a.containerId
  · rw [if_pos hk] at hc
    cases hanswer : ModelRegistry.trainedAnswer a.remote with
    | none => simpa [hanswer, TrainingState.slot] using hc
    | some found =>
        rw [hanswer, Option.map_some, Option.toList_some] at hc
        -- the version of the answer is the last one, and no job is open
        obtain ⟨hinc, -, hset, hjob⟩ := consistent_concat.1 hc
        have hready := status_of_trainedAnswer ha hanswer
        rw [openJob_eq_none_iff.2 (by simp [ModelRegistry.answerVersion, hready])] at hjob
        rw [TrainingState.slot, hjob]
        refine ⟨hinc, fun e he => hset e (List.dropLast_subset _ he), fun v => ?_⟩
        constructor
        · rintro ⟨e, he, htraining, -⟩
          exact absurd htraining (hset e (List.mem_of_getLast? he))
        · exact fun hv => by cases hv
  · rwa [if_neg hk] at hc

theorem inv_of_inv_sync {answers : List ModelRegistry.SyncAnswer}
    (hanswers : ∀ a ∈ answers, ReadyOrUntrained a.remote)
    (h : TrainingState.Inv { s with registry := answers.foldl ModelRegistry.syncOne s.registry }) :
    s.Inv := by
  induction answers generalizing s with
  | nil => exact h
  | cons a rest ih =>
      rw [List.forall_mem_cons] at hanswers
      exact inv_of_inv_syncOne hanswers.1
        (ih (s := { s with registry := s.registry.syncOne a }) hanswers.2 h)

theorem inv_sync_iff (hs : s.Inv) {answers : List ModelRegistry.SyncAnswer}
    (hanswers : ∀ a ∈ answers, ReadyOrUntrained a.remote) :
    TrainingState.Inv { s with registry := answers.foldl ModelRegistry.syncOne s.registry } ↔
      SyncSafe s answers := by
  induction answers generalizing s with
  | nil => exact ⟨fun _ => trivial, fun _ => hs⟩
  | cons a rest ih =>
      rw [List.forall_mem_cons] at hanswers
      have hone := inv_syncOne_iff hs hanswers.1
      constructor
      · intro h
        have hnext : TrainingState.Inv { s with registry := s.registry.syncOne a } :=
          inv_of_inv_sync hanswers.2 h
        exact ⟨hone.1 hnext, (ih hnext hanswers.2).1 h⟩
      · rintro ⟨hsafe, hrest⟩
        exact (ih (hone.2 hsafe) hanswers.2).2 hrest

end Sync

/-! ## Runs -/

theorem inv_init : TrainingState.init.Inv := fun _ => consistent_nil.2 rfl

/-- One operation keeps the invariant exactly when it is safe. -/
theorem inv_step_iff {s : TrainingState} {op : TrainingOp} (hop : op.ReadyOrUntrained)
    (hs : s.Inv) : (s.step op).Inv ↔ s.Safe op := by
  cases op with
  | start c remote now => exact inv_start_iff hs hop now
  | dumpComplete c => exact iff_of_true (inv_handleDumpComplete hs c) trivial
  | getMeta c remote now => exact iff_of_true (inv_getMeta hs hop now) trivial
  | sync answers => exact inv_sync_iff hs hop
  | clear => exact forall_congr' fun _ => consistent_nil

/-- In a run of a started server, the registry and the jobs are consistent in every state exactly
when every start finds no job of its container and a version that can be increased, every
synchronised answer finds no job and an older version, and every clearing of the cache finds no
job at all. -/
theorem registry_invariant_iff (ops : List TrainingOp)
    (hops : ∀ op ∈ ops, op.ReadyOrUntrained) :
    (∀ pre, pre <+: ops → (pre.foldl TrainingState.step .init).Inv) ↔
      ∀ pre op, pre ++ [op] <+: ops → (pre.foldl TrainingState.step .init).Safe op := by
  apply forall_prefix_iff (I := fun _ => True) (P := TrainingOp.ReadyOrUntrained)
  · exact fun _ _ _ _ => trivial
  · exact fun _ _ hop _ hs => inv_step_iff hop hs
  · trivial
  · exact inv_init
  · exact hops

/-- A start, its completion and a second start. -/
theorem registry_invariant_two_starts :
    ([TrainingOp.start "a" none 0, .dumpComplete "a", .start "a" none 1].foldl
      TrainingState.step .init).Inv := by
  refine (registry_invariant_iff _ ?_).2 ?_ _ (List.prefix_refl _)
  · intro op hop
    simp only [List.mem_cons, List.not_mem_nil, or_false] at hop
    rcases hop with rfl | rfl | rfl
    · exact fun _ h => nomatch h
    · trivial
    · exact fun _ h => nomatch h
  · refine forall_steps_cons TrainingState.step TrainingState.Safe ⟨rfl, by decide⟩ ?_
    refine forall_steps_cons TrainingState.step TrainingState.Safe trivial ?_
    refine forall_steps_cons TrainingState.step TrainingState.Safe ⟨rfl, by decide⟩ ?_
    exact forall_steps_nil TrainingState.step TrainingState.Safe

/-- A second start while the first dump runs leaves an entry in training behind. -/
theorem registry_invariant_fails :
    ¬ ([TrainingOp.start "a" none 0, .start "a" none 1].foldl TrainingState.step .init).Inv := by
  intro h
  have hset := (h "a").settled (trainingVersion "a" 1 0)
  exact hset (by decide) rfl

end DeepKernel.Server
