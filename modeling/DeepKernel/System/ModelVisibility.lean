import DeepKernel.Ml.Routes
import DeepKernel.Server.RemoteAdapter
import DeepKernel.Server.Training

/-!
# Models that the server cannot see

The server asks the ML service for a model when it has no version of it, and when an administrator
lets it synchronise its registry. It does so through the hybrid adapter and a GET request with the
id of the container in its path. The ids of pods outside of the namespace `default` have a
slash, which no path parameter takes. So for such a pod the registry, the jobs and what the
dashboard shows of them are in every run what they would be without an ML service
(`namespaced_unseen`), although the pod is trained and scored there.
-/

set_option autoImplicit false

namespace DeepKernel.System

open DeepKernel.Lib DeepKernel.Server

variable {F R : Type}

/-! ## The server and the ML service -/

/-- The state of the server and of the ML service. -/
structure Backend (F R : Type) where
  training : TrainingState
  adapter : HybridAdapter R
  service : Ml.Service F R

/-- A call of the hybrid adapter: its environment, whether its request arrives at the ML service and
the answer comes back, and the clock. -/
structure ModelCall where
  env : CallEnv
  arrives : Bool
  answered : Bool
  now : Int

/-- What happens: another client sends a request to the ML service, which may also be restarted, or
the server scores a window, looks up or synchronises models, or trains. -/
inductive BackendOp (R : Type)
  | client (arrival : Ml.Arrival R)
  | scoreWindow (containerId : String) (values : List R) (call : ModelCall)
  | getMeta (containerId : String) (call : ModelCall)
  | startTraining (containerId : String) (call : ModelCall) (agentThrows : Bool)
  | dumpComplete (containerId : String)
  | sync (calls : List (String × ModelCall))
  | clearCache
  | refreshRemoteStatus (time : Int64) (available : Bool)

section Step

variable [Field R] [LinearOrder R] (p : Platform R) (values : JsonValues R)
variable (sk : Ml.Sklearn (List R) F R) (anomalyThreshold : R) (failures : Ml.Failures F R)
variable (render : Ml.Body R → String) (expand : String → Option String)

/-- An answer on the wire. The body of an error is not read. -/
def wireAnswer : Ml.Answer R → Exchange
  | .ok body => .reply 200 (some (render body))
  | .invalid _ _ => .reply 422 none
  | .failed status _ => .reply status none
  | .restarted => .noReply

/-- A rejection on the wire. -/
def wireRejection : Ml.Rejection → Exchange
  | .notFound => .reply 404 none
  | .methodNotAllowed => .reply 405 none
  | .unprocessable => .reply 422 none

/-- The ML service answers a request. -/
def replyTo (service : Ml.Service F R) (now : Int) (r : Ml.HttpRequest R) :
    Ml.Service F R × Exchange :=
  match Ml.receive now r with
  | .error e => (service, wireRejection e)
  | .ok i =>
      let handled := service.handle sk anomalyThreshold 594 failures i
      (handled.1, wireAnswer render handled.2)

namespace Backend

/-- A request of the remote adapter, if the hybrid adapter chooses it. There is none if the URL
cannot be expanded; after a redirect the path is the one that is asked for in the end. -/
def exchange (d : Backend F R) (call : ModelCall) (r : Option (Ml.HttpRequest R)) :
    Ml.Service F R × Exchange :=
  match r with
  | none => (d.service, .noReply)
  | some r =>
      if (d.adapter.shouldUseRemote call.env).2.2 && call.arrives then
        let replied := replyTo sk anomalyThreshold failures render d.service call.now r
        (replied.1, if call.answered then replied.2 else .noReply)
      else (d.service, .noReply)

/-- `anomalyDetectionPort.getModelMeta`. -/
def askModel (d : Backend F R) (containerId : String) (call : ModelCall) :
    Backend F R × Option ModelMeta :=
  let request : Option (Ml.HttpRequest R) :=
    (expand containerId).map fun path => { method := .get, path := path }
  let exchanged := d.exchange sk anomalyThreshold failures render call request
  let asked := hybridGetModelMeta p values d.adapter containerId call.env exchanged.2
  ({ d with adapter := asked.1, service := exchanged.1 }, asked.2.2)

/-- The part of `ModelRegistryService.getMeta` that asks: only for a container without a version. -/
def lookUp (d : Backend F R) (containerId : String) (call : ModelCall) :
    Backend F R × Option ModelMeta :=
  if (d.training.registry.latest containerId).isSome then (d, none)
  else d.askModel p values sk anomalyThreshold failures render expand containerId call

/-- One container of `syncFromMlService`. -/
def syncOne (d : Backend F R) (e : String × ModelCall) : Backend F R :=
  let asked := d.askModel p values sk anomalyThreshold failures render expand e.1 e.2
  { asked.1 with
    training :=
      { d.training with registry := d.training.registry.syncOne ⟨e.1, asked.2, e.2.now⟩ } }

/-- One step, and what the server shows of a model. -/
def step (d : Backend F R) : BackendOp R → Backend F R × List (String × ModelMeta)
  | .client arrival =>
      match arrival.input with
      | none => (d, [])
      | some i =>
          ({ d with service := (d.service.handle sk anomalyThreshold 594 failures i).1 }, [])
  | .scoreWindow c v call =>
      let request : Ml.HttpRequest R :=
        { method := .post
          path := "/api/ml/score"
          payload := { containerId := some c, featureVector := some v } }
      let exchanged := d.exchange sk anomalyThreshold failures render call (some request)
      let scored := hybridScoreWindow p values d.adapter c v call.env exchanged.2
      ({ d with adapter := scored.1, service := exchanged.1 }, [])
  | .getMeta c call =>
      let looked := d.lookUp p values sk anomalyThreshold failures render expand c call
      let found := d.training.registry.getMeta c looked.2 call.now
      ({ looked.1 with training := { d.training with registry := found.1 } }, [(c, found.2)])
  | .startTraining c call agentThrows =>
      let looked := d.lookUp p values sk anomalyThreshold failures render expand c call
      let started := d.training.startOrchestratedTraining c looked.2 call.now agentThrows
      ({ looked.1 with training := started.1 }, [])
  | .dumpComplete c => ({ d with training := d.training.handleDumpComplete c }, [])
  | .sync calls =>
      (calls.foldl (syncOne p values sk anomalyThreshold failures render expand) d, [])
  | .clearCache =>
      ({ d with training := { d.training with registry := d.training.registry.clearCache } }, [])
  | .refreshRemoteStatus time available =>
      ({ d with adapter := (d.adapter.checkRemoteHealth false time available).1 }, [])

end Backend

end Step

/-- The server without an ML service. -/
def aloneStep (s : TrainingState) : BackendOp R → TrainingState × List (String × ModelMeta)
  | .getMeta c call =>
      let found := s.registry.getMeta c none call.now
      ({ s with registry := found.1 }, [(c, found.2)])
  | .startTraining c call agentThrows =>
      ((s.startOrchestratedTraining c none call.now agentThrows).1, [])
  | .dumpComplete c => (s.handleDumpComplete c, [])
  | .clearCache => ({ s with registry := s.registry.clearCache }, [])
  | _ => (s, [])

/-! ## Requests that are not found -/

/-- The id is neither one piece of a path nor one piece with `/stats` behind it. -/
def Unseen (c : String) : Prop :=
  ¬ Ml.Addressable c ∧ ∀ n, Ml.Addressable n → c ≠ n ++ "/stats"

/-- The ids of pods outside of the namespace `default`, unless a pod is called `stats`. -/
theorem unseen_pod {podNamespace podName : String} (hslash : '/' ∉ podName.toList)
    (hstats : podName ≠ "stats") : Unseen (podNamespace ++ "/" ++ podName) := by
  refine ⟨fun h => h.2 (by simp), fun n hn heq => ?_⟩
  have hlists : podNamespace.toList ++ '/' :: podName.toList =
      n.toList ++ '/' :: "stats".toList := by
    simpa using congrArg String.toList heq
  have hsplit := congrArg (List.splitOn '/') hlists
  rw [List.splitOn_append_cons_self, List.splitOn_append_cons_self,
    List.splitOn_eq_singleton hslash,
    List.splitOn_eq_singleton (show '/' ∉ "stats".toList by decide)] at hsplit
  have hlast := (List.append_inj' hsplit rfl).2
  exact hstats (String.toList_inj.1 (List.cons.inj hlast).1)

theorem matching_unseen {c : String} (h : Unseen c) :
    Ml.matching (("/api/ml/models/" ++ c).toList.splitOn '/') = [] := by
  have hjoin : ['/'].intercalate (c.toList.splitOn '/') = c.toList := List.intercalate_splitOn '/'
  rw [Ml.matching_models]
  rcases hpieces : c.toList.splitOn '/' with _ | ⟨x, _ | ⟨y, _ | ⟨z, rest⟩⟩⟩
  · rfl
  · -- one piece is the id itself
    rw [hpieces, List.intercalate_singleton] at hjoin
    have hslash : '/' ∉ x := notMem_of_mem_splitOn (hpieces ▸ List.mem_cons_self)
    have hx : x = [] := by
      by_contra hne
      refine h.1 ⟨fun hnil => hne ?_, hjoin ▸ hslash⟩
      rw [hjoin, hnil]
      rfl
    exact if_pos hx
  · have hx : ¬ (x ≠ [] ∧ y = "stats".toList) := by
      rintro ⟨hne, rfl⟩
      have hslash : '/' ∉ x := notMem_of_mem_splitOn (hpieces ▸ List.mem_cons_self)
      have haddress : Ml.Addressable (String.ofList x) :=
        ⟨fun hnil => hne (by simpa using congrArg String.toList hnil), by simpa using hslash⟩
      rw [hpieces] at hjoin
      refine h.2 (String.ofList x) haddress (String.toList_inj.1 ?_)
      rw [← hjoin, String.toList_append, List.intercalate_cons_cons, List.intercalate_singleton]
      simp
    exact if_neg hx
  · rfl

/-- Conversely, something matches. -/
theorem matching_seen {c : String} (h : ¬ Unseen c) :
    Ml.decideRoute .get (Ml.matching (("/api/ml/models/" ++ c).toList.splitOn '/')) ≠
      .error .notFound := by
  rw [Ml.matching_models]
  by_cases haddress : Ml.Addressable c
  · have hne : c.toList ≠ [] := fun hnil => haddress.1 (String.toList_eq_nil_iff.1 hnil)
    rw [List.splitOn_eq_singleton haddress.2]
    simp [Ml.decideRoute, hne]
  · obtain ⟨n, hn, rfl⟩ : ∃ n, Ml.Addressable n ∧ c = n ++ "/stats" := by
      by_contra hnone
      exact h ⟨haddress, fun n hn heq => hnone ⟨n, hn, heq⟩⟩
    have hne : n.toList ≠ [] := fun hnil => hn.1 (String.toList_eq_nil_iff.1 hnil)
    have hpieces : (n ++ "/stats").toList.splitOn '/' = [n.toList, "stats".toList] := by
      have hlist : (n ++ "/stats").toList = n.toList ++ '/' :: "stats".toList := by simp
      rw [hlist, List.splitOn_append_cons_self_of_not_mem hn.2,
        List.splitOn_eq_singleton (show '/' ∉ "stats".toList by decide)]
    rw [hpieces]
    simp [Ml.decideRoute, hne]

section Unseen

variable [Field R] [LinearOrder R] (p : Platform R) (values : JsonValues R)
variable (sk : Ml.Sklearn (List R) F R) (anomalyThreshold : R) (failures : Ml.Failures F R)
variable (render : Ml.Body R → String) (expand : String → Option String)

omit [LinearOrder R] in
theorem receive_unseen {c : String} (h : Unseen c) (now : Int) :
    Ml.receive now ({ method := .get, path := "/api/ml/models/" ++ c } : Ml.HttpRequest R) =
      .error .notFound := by
  rw [Ml.receive, Ml.findRoute_eq, matching_unseen h]
  rfl

/-- A request for such a container is answered 404, or not at all. -/
theorem exchange_unseen {c : String} (h : Unseen c)
    (hexpand : expand c = some ("/api/ml/models/" ++ c)) (d : Backend F R) (call : ModelCall) :
    readReply p (d.exchange sk anomalyThreshold failures render call
      ((expand c).map fun path => { method := .get, path := path })).2 = none := by
  rw [hexpand, Option.map_some]
  simp only [Backend.exchange, replyTo, receive_unseen h]
  split_ifs <;> rfl

/-- The local adapter has no model of the container either. -/
theorem trainedAnswer_askModel {c : String} (h : Unseen c)
    (hexpand : expand c = some ("/api/ml/models/" ++ c)) {d : Backend F R}
    (hlocal : d.adapter.localAdapter.models.find? c = none) (call : ModelCall) :
    ModelRegistry.trainedAnswer (d.askModel p values sk anomalyThreshold failures render expand c
      call).2 = none := by
  have hunset : RemoteMlAdapter.getModelMeta p values c
      (d.exchange sk anomalyThreshold failures render call
        ((expand c).map fun path => { method := .get, path := path })).2 =
          ModelRegistry.unsetMeta c := by
    rw [RemoteMlAdapter.getModelMeta, exchange_unseen p sk anomalyThreshold failures render expand h
      hexpand]
  obtain ⟨hsame, -⟩ := tryRemote_spec d.adapter call.env false
  simp only [Backend.askModel, hybridGetModelMeta, hunset, HybridAdapter.getModelMeta,
    Option.isNone_some, LocalAdapter.getModelMeta, hsame, hlocal]
  split_ifs <;> rfl

end Unseen

/-! ## The slot of a container -/

section Slots

open ModelRegistry

variable {s s' : TrainingState} {c : String}

theorem slot_getMeta_of_ne (s : TrainingState) {k : String} (h : c ≠ k) (remote : Option ModelMeta)
    (now : Int) :
    ({ s with registry := (s.registry.getMeta k remote now).1 } : TrainingState).slot c =
      s.slot c := by
  rw [TrainingState.slot, list_getMeta, if_neg h, TrainingState.slot]

theorem slot_start_of_ne (s : TrainingState) {k : String} (h : c ≠ k) (remote : Option ModelMeta)
    (now : Int) (agentThrows : Bool) :
    (s.startOrchestratedTraining k remote now agentThrows).1.slot c = s.slot c := by
  rw [TrainingState.startOrchestratedTraining]
  cases agentThrows with
  | false => exact (slot_beginTraining s c k remote now).trans (if_neg h)
  | true =>
      refine (slot_rollbackTraining _ c k).trans ?_
      rw [if_neg h, slot_beginTraining, if_neg h]

/-- What is looked up and shown depends on the slot and on the answer that counts. -/
theorem slot_getMeta_congr (h : s.slot c = s'.slot c) {remote remote' : Option ModelMeta}
    (hremote : trainedAnswer remote = trainedAnswer remote') (now : Int) :
    ({ s with registry := (s.registry.getMeta c remote now).1 } : TrainingState).slot c =
        ({ s' with registry := (s'.registry.getMeta c remote' now).1 } : TrainingState).slot c ∧
      (s.registry.getMeta c remote now).2 = (s'.registry.getMeta c remote' now).2 := by
  obtain ⟨hlist, hjob⟩ := Prod.mk.inj h
  have hlatest : s.registry.latest c = s'.registry.latest c := by
    rw [ModelRegistry.latest, hlist, ModelRegistry.latest]
  constructor
  · simp only [TrainingState.slot, list_getMeta, if_true, cachedBy, hlist, hjob, hremote]
  · rw [ModelRegistry.getMeta, ModelRegistry.getMeta, hlatest, hremote]
    cases s'.registry.latest c with
    | some v => rfl
    | none => cases trainedAnswer remote' <;> rfl

theorem slot_start_congr (h : s.slot c = s'.slot c) {remote remote' : Option ModelMeta}
    (hremote : trainedAnswer remote = trainedAnswer remote') (now : Int) (agentThrows : Bool) :
    (s.startOrchestratedTraining c remote now agentThrows).1.slot c =
      (s'.startOrchestratedTraining c remote' now agentThrows).1.slot c := by
  obtain ⟨hlist, hjob⟩ := Prod.mk.inj h
  have hbegun : (s.beginTraining c remote now).slot c =
      (s'.beginTraining c remote' now).slot c := by
    rw [slot_beginTraining, slot_beginTraining]
    simp only [if_true, cachedBy, baseVersion, ModelRegistry.latest, hlist, hremote]
  rw [TrainingState.startOrchestratedTraining, TrainingState.startOrchestratedTraining]
  cases agentThrows with
  | false => exact hbegun
  | true =>
      have hlists := (Prod.mk.inj hbegun).1
      refine (slot_rollbackTraining _ c c).trans (Eq.trans ?_ (slot_rollbackTraining _ c c).symm)
      rw [if_pos rfl, if_pos rfl, hlists]

theorem slot_handleDumpComplete_congr (h : s.slot c = s'.slot c) (k : String) :
    (s.handleDumpComplete k).slot c = (s'.handleDumpComplete k).slot c := by
  by_cases hk : c = k
  · subst hk
    obtain ⟨hlist, hjob⟩ := Prod.mk.inj h
    have hlatest : s.registry.latest c = s'.registry.latest c := by
      rw [ModelRegistry.latest, hlist, ModelRegistry.latest]
    rw [TrainingState.handleDumpComplete, TrainingState.handleDumpComplete, hjob]
    cases s'.jobs.find? c with
    | none => simp only [TrainingState.slot, hlist, Table.find?_erase, if_true]
    | some version =>
        simp only [TrainingState.slot, list_setStatus, hlist, hlatest, Table.find?_erase, if_true]
  · rw [slot_handleDumpComplete_of_ne s c hk, slot_handleDumpComplete_of_ne s' c hk, h]

end Slots

/-! ## Runs -/

/-- The versions and the job of the container are the same beside an ML service and alone, and the
local adapter has no model of it. -/
structure SameSlot (c : String) (d : Backend F R) (s : TrainingState) : Prop where
  slot : d.training.slot c = s.slot c
  untrained : d.adapter.localAdapter.models.find? c = none

/-- What is shown of a container. -/
def shownFor (c : String) (e : String × ModelMeta) : Option ModelMeta :=
  if e.1 = c then some e.2 else none

section Runs

variable [Field R] [LinearOrder R] (p : Platform R) (values : JsonValues R)
variable (sk : Ml.Sklearn (List R) F R) (anomalyThreshold : R) (failures : Ml.Failures F R)
variable (render : Ml.Body R → String) (expand : String → Option String)

/-- A lookup leaves the server and the local adapter alone. -/
theorem askModel_fst (d : Backend F R) (k : String) (call : ModelCall) :
    (d.askModel p values sk anomalyThreshold failures render expand k call).1.training =
        d.training ∧
      (d.askModel p values sk anomalyThreshold failures render expand k
        call).1.adapter.localAdapter = d.adapter.localAdapter :=
  ⟨rfl, (tryRemote_spec d.adapter call.env false).1⟩

theorem lookUp_fst (d : Backend F R) (k : String) (call : ModelCall) :
    (d.lookUp p values sk anomalyThreshold failures render expand k call).1.adapter.localAdapter =
      d.adapter.localAdapter := by
  rw [Backend.lookUp]
  split_ifs
  · rfl
  · exact (askModel_fst p values sk anomalyThreshold failures render expand d k call).2

variable {c : String} (hc : Unseen c) (hexpand : expand c = some ("/api/ml/models/" ++ c))
include hc hexpand

theorem trainedAnswer_lookUp {d : Backend F R}
    (hlocal : d.adapter.localAdapter.models.find? c = none) (call : ModelCall) :
    ModelRegistry.trainedAnswer (d.lookUp p values sk anomalyThreshold failures render expand c
      call).2 = ModelRegistry.trainedAnswer none := by
  rw [Backend.lookUp]
  split_ifs
  · rfl
  · exact trainedAnswer_askModel p values sk anomalyThreshold failures render expand hc hexpand
      hlocal call

theorem SameSlot.syncOne {d : Backend F R} {s : TrainingState} (h : SameSlot c d s)
    (e : String × ModelCall) :
    SameSlot c (d.syncOne p values sk anomalyThreshold failures render expand e) s := by
  obtain ⟨k, call⟩ := e
  obtain ⟨-, hlocal⟩ := askModel_fst p values sk anomalyThreshold failures render expand d k call
  refine ⟨Eq.trans ?_ h.slot, ?_⟩
  · by_cases hk : c = k
    · subst hk
      have hanswer := trainedAnswer_askModel p values sk anomalyThreshold failures render expand hc
        hexpand h.untrained call
      simp only [Backend.syncOne, ModelRegistry.syncOne, hanswer]
    · simp only [Backend.syncOne, TrainingState.slot, ModelRegistry.list_syncOne, if_neg hk]
  · rw [Backend.syncOne, hlocal]
    exact h.untrained

theorem SameSlot.step {d : Backend F R} {s : TrainingState} (h : SameSlot c d s)
    (op : BackendOp R) :
    SameSlot c (d.step p values sk anomalyThreshold failures render expand op).1
        (aloneStep s op).1 ∧
      (d.step p values sk anomalyThreshold failures render expand op).2.filterMap (shownFor c) =
        (aloneStep s op).2.filterMap (shownFor c) := by
  have hlookUp : ∀ k call, ((d.lookUp p values sk anomalyThreshold failures render expand k
      call).1.adapter.localAdapter.models.find? c) = none := by
    intro k call
    rw [lookUp_fst]
    exact h.untrained
  cases op with
  | client arrival =>
      rw [Backend.step]
      cases arrival.input with
      | none => exact ⟨h, rfl⟩
      | some i => exact ⟨⟨h.slot, h.untrained⟩, rfl⟩
  | scoreWindow k v call =>
      refine ⟨⟨h.slot, ?_⟩, rfl⟩
      simp only [Backend.step, hybridScoreWindow, HybridAdapter.scoreWindow, tryRemote_spec]
      exact h.untrained
  | getMeta k call =>
      by_cases hk : c = k
      · subst hk
        have hanswer := trainedAnswer_lookUp p values sk anomalyThreshold failures render expand hc
          hexpand h.untrained call
        obtain ⟨hslot, hshown⟩ := slot_getMeta_congr h.slot hanswer call.now
        refine ⟨⟨hslot, hlookUp c call⟩, ?_⟩
        simp only [Backend.step, aloneStep, hshown]
      · refine ⟨⟨?_, hlookUp k call⟩, ?_⟩
        · exact (slot_getMeta_of_ne d.training hk _ _).trans
            (h.slot.trans (slot_getMeta_of_ne s hk none call.now).symm)
        · simp [Backend.step, aloneStep, shownFor, Ne.symm hk]
  | startTraining k call agentThrows =>
      refine ⟨⟨?_, hlookUp k call⟩, rfl⟩
      by_cases hk : c = k
      · subst hk
        have hanswer := trainedAnswer_lookUp p values sk anomalyThreshold failures render expand hc
          hexpand h.untrained call
        exact slot_start_congr h.slot hanswer call.now agentThrows
      · exact (slot_start_of_ne d.training hk _ _ _).trans
          (h.slot.trans (slot_start_of_ne s hk none call.now agentThrows).symm)
  | dumpComplete k => exact ⟨⟨slot_handleDumpComplete_congr h.slot k, h.untrained⟩, rfl⟩
  | sync calls =>
      refine ⟨?_, rfl⟩
      exact foldl_invariant (I := fun d => SameSlot c d s) (P := fun _ => True)
        (fun d e _ hd =>
          hd.syncOne p values sk anomalyThreshold failures render expand hc hexpand e)
        h fun _ _ => trivial
  | clearCache =>
      refine ⟨⟨?_, h.untrained⟩, rfl⟩
      exact Prod.ext rfl (Prod.mk.inj h.slot).2
  | refreshRemoteStatus time available => exact ⟨⟨h.slot, h.untrained⟩, rfl⟩

end Runs

/-- A started server beside an ML service. -/
def Backend.start (service : Ml.Service F R) (preferRemote : Bool) (time : Int64)
    (available : Bool) : Backend F R :=
  ⟨.init, (HybridAdapter.create preferRemote .init time available).1, service⟩

/-- The characters of the ids that the agent and Docker make. -/
def isPlain (ch : Char) : Bool :=
  ch.isAlphanum || ch == '-' || ch == '_' || ch == '.' || ch == '/'

/-- An id of these characters without an empty piece. `RestTemplate` puts it into a path as it is; of
two slashes it would drop one, and for a slash at the end the service redirects. -/
def PathId (c : String) : Prop := c.toList.all isPlain ∧ [] ∉ c.toList.splitOn '/'

instance (c : String) : Decidable (PathId c) := inferInstanceAs (Decidable (_ ∧ _))

section Statement

variable [Field R] [LinearOrder R] (p : Platform R) (values : JsonValues R)
variable (sk : Ml.Sklearn (List R) F R) (anomalyThreshold : R) (failures : Ml.Failures F R)
variable (render : Ml.Body R → String) (expand : String → Option String)

/-- The ML service finds nothing under an id exactly if the id is unseen, and then the versions of
the container, its job, and all that is ever shown of it are in every run the same as without an ML
service. -/
theorem namespaced_unseen
    (hexpand : ∀ k, PathId k → expand k = some ("/api/ml/models/" ++ k))
    {c : String} (hplain : PathId c) (service : Ml.Service F R) (preferRemote : Bool)
    (time : Int64) (available : Bool) (ops : List (BackendOp R)) :
    (Ml.findRoute .get ("/api/ml/models/" ++ c) = .error .notFound ↔ Unseen c) ∧
      (Unseen c →
        (finalState (Backend.step p values sk anomalyThreshold failures render expand)
            (Backend.start service preferRemote time available) ops).training.slot c =
          (finalState aloneStep .init ops).slot c ∧
        (outputs (Backend.step p values sk anomalyThreshold failures render expand)
            (Backend.start service preferRemote time available) ops).filterMap (shownFor c) =
          (outputs aloneStep .init ops).filterMap (shownFor c)) := by
  constructor
  · rw [Ml.findRoute_eq]
    constructor
    · intro hfound
      by_contra hseen
      exact matching_seen hseen hfound
    · intro hc
      rw [matching_unseen hc]
      rfl
  · intro hc
    have hstart : SameSlot c (Backend.start service preferRemote time available)
        TrainingState.init := by
      refine ⟨rfl, ?_⟩
      cases preferRemote <;> rfl
    obtain ⟨hfinal, hshown⟩ := related_runs (Q := SameSlot c)
      (fun _ _ op h => h.step p values sk anomalyThreshold failures render expand hc
        (hexpand c hplain) op) hstart ops
    exact ⟨hfinal.slot, hshown⟩

end Statement

/-- A pod is trained at the ML service, and then its model is looked up and synchronised. -/
def podOps : List (BackendOp ℚ) :=
  [.client (.request 0
      { method := .post
        path := "/api/ml/train"
        payload :=
          { containerId := some "prod/api"
            trainingData := some (List.replicate 10 (List.replicate 594 0)) } }),
    .getMeta "prod/api" ⟨⟨1, 1, true⟩, true, true, 1⟩,
    .sync [("prod/api", ⟨⟨2, 2, true⟩, true, true, 2⟩)],
    .getMeta "prod/api" ⟨⟨3, 3, true⟩, true, true, 3⟩]

theorem namespaced_unseen_pod :
    (outputs (Backend.step examplePlatform noValues Ml.rememberingForest (-65 / 100)
        Ml.silentFailures (fun _ => "") fun c => some ("/api/ml/models/" ++ c))
      (Backend.start (.start Table.empty) true 0 true) podOps).filterMap (shownFor "prod/api") =
      [ModelRegistry.unsetMeta "prod/api", ModelRegistry.unsetMeta "prod/api"] := by
  have hid : "prod/api" = "prod" ++ "/" ++ "api" := by decide
  have hunseen : Unseen "prod/api" := by
    rw [hid]
    exact unseen_pod (by decide) (by decide)
  exact ((namespaced_unseen examplePlatform noValues Ml.rememberingForest (-65 / 100)
    Ml.silentFailures (fun _ => "") (fun c => some ("/api/ml/models/" ++ c)) (fun _ _ => rfl)
    (by decide) (.start Table.empty) true 0 true podOps).2 hunseen).2

end DeepKernel.System
