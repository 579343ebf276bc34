import DeepKernel.Lib.Numerals
import DeepKernel.Lib.PathPattern
import DeepKernel.Ml.Versions
import DeepKernel.Ml.Simulation

/-!
# The routes of the ML service

The endpoints of `main.py` with their methods and paths, and what reaches a handler of an HTTP
request. Containers are named in the body, in the query, or in the path. A path parameter is one
piece between two slashes, so a container whose name has a slash can be trained and scored, and can
never be described or deleted (`slashed_model_kept`). The agent gives such names to the pods outside
of the namespace `default`.
-/

set_option autoImplicit false

namespace DeepKernel.Ml

open DeepKernel.Lib

variable {F R : Type}

/-! ## Requests -/

/-- The methods of the routes, and any other method. -/
inductive HttpMethod
  | get
  | post
  | delete
  | other
  deriving DecidableEq

/-- A query parameter: left out, not of its type, or a value. -/
inductive Param (α : Type)
  | absent
  | malformed
  | value (a : α)

/-- A parameter with a default. -/
def Param.orDefault {α : Type} (default : α) : Param α → Option α
  | .absent => some default
  | .malformed => none
  | .value a => some a

/-- The parameters of `enable_simulation` and `disable_simulation`. -/
structure Query (R : Type) where
  containerId : Option String := none
  score : Param R := .absent
  anomalous : Param Bool := .absent

/-- The fields of the request schemas that a JSON body has with the right types. -/
structure Payload (R : Type) where
  containerId : Option String := none
  featureVector : Option (List R) := none
  trainingData : Option (List (List R)) := none

/-- A request. The path is decoded. -/
structure HttpRequest (R : Type) where
  method : HttpMethod
  path : String
  query : Query R := {}
  payload : Payload R := {}

/-! ## Routes -/

/-- The handlers. -/
inductive Endpoint
  | health
  | apiHealth
  | scoreWindow
  | trainModel
  | getModelMeta
  | listModels
  | deleteModel
  | getModelStats
  | enableSimulation
  | disableSimulation
  | getSimulationStatus
  deriving DecidableEq

/-- A decorator. -/
structure Route where
  method : HttpMethod
  path : String
  endpoint : Endpoint

/-- The decorators of `main.py`. -/
def routes : List Route :=
  [⟨.get, "/health", .health⟩,
    ⟨.get, "/api/health", .apiHealth⟩,
    ⟨.post, "/api/ml/score", .scoreWindow⟩,
    ⟨.post, "/api/ml/train", .trainModel⟩,
    ⟨.get, "/api/ml/models/\x7bcontainer_id\x7d", .getModelMeta⟩,
    ⟨.get, "/api/ml/models", .listModels⟩,
    ⟨.delete, "/api/ml/models/\x7bcontainer_id\x7d", .deleteModel⟩,
    ⟨.get, "/api/ml/models/\x7bcontainer_id\x7d/stats", .getModelStats⟩,
    ⟨.post, "/api/demo/simulate", .enableSimulation⟩,
    ⟨.post, "/api/demo/simulate/disable", .disableSimulation⟩,
    ⟨.get, "/api/demo/simulate/status", .getSimulationStatus⟩]

/-- The segments of a path with parameters in braces. -/
def pattern (path : String) : List (Segment Char) :=
  (path.toList.splitOn '/').map fun t =>
    if t.head? = some (Char.ofNat 123) then .parameter else .text t

/-- The path parameters with which a route matches a path. -/
def Route.params (r : Route) (path : String) : Option (List String) :=
  (matchPath '/' (pattern r.path) path.toList).map (List.map String.ofList)

/-- The answers that are given without a handler. -/
inductive Rejection
  | notFound
  | methodNotAllowed
  | unprocessable
  deriving DecidableEq

/-- The route of a request with the parameters of its path. -/
def findRoute (method : HttpMethod) (path : String) : Except Rejection (Endpoint × List String) :=
  match routes.findSome? fun r =>
      if r.method = method then (r.params path).map fun params => (r.endpoint, params)
      else none with
  | some found => .ok found
  | none =>
      -- another method would have been allowed
      if routes.any fun r => (r.params path).isSome then .error .methodNotAllowed
      else .error .notFound

section Receive

variable [Field R]

/-- The input of a handler, with its path parameters and the defaults of the query. -/
def Endpoint.input (now : Int) (q : Query R) (b : Payload R) :
    Endpoint → List String → Option (ServiceInput R)
  | .health, _ => some .health
  | .apiHealth, _ => some .health
  | .scoreWindow, _ => b.containerId.bind fun c => b.featureVector.map fun v => .scoreWindow c v
  | .trainModel, _ =>
      b.containerId.bind fun c => b.trainingData.map fun data => .trainModel c data now
  | .getModelMeta, c :: _ => some (.getModelMeta c)
  | .listModels, _ => some .listModels
  | .deleteModel, c :: _ => some (.deleteModel c)
  | .getModelStats, c :: _ => some (.getModelStats c)
  | .enableSimulation, _ =>
      q.containerId.bind fun c => (q.score.orDefault (-85 / 100)).bind fun score =>
        (q.anomalous.orDefault true).map fun anomalous => .enableSimulation c ⟨score, anomalous⟩
  | .disableSimulation, _ => some (.disableSimulation q.containerId)
  | .getSimulationStatus, _ => some .getSimulationStatus
  | _, [] => none

/-- What reaches a handler. -/
def receive (now : Int) (r : HttpRequest R) : Except Rejection (ServiceInput R) :=
  match findRoute r.method r.path with
  | .error e => .error e
  | .ok found =>
      match found.1.input now r.query r.payload found.2 with
      | some i => .ok i
      | none => .error .unprocessable

end Receive

/-! ## What a path can name -/

/-- The name fits into one piece of a path. -/
def Addressable (c : String) : Prop := c ≠ "" ∧ '/' ∉ c.toList

instance (c : String) : Decidable (Addressable c) := inferInstanceAs (Decidable (_ ∧ _))

theorem addressable_of_params {r : Route} {path : String} {params : List String}
    (h : r.params path = some params) {c : String} (hc : c ∈ params) : Addressable c := by
  obtain ⟨args, hargs, rfl⟩ := Option.map_eq_some_iff.1 h
  have hpattern : pattern r.path ≠ [] := by
    rw [pattern, ne_eq, List.map_eq_nil_iff]
    exact List.splitOn_ne_nil _ _
  have htext : ∀ t, .text t ∈ pattern r.path → '/' ∉ t := by
    intro t ht
    obtain ⟨piece, hpiece, hsegment⟩ := List.mem_map.1 ht
    split_ifs at hsegment
    obtain rfl := Segment.text.inj hsegment
    exact notMem_of_mem_splitOn hpiece
  obtain ⟨-, hargs, -⟩ := (matchPath_eq_some_iff hpattern htext).1 hargs
  obtain ⟨arg, harg, rfl⟩ := List.mem_map.1 hc
  obtain ⟨hne, hslash⟩ := hargs arg harg
  refine ⟨fun hnil => hne ?_, ?_⟩
  · simpa using congrArg String.toList hnil
  · rwa [String.toList_ofList]

theorem addressable_of_findRoute {method : HttpMethod} {path : String} {endpoint : Endpoint}
    {params : List String} (h : findRoute method path = .ok (endpoint, params)) {c : String}
    (hc : c ∈ params) : Addressable c := by
  rw [findRoute] at h
  split at h
  · rename_i found hfound
    obtain ⟨r, -, hr⟩ := List.exists_of_findSome?_eq_some hfound
    obtain rfl := Except.ok.inj h
    split_ifs at hr
    obtain ⟨params', hparams, heq⟩ := Option.map_eq_some_iff.1 hr
    obtain ⟨-, rfl⟩ := Prod.mk.inj heq
    exact addressable_of_params hparams hc
  · split_ifs at h

/-- The input names a container in its path. -/
def ServiceInput.byPath : ServiceInput R → Option String
  | .getModelMeta c => some c
  | .deleteModel c => some c
  | .getModelStats c => some c
  | _ => none

/-- A container that a handler gets from the path is a path parameter. -/
theorem mem_of_input [Field R] {now : Int} {q : Query R} {b : Payload R} {endpoint : Endpoint}
    {params : List String} {i : ServiceInput R} (h : endpoint.input now q b params = some i)
    {c : String} (hc : i.byPath = some c) : c ∈ params := by
  have hpath : ∀ f : String → ServiceInput R, (∀ k, (f k).byPath = some k) →
      (params.head?.map f = some i) → c ∈ params := by
    intro f hf hi
    obtain ⟨k, hk, rfl⟩ := Option.map_eq_some_iff.1 hi
    rw [hf, Option.some.injEq] at hc
    exact List.mem_of_mem_head? (hc ▸ hk)
  cases endpoint with
  | getModelMeta =>
      refine hpath .getModelMeta (fun _ => rfl) ?_
      cases params <;> exact h
  | deleteModel =>
      refine hpath .deleteModel (fun _ => rfl) ?_
      cases params <;> exact h
  | getModelStats =>
      refine hpath .getModelStats (fun _ => rfl) ?_
      cases params <;> exact h
  | scoreWindow =>
      obtain ⟨k, -, hv⟩ := Option.bind_eq_some_iff.1 h
      obtain ⟨v, -, rfl⟩ := Option.map_eq_some_iff.1 hv
      cases hc
  | trainModel =>
      obtain ⟨k, -, hdata⟩ := Option.bind_eq_some_iff.1 h
      obtain ⟨data, -, rfl⟩ := Option.map_eq_some_iff.1 hdata
      cases hc
  | enableSimulation =>
      obtain ⟨k, -, hscore⟩ := Option.bind_eq_some_iff.1 h
      obtain ⟨score, -, hflag⟩ := Option.bind_eq_some_iff.1 hscore
      obtain ⟨anomalous, -, rfl⟩ := Option.map_eq_some_iff.1 hflag
      cases hc
  | health =>
      obtain rfl := Option.some.inj h
      cases hc
  | apiHealth =>
      obtain rfl := Option.some.inj h
      cases hc
  | listModels =>
      obtain rfl := Option.some.inj h
      cases hc
  | disableSimulation =>
      obtain rfl := Option.some.inj h
      cases hc
  | getSimulationStatus =>
      obtain rfl := Option.some.inj h
      cases hc

theorem addressable_of_receive [Field R] {now : Int} {r : HttpRequest R} {i : ServiceInput R}
    (h : receive now r = .ok i) {c : String} (hc : i.byPath = some c) : Addressable c := by
  rw [receive] at h
  split at h
  · cases h
  · rename_i found hfound
    obtain ⟨endpoint, params⟩ := found
    split at h
    · rename_i i' hinput
      obtain rfl := Except.ok.inj h
      exact addressable_of_findRoute hfound (mem_of_input hinput hc)
    · cases h

/-- The pieces of a path below `/api/ml/models/`. -/
theorem splitOn_models (c : String) :
    ("/api/ml/models/" ++ c).toList.splitOn '/' =
      [] :: "api".toList :: "ml".toList :: "models".toList :: c.toList.splitOn '/' := by
  have hpath : ("/api/ml/models/" ++ c).toList =
      [] ++ '/' :: ("api".toList ++ '/' :: ("ml".toList ++ '/' :: ("models".toList ++ '/' ::
        c.toList))) := by
    rw [String.toList_append]
    rfl
  rw [hpath, List.splitOn_append_cons_self_of_not_mem (by decide),
    List.splitOn_append_cons_self_of_not_mem (by decide),
    List.splitOn_append_cons_self_of_not_mem (by decide),
    List.splitOn_append_cons_self_of_not_mem (by decide)]

/-- The routes with their segments. -/
def routeTable : List (HttpMethod × List (Segment Char) × Endpoint) :=
  routes.map fun r => (r.method, pattern r.path, r.endpoint)

theorem routeTable_eq : routeTable =
    [(.get, [.text [], .text "health".toList], .health),
      (.get, [.text [], .text "api".toList, .text "health".toList], .apiHealth),
      (.post, [.text [], .text "api".toList, .text "ml".toList, .text "score".toList],
        .scoreWindow),
      (.post, [.text [], .text "api".toList, .text "ml".toList, .text "train".toList], .trainModel),
      (.get, [.text [], .text "api".toList, .text "ml".toList, .text "models".toList, .parameter],
        .getModelMeta),
      (.get, [.text [], .text "api".toList, .text "ml".toList, .text "models".toList], .listModels),
      (.delete,
        [.text [], .text "api".toList, .text "ml".toList, .text "models".toList, .parameter],
        .deleteModel),
      (.get, [.text [], .text "api".toList, .text "ml".toList, .text "models".toList, .parameter,
        .text "stats".toList], .getModelStats),
      (.post, [.text [], .text "api".toList, .text "demo".toList, .text "simulate".toList],
        .enableSimulation),
      (.post, [.text [], .text "api".toList, .text "demo".toList, .text "simulate".toList,
        .text "disable".toList], .disableSimulation),
      (.get, [.text [], .text "api".toList, .text "demo".toList, .text "simulate".toList,
        .text "status".toList], .getSimulationStatus)] := rfl

/-- The routes that match a path, whatever the method is. -/
def matching (pieces : List (List Char)) : List (HttpMethod × Endpoint × List String) :=
  routeTable.filterMap fun e =>
    (matchSegments e.2.1 pieces).map fun args => (e.1, e.2.2, args.map String.ofList)

/-- The first of them with the right method decides. -/
def decideRoute (method : HttpMethod) (found : List (HttpMethod × Endpoint × List String)) :
    Except Rejection (Endpoint × List String) :=
  match found.find? fun e => decide (e.1 = method) with
  | some e => .ok e.2
  | none => if found = [] then .error .notFound else .error .methodNotAllowed

/-- The matching routes of a list of routes. -/
def Route.found (path : String) (r : Route) : Option (HttpMethod × Endpoint × List String) :=
  (r.params path).map fun params => (r.method, r.endpoint, params)

theorem findSome?_params (method : HttpMethod) (path : String) (rs : List Route) :
    (rs.findSome? fun r =>
        if r.method = method then (r.params path).map fun params => (r.endpoint, params)
        else none) =
      ((rs.filterMap (Route.found path)).find? fun e => decide (e.1 = method)).map Prod.snd := by
  induction rs with
  | nil => rfl
  | cons r rs ih =>
      rw [List.findSome?_cons, List.filterMap_cons, Route.found]
      cases r.params path with
      | none => simpa using ih
      | some params =>
          by_cases hm : r.method = method
          · simp [hm]
          · simpa [hm] using ih

theorem any_params (path : String) (rs : List Route) :
    (rs.any fun r => (r.params path).isSome) = !(rs.filterMap (Route.found path)).isEmpty := by
  induction rs with
  | nil => rfl
  | cons r rs ih =>
      rw [List.any_cons, List.filterMap_cons, ih, Route.found]
      cases r.params path <;> rfl

theorem findRoute_eq (method : HttpMethod) (path : String) :
    findRoute method path = decideRoute method (matching (path.toList.splitOn '/')) := by
  have hmatching : routes.filterMap (Route.found path) = matching (path.toList.splitOn '/') := by
    rw [matching, routeTable, List.filterMap_map]
    refine List.filterMap_congr fun r _ => ?_
    rw [Route.found, Route.params, Option.map_map]
    rfl
  rw [findRoute, decideRoute, findSome?_params, any_params, hmatching]
  cases (matching (path.toList.splitOn '/')).find? fun e => decide (e.1 = method) with
  | some e => rfl
  | none => cases matching (path.toList.splitOn '/') <;> rfl

/-- What a path below `/api/ml/models/` is about: a name is a container, a name with `/stats` behind
it asks for its statistics, and nothing else is matched. -/
theorem matching_models (c : String) :
    matching (("/api/ml/models/" ++ c).toList.splitOn '/') =
      match c.toList.splitOn '/' with
      | [x] =>
          if x = [] then []
          else
            [(.get, .getModelMeta, [String.ofList x]), (.delete, .deleteModel, [String.ofList x])]
      | [x, y] =>
          if x ≠ [] ∧ y = "stats".toList then [(.get, .getModelStats, [String.ofList x])] else []
      | _ => [] := by
  have hapi : "health".toList ≠ "api".toList := by decide
  have hml : "health".toList ≠ "ml".toList ∧ "demo".toList ≠ "ml".toList := by decide
  have hmodels : "score".toList ≠ "models".toList ∧ "train".toList ≠ "models".toList := by decide
  rw [matching, splitOn_models, routeTable_eq]
  -- the letters of the words do not matter from here on
  generalize "health".toList = health at *
  generalize "api".toList = api at *
  generalize "ml".toList = ml at *
  generalize "demo".toList = demo at *
  generalize "score".toList = score at *
  generalize "train".toList = train at *
  generalize "models".toList = models at *
  generalize "stats".toList = stats at *
  rcases hpieces : c.toList.splitOn '/' with _ | ⟨x, _ | ⟨y, _ | ⟨z, rest⟩⟩⟩
  · exact absurd hpieces (List.splitOn_ne_nil _ _)
  · by_cases hx : x = []
    · simp [matchSegments, hx, hapi, hml, hmodels]
    · simp [matchSegments, hx, hapi, hml, hmodels]
  · by_cases hx : x = []
    · simp [matchSegments, hx, hapi, hml, hmodels]
    · by_cases hy : stats = y
      · simp [matchSegments, hx, hy, hapi, hml, hmodels]
      · simp [matchSegments, hx, hy, Ne.symm hy, hapi, hml, hmodels]
  · simp [matchSegments, hapi, hml, hmodels]

theorem findRoute_delete_model {c : String} (h : Addressable c) :
    findRoute .delete ("/api/ml/models/" ++ c) = .ok (.deleteModel, [c]) := by
  have hne : c.toList ≠ [] := fun hnil => h.1 (String.toList_eq_nil_iff.1 hnil)
  rw [findRoute_eq, matching_models, List.splitOn_eq_singleton h.2]
  simp [decideRoute, hne]

/-- The models that a request can delete. -/
theorem deletable_iff [Field R] (c : String) :
    (∃ now, ∃ r : HttpRequest R, receive now r = .ok (.deleteModel c)) ↔ Addressable c := by
  constructor
  · rintro ⟨now, r, h⟩
    exact addressable_of_receive h rfl
  · intro h
    refine ⟨0, { method := .delete, path := "/api/ml/models/" ++ c }, ?_⟩
    rw [receive, findRoute_delete_model h]
    rfl

/-! ## Runs -/

/-- A request at some time, or a restart of the process. -/
inductive Arrival (R : Type)
  | request (now : Int) (r : HttpRequest R)
  | restart

/-- What reaches a handler. -/
def Arrival.input [Field R] : Arrival R → Option (ServiceInput R)
  | .request now r => (receive now r).toOption
  | .restart => some .restart

/-- The inputs of the handlers. -/
def inputsOf [Field R] (arrivals : List (Arrival R)) : List (ServiceInput R) :=
  arrivals.filterMap Arrival.input

theorem addressable_of_mem_inputsOf [Field R] {arrivals : List (Arrival R)} {i : ServiceInput R}
    (h : i ∈ inputsOf arrivals) {c : String} (hc : i.byPath = some c) : Addressable c := by
  obtain ⟨arrival, -, hi⟩ := List.mem_filterMap.1 h
  cases arrival with
  | request now r =>
      rw [Arrival.input] at hi
      cases hreceive : receive now r with
      | error e =>
          rw [hreceive] at hi
          cases hi
      | ok j =>
          rw [hreceive] at hi
          obtain rfl := Option.some.inj hi
          exact addressable_of_receive hreceive hc
  | restart =>
      obtain rfl := Option.some.inj hi
      cases hc

/-- The container whose model an input is about. -/
def ServiceInput.named : ServiceInput R → Option String
  | .scoreWindow c _ => some c
  | .trainModel c _ _ => some c
  | i => i.byPath

/-- A training of a container that was answered 200. -/
def trainedOk (c : String) : ServiceInput R × Answer R → Bool
  | (.trainModel k _ _, .ok (.trained _ _ _ _ _ _)) => decide (k = c)
  | _ => false

theorem countP_trainedOk_of_ne {i : ServiceInput R} (hi : ∀ k data now, i ≠ .trainModel k data now)
    (c : String) (answer : Answer R) : [(i, answer)].countP (trainedOk c) = 0 := by
  rw [List.countP_singleton]
  cases i with
  | trainModel k data now => exact absurd rfl (hi k data now)
  | _ => rfl

theorem named_of_forward {featureVectorDim : Nat} {s : SimulationState R} {i : ServiceInput R}
    {op : Op (List R)} (h : forward featureVectorDim s i = some op) {k : String}
    (hk : op.container = some k) : i.named = some k := by
  cases i with
  | scoreWindow c v =>
      rw [forward] at h
      split_ifs at h
      obtain rfl := Option.some.inj h
      exact hk
  | trainModel c data now =>
      rw [forward] at h
      split_ifs at h
      obtain rfl := Option.some.inj h
      exact hk
  | getModelMeta c =>
      obtain rfl := Option.some.inj h
      exact hk
  | deleteModel c =>
      obtain rfl := Option.some.inj h
      exact hk
  | getModelStats c =>
      obtain rfl := Option.some.inj h
      exact hk
  | listModels =>
      obtain rfl := Option.some.inj h
      cases hk
  | restart =>
      obtain rfl := Option.some.inj h
      cases hk
  | health => cases h
  | enableSimulation c sim => cases h
  | disableSimulation c => cases h
  | getSimulationStatus => cases h

section Runs

variable [Field R] [LT R] [DecidableLT R]
variable {sk : Sklearn (List R) F R} (hfit : FitsSucceed sk) (anomalyThreshold : R)
variable (featureVectorDim : Nat) (failures : Failures F R)

/-- The answer to a training tells whether the registry was trained. -/
theorem trainedOk_trainModel (s : Service F R) (c k : String) (data : List (List R)) (now : Int)
    (hvalid : validateTrainingData featureVectorDim data = none) (n : Nat) :
    countTraining c n (.train k data now,
        (s.registry.apply sk anomalyThreshold (.train k data now)).2) =
      n + [((.trainModel k data now : ServiceInput R), (s.handle sk anomalyThreshold
        featureVectorDim failures (.trainModel k data now)).2)].countP (trainedOk c) := by
  cases hres : (s.registry.trainModel sk k data now).2 with
  | ok answer =>
      simp only [Service.handle, trainModel, hvalid, ModelRegistry.apply, hres, countTraining,
        List.countP_singleton, trainedOk, decide_eq_true_eq]
      split_ifs <;> rfl
  | error e =>
      have hfailed : ∀ failure : Failure, trainedOk c
          ((.trainModel k data now : ServiceInput R), trainingFailed failure) = false := by
        intro failure
        rw [trainingFailed]
        split_ifs <;> rfl
      simp only [Service.handle, trainModel, hvalid, ModelRegistry.apply, hres, countTraining,
        List.countP_singleton, hfailed, Bool.false_eq_true, if_false, Nat.add_zero]

include hfit

/-- An input that does not delete the model adds its training to the count. -/
theorem Counted.handle {s : Service F R} {c : String} {n : Nat} (h : Counted (s.registry.cell c) n)
    {i : ServiceInput R} (hdelete : i ≠ .deleteModel c)
    (hfile : ∀ k, i.named = some k → k ≠ c → modelPath k ≠ modelPath c) :
    Counted ((s.handle sk anomalyThreshold featureVectorDim failures i).1.registry.cell c)
      (n + [(i, (s.handle sk anomalyThreshold featureVectorDim failures i).2)].countP
        (trainedOk c)) := by
  have happly : ∀ op, forward featureVectorDim s.simulation i = some op →
      Counted ((s.registry.apply sk anomalyThreshold op).1.cell c)
        (countTraining c n (op, (s.registry.apply sk anomalyThreshold op).2)) :=
    fun op hop => h.apply hfit anomalyThreshold fun k hk => hfile k (named_of_forward hop hk)
  rw [handle_fst]
  cases i with
  | trainModel k data now =>
      by_cases hvalid : validateTrainingData featureVectorDim data = none
      · have hop : forward featureVectorDim s.simulation (.trainModel k data now) =
            some (.train k data now) := if_pos hvalid
        rw [hop, ← trainedOk_trainModel anomalyThreshold featureVectorDim failures s c k data now
          hvalid n]
        exact happly _ hop
      · -- the answer is that of the schema
        have hop : forward featureVectorDim s.simulation (.trainModel k data now) = none :=
          if_neg hvalid
        obtain ⟨message, hmessage⟩ := Option.ne_none_iff_exists'.1 hvalid
        rw [hop]
        simp only [Service.handle, trainModel, hmessage, List.countP_singleton, trainedOk]
        exact h
  | deleteModel k =>
      have hnext := happly (.delete k) rfl
      have hk : (Op.delete k : Op (List R)).container ≠ some c :=
        fun heq => hdelete (by rw [Option.some.inj heq])
      rw [countTraining_of_ne _ hk] at hnext
      rw [countP_trainedOk_of_ne (by simp)]
      exact hnext
  | scoreWindow k v =>
      rw [countP_trainedOk_of_ne (by simp)]
      by_cases hop : v.length = featureVectorDim ∧ s.simulation.simulated k = none
      · have hforward : forward featureVectorDim s.simulation (.scoreWindow k v) =
            some (.score k v) := if_pos hop
        rw [hforward]
        exact happly _ hforward
      · have hforward : forward featureVectorDim s.simulation (.scoreWindow k v) = none :=
          if_neg hop
        rw [hforward]
        exact h
  | getModelMeta k =>
      rw [countP_trainedOk_of_ne (by simp)]
      exact happly (.getMeta k) rfl
  | getModelStats k =>
      rw [countP_trainedOk_of_ne (by simp)]
      exact happly (.getMeta k) rfl
  | listModels =>
      rw [countP_trainedOk_of_ne (by simp)]
      exact happly .list rfl
  | restart =>
      rw [countP_trainedOk_of_ne (by simp)]
      exact happly .restart rfl
  | health => exact h
  | enableSimulation k sim => exact h
  | disableSimulation k => exact h
  | getSimulationStatus => exact h

omit [Field R] [LT R] [DecidableLT R] hfit in
/-- The file of a model with trainings. -/
theorem Counted.on_disk {cell : Cell F} {n : Nat} (h : Counted cell n) (hn : 0 < n) :
    ∃ m, cell.disk = some m ∧ m.isFitted = true ∧ m.version = n := by
  cases h with
  | untrained h => exact absurd hn (Nat.lt_irrefl 0)
  | trained hversion hfitted h => exact ⟨_, rfl, hfitted, rfl⟩

/-- The trainings of a container that were answered 200. -/
def trainings (c : String) (record : List (ServiceInput R × Answer R)) : Nat :=
  record.countP (trainedOk c)

theorem counted_serviceAfter {s : Service F R} {c : String} {n : Nat}
    (h : Counted (s.registry.cell c) n) {is : List (ServiceInput R)}
    (hdelete : .deleteModel c ∉ is)
    (hfile : ∀ i ∈ is, ∀ k, i.named = some k → k ≠ c → modelPath k ≠ modelPath c) :
    Counted ((serviceAfter sk anomalyThreshold featureVectorDim failures s is).registry.cell c)
      (n + trainings c (serviceRecord sk anomalyThreshold featureVectorDim failures s is)) := by
  induction is generalizing s n with
  | nil => exact h
  | cons i is ih =>
      rw [List.mem_cons, not_or] at hdelete
      have hnext := h.handle hfit anomalyThreshold featureVectorDim failures (Ne.symm hdelete.1)
        (hfile i List.mem_cons_self)
      have hrest := ih hnext hdelete.2 fun j hj => hfile j (List.mem_cons_of_mem i hj)
      rw [serviceAfter, finalState_cons, serviceRecord, outputs_cons, trainings, List.countP_append,
        ← Nat.add_assoc]
      exact hrest

/-- Requests can delete exactly the models whose names fit into a piece of a path. A model with
another name is never asked for or deleted through a path, whatever requests arrive, and its file
has as its version the number of its trainings, as long as no other container has the same file. -/
theorem slashed_model_kept (arrivals : List (Arrival R)) :
    (∀ c, (∃ now, ∃ r : HttpRequest R, receive now r = .ok (.deleteModel c)) ↔ Addressable c) ∧
      ∀ c, ¬ Addressable c →
        (∀ i ∈ inputsOf arrivals, i.byPath ≠ some c) ∧
        ((∀ i ∈ inputsOf arrivals, ∀ k, i.named = some k → k ≠ c → modelPath k ≠ modelPath c) →
          0 < trainings c (serviceRecord sk anomalyThreshold 594 failures (.start Table.empty)
            (inputsOf arrivals)) →
          ∃ m, (serviceAfter sk anomalyThreshold 594 failures (.start Table.empty)
              (inputsOf arrivals)).registry.disk.find? (modelPath c) = some m ∧ m.isFitted = true ∧
            m.version = trainings c (serviceRecord sk anomalyThreshold 594 failures
              (.start Table.empty) (inputsOf arrivals))) := by
  refine ⟨deletable_iff, fun c hc => ⟨fun i hi heq => ?_, fun hfile hpos => ?_⟩⟩
  · exact hc (addressable_of_mem_inputsOf hi heq)
  · have hstart : Counted ((Service.start Table.empty : Service F R).registry.cell c) 0 :=
      .untrained fun m hm => nomatch hm
    have hcount := counted_serviceAfter hfit anomalyThreshold 594 failures hstart
      (fun hi => hc (addressable_of_mem_inputsOf hi rfl)) hfile
    rw [Nat.zero_add] at hcount
    exact hcount.on_disk hpos

end Runs

/-- A pod is trained, a request tries to delete its model, and the process is restarted. -/
def keptArrivals : List (Arrival ℚ) :=
  [.request 0
      { method := .post
        path := "/api/ml/train"
        payload :=
          { containerId := some "prod/api"
            trainingData := some (List.replicate 10 (List.replicate 594 0)) } },
    .request 1 { method := .delete, path := "/api/ml/models/prod/api" }, .restart]

theorem slashed_model_kept_prodApi :
    ∃ m, (serviceAfter rememberingForest (-65 / 100) 594 silentFailures (.start Table.empty)
        (inputsOf keptArrivals)).registry.disk.find? "prod_api.pkl" = some m ∧
      m.isFitted = true ∧ m.version = 1 := by
  have hinputs : inputsOf keptArrivals =
      [.trainModel "prod/api" (List.replicate 10 (List.replicate 594 0)) 0, .restart] := by
    rfl
  have hcount : trainings "prod/api" (serviceRecord rememberingForest (-65 / 100) 594
      silentFailures (.start Table.empty) (inputsOf keptArrivals)) = 1 := by
    rw [hinputs]
    decide +kernel
  obtain ⟨m, hm, hfitted, hversion⟩ :=
    ((slashed_model_kept rememberingForest_fitsSucceed (-65 / 100) silentFailures
      keptArrivals).2 "prod/api" (by decide)).2 (fun i hi k hk hne => by
        rw [hinputs] at hi
        simp only [List.mem_cons, List.not_mem_nil, or_false] at hi
        rcases hi with rfl | rfl
        · exact absurd (Option.some.inj hk).symm hne
        · cases hk) (by rw [hcount]; decide)
  have hpath : modelPath "prod/api" = "prod_api.pkl" := by decide
  rw [hpath] at hm
  refine ⟨m, ?_, hfitted, ?_⟩
  · convert hm
  · rw [hversion]
    convert hcount

end DeepKernel.Ml
