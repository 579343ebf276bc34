import DeepKernel.Server.HybridAdapter
import DeepKernel.Server.Ingest

/-!
# The remote scorer and the fallback

`RemoteMlAdapter` over the outcome of its HTTP exchange, and the operations of `HybridAnomalyAdapter`
composed with it. The hybrid adapter falls back when the remote one throws. `scoreWindow` and
`trainModel` throw whenever the exchange fails; `getModelMeta` describes an unknown model instead,
so the two failures look different from the outside.
-/

set_option autoImplicit false

namespace DeepKernel.Server

open DeepKernel.Lib

/-! ## The exchange -/

/-- The outcome of an HTTP call of `RestTemplate`: no reply, or a status with a body, which is null
when it is empty. -/
inductive Exchange
  | noReply
  | reply (status : Nat) (body : Option String)
  deriving DecidableEq

/-- The conversions of `JsonNode` to `int` and to `boolean`. -/
structure JsonValues (R : Type) where
  asInt : JsonNode R → Int32
  asBoolean : JsonNode R → Bool → Bool

section Remote

variable {R : Type}

/-- The tree that an operation reads from the reply, `none` if something throws before it is read:
`RestTemplate` without a reply or for an error status, or `readTree` for a null or malformed
body. -/
def readReply (p : Platform R) : Exchange → Option (JsonNode R)
  | .noReply => none
  | .reply status body =>
      if 400 ≤ status then none else body.bind fun text => (p.readTree text).toOption

namespace RemoteMlAdapter

variable (p : Platform R) (values : JsonValues R)

/-- `scoreWindow`, `none` if it throws. -/
def scoreWindow [Zero R] [One R] (exchange : Exchange) : Option (AnomalyScore R) :=
  (readReply p exchange).map fun root =>
    { score := (root.path "score").asDoubleOr p 0
      anomalous := values.asBoolean (root.path "anomalous") false }

/-- `trainModel`: whether it throws. -/
def trainModel (exchange : Exchange) : Bool := (readReply p exchange).isNone

/-- `ModelStatus.valueOf`, with the default of `getModelMeta`. -/
def statusOfName (name : String) : ModelStatus :=
  if name = "READY" then .ready
  else if name = "TRAINING" then .training
  else if name = "ERROR" then .error
  else .untrained

/-- `getModelMeta`. Both handlers for exceptions return a description. -/
def getModelMeta (containerId : String) (exchange : Exchange) : ModelMeta :=
  match readReply p exchange with
  | some root =>
      { modelId := (root.path "model_id").asText
        containerId := containerId
        version := values.asInt (root.path "version")
        featureVersion := (root.path "feature_version").asTextOr "v1"
        status := statusOfName ((root.path "status").asTextOr "UNTRAINED") }
  | none => ModelRegistry.unsetMeta containerId

end RemoteMlAdapter

end Remote

/-! ## The composition -/

/-- An operation of the hybrid adapter that returns something. -/
inductive Reading (R : Type)
  | scoreWindow (values : List R)
  | getModelMeta

section Fallback

variable {R : Type} [Field R] [LinearOrder R] (p : Platform R) (values : JsonValues R)

/-- `scoreWindow` of the hybrid adapter over the exchange of the remote one. -/
def hybridScoreWindow (a : HybridAdapter R) (containerId : String) (vector : List R)
    (env : CallEnv) (exchange : Exchange) :
    HybridAdapter R × List (HybridEvent R) × AnomalyScore R :=
  a.scoreWindow containerId vector env (RemoteMlAdapter.scoreWindow p values exchange)

omit [Field R] [LinearOrder R] in
/-- `getModelMeta` of the hybrid adapter over the exchange of the remote one. -/
def hybridGetModelMeta (a : HybridAdapter R) (containerId : String) (env : CallEnv)
    (exchange : Exchange) : HybridAdapter R × List (HybridEvent R) × Option ModelMeta :=
  a.getModelMeta containerId env (some (RemoteMlAdapter.getModelMeta p values containerId exchange))

/-- The operation returns what the local adapter returns, and the remote counts as unavailable
afterwards. -/
def FallsBack (a : HybridAdapter R) (containerId : String) (env : CallEnv) (exchange : Exchange) :
    Reading R → Prop
  | .scoreWindow vector =>
      (hybridScoreWindow p values a containerId vector env exchange).2.2 =
          a.localAdapter.scoreWindow containerId vector ∧
        (hybridScoreWindow p values a containerId vector env exchange).1.remoteAvailable = false
  | .getModelMeta =>
      (hybridGetModelMeta p values a containerId env exchange).2.2 =
          a.localAdapter.getModelMeta containerId ∧
        (hybridGetModelMeta p values a containerId env exchange).1.remoteAvailable = false

omit [Field R] [LinearOrder R] in
/-- When the remote is chosen, the attempt to use it ends the availability exactly if it throws. -/
theorem tryRemote_of_chosen {a : HybridAdapter R} {env : CallEnv}
    (hchosen : (a.shouldUseRemote env).2.2 = true) (threw : Bool) :
    (a.tryRemote env threw).2.2 = true ∧
      ((a.tryRemote env threw).1.remoteAvailable = !threw) := by
  have havailable : (a.shouldUseRemote env).1.remoteAvailable = true := by
    unfold HybridAdapter.shouldUseRemote at hchosen ⊢
    split at hchosen
    · rename_i hprefer
      rw [if_pos hprefer]
      exact hchosen
    · cases hchosen
  rw [HybridAdapter.tryRemote]
  simp only [if_pos hchosen]
  cases threw with
  | true => exact ⟨trivial, rfl⟩
  | false => exact ⟨trivial, havailable⟩

/-- When the remote is chosen and its exchange fails, `scoreWindow` falls back. -/
theorem fallsBack_scoreWindow {a : HybridAdapter R} {env : CallEnv}
    (hchosen : (a.shouldUseRemote env).2.2 = true) {exchange : Exchange}
    (hfails : readReply p exchange = none) (containerId : String) (vector : List R) :
    FallsBack p values a containerId env exchange (.scoreWindow vector) := by
  have hthrows : RemoteMlAdapter.scoreWindow p values exchange = none := by
    rw [RemoteMlAdapter.scoreWindow, hfails, Option.map_none]
  have hlocal := (tryRemote_spec a env true).1
  obtain ⟨-, havailable⟩ := tryRemote_of_chosen hchosen true
  rw [FallsBack, hybridScoreWindow, hthrows, HybridAdapter.scoreWindow]
  simp only [Option.isNone_none, Option.getD_none, ite_self, hlocal]
  exact ⟨trivial, havailable⟩

omit [Field R] [LinearOrder R] in
/-- When the remote is chosen, `getModelMeta` leaves it available, whatever its exchange was. -/
theorem remoteAvailable_hybridGetModelMeta {a : HybridAdapter R} {env : CallEnv}
    (hchosen : (a.shouldUseRemote env).2.2 = true) (containerId : String) (exchange : Exchange) :
    (hybridGetModelMeta p values a containerId env exchange).1.remoteAvailable = true :=
  (tryRemote_of_chosen hchosen false).2

/-- When the remote is chosen and its exchange fails, `scoreWindow` falls back and `getModelMeta`
does not. -/
theorem falls_back_iff (a : HybridAdapter R) (env : CallEnv)
    (hchosen : (a.shouldUseRemote env).2.2 = true) (exchange : Exchange)
    (hfails : readReply p exchange = none) (containerId : String) (op : Reading R) :
    FallsBack p values a containerId env exchange op ↔ ∃ vector, op = .scoreWindow vector := by
  cases op with
  | scoreWindow vector =>
      refine iff_of_true ?_ ⟨vector, rfl⟩
      exact fallsBack_scoreWindow p values hchosen hfails containerId vector
  | getModelMeta =>
      refine iff_of_false ?_ fun h => nomatch h
      rintro ⟨-, hunavailable⟩
      rw [remoteAvailable_hybridGetModelMeta p values hchosen] at hunavailable
      cases hunavailable

end Fallback

/-! ## A refused connection -/

/-- Conversions for a reply without numbers and flags. -/
def noValues : JsonValues ℚ := ⟨fun _ => 0, fun _ default => default⟩

/-- An adapter whose last health check was at time 0 and found the remote available. -/
def availableAdapter : HybridAdapter ℚ := ⟨true, true, 0, .init⟩

/-- A window is scored by the local adapter when the connection is refused. -/
theorem falls_back_refused_connection :
    FallsBack examplePlatform noValues availableAdapter "prod/api" ⟨0, 0, true⟩ .noReply
      (.scoreWindow [1 / 2, 1 / 2, 3]) :=
  (falls_back_iff examplePlatform noValues availableAdapter ⟨0, 0, true⟩ (by decide) .noReply rfl
    "prod/api" (.scoreWindow [1 / 2, 1 / 2, 3])).2 ⟨[1 / 2, 1 / 2, 3], rfl⟩

/-- The metadata come from the remote adapter when the connection is refused, and the remote stays
available. -/
theorem get_model_meta_does_not_fall_back :
    ¬ FallsBack examplePlatform noValues availableAdapter "prod/api" ⟨0, 0, true⟩ .noReply
      .getModelMeta := by
  rintro ⟨hmeta, -⟩
  revert hmeta
  decide

end DeepKernel.Server
