import DeepKernel.Lib.Binary64
import DeepKernel.Server.LlmReply

/-!
# Triage and policies

`GeminiTriageAdapter.triage` with its two paths, the language model and the heuristics, and
`DefaultPolicyGenerator.generatePolicy`. Scores are elements of a type with the operations that the
source uses on `double`: that type itself, or an ordered field for exact arithmetic. An instant is a
number, for a window that of its milliseconds. The prompt is left out, since the reply to it is
arbitrary; what is left of `buildPrompt` is that it throws.
-/

set_option autoImplicit false

namespace DeepKernel.Server

open DeepKernel.Lib (Math)

/-! ## Records -/

/-- `TriageStatus`. -/
inductive TriageStatus
  | pending
  | safe
  | threat
  | unknown
  deriving DecidableEq

/-- `AnomalyWindow`. -/
structure AnomalyWindow (R : Type) where
  id : String
  containerId : String
  windowStart : Int
  windowEnd : Int
  mlScore : R
  anomalous : Bool
  triageStatus : TriageStatus
  triageResultId : Option String
  deriving DecidableEq

/-- `ChangeContext`. The list of files is `none` when `String.join` throws on it: when it is null,
or when an element came as something else than a string. -/
structure ChangeContext where
  containerId : String
  commitId : String
  repoUrl : String
  changedFiles : Option (List String)
  diffSummary : Option String
  deployedAt : Option Int
  deriving DecidableEq

/-- `TriageResult`. -/
structure TriageResult (R : Type) where
  id : String
  containerId : String
  windowId : String
  riskScore : R
  verdict : String
  explanation : String
  llmResponseRaw : Option String
  deriving DecidableEq

/-- `PolicyType`. -/
inductive PolicyType
  | seccomp
  | apparmor
  | networkPolicy
  deriving DecidableEq

/-- `PolicyStatus`. -/
inductive PolicyStatus
  | pending
  | applied
  | failed
  deriving DecidableEq

/-- `Policy`; the `spec` is a JSON object. -/
structure Policy (R : Type) where
  id : String
  containerId : String
  type : PolicyType
  spec : JsonNode R
  appliedAt : Int
  node : Option String
  status : PolicyStatus

variable {R : Type}

/-! ## Heuristics -/

/-- The window has a recent deployment that explains it. -/
def hasRecentDeploy (changeContext : Option ChangeContext) : Bool :=
  (changeContext.bind ChangeContext.deployedAt).isSome

/-- The explanation for a window after a deployment; `none` if `String.join` throws. -/
def deployExplanation (changeContext : ChangeContext) : Option String :=
  changeContext.changedFiles.map fun files =>
    "Anomalous behavior detected but correlates with recent deployment (commit " ++
      changeContext.commitId ++ "). Changed files: " ++ ", ".intercalate files ++
      ". Recommend monitoring but likely legitimate."

section Scores

variable [OfScientific R] [Mul R] [LT R] [DecidableLT R] [Math R]

/-- `triageWithHeuristics`, `none` if it throws. -/
def triageWithHeuristics (p : Platform R) (window : AnomalyWindow R)
    (changeContext : Option ChangeContext) : Option (Assessment R) :=
  let mlScore := Math.abs window.mlScore
  if !window.anomalous then
    some ⟨Math.max 0.1 (mlScore * 0.3), "SAFE",
      "Syscall patterns within normal behavioral baseline.", none⟩
  else if hasRecentDeploy changeContext then
    -- Flagged, but the deployment is the likely cause.
    (changeContext.bind deployExplanation).map fun explanation =>
      ⟨Math.min 0.5 (mlScore * 0.6), "SAFE", explanation, none⟩
  else if 0.8 < mlScore then
    some ⟨Math.min 0.95 mlScore, "THREAT",
      "High anomaly score (" ++ p.format mlScore ++ ") with no recent code changes to explain " ++
        "behavior. Syscall patterns deviate significantly from baseline. Recommend immediate " ++
        "investigation.", none⟩
  else if 0.5 < mlScore then
    some ⟨mlScore * 0.8, "THREAT",
      "Moderate anomaly score (" ++ p.format mlScore ++ ") detected. Unusual syscall patterns " ++
        "observed. No deployment context available. Recommend policy enforcement.", none⟩
  else
    -- Flagged with a low score.
    some ⟨mlScore * 0.5, "SAFE",
      "Low anomaly score; flagged but within acceptable variance. Monitoring only.", none⟩

/-- The heuristics throw only when there is a deployment whose files cannot be joined. -/
theorem isSome_triageWithHeuristics (p : Platform R) (window : AnomalyWindow R)
    {changeContext : Option ChangeContext}
    (h : ∀ context, changeContext = some context → context.deployedAt.isSome →
      context.changedFiles.isSome) :
    (triageWithHeuristics p window changeContext).isSome := by
  rw [triageWithHeuristics]
  split
  · rfl
  · split
    · rename_i hdeploy
      cases changeContext with
      | none => cases hdeploy
      | some context =>
          -- the explanation joins the changed files, which throws for null
          obtain ⟨files, hfiles⟩ := Option.isSome_iff_exists.1 (h context rfl hdeploy)
          simp [deployExplanation, hfiles]
    · split
      · rfl
      · split
        · rfl
        · rfl

end Scores

/-! ## The language model -/

/-- The configuration of the language model and the answers of its two endpoints: `none` if the
call throws, `some none` for an empty reply. -/
structure LlmEnv where
  llmEnabled : Bool
  apiKey : Option String
  v1beta : Option (Option String)
  v1 : Option (Option String)

/-- The language model is asked: it is enabled and there is a key. -/
def LlmEnv.active (p : Platform R) (llm : LlmEnv) : Bool :=
  llm.llmEnabled && llm.apiKey.any fun key => !p.isBlank key

/-- `buildPrompt` does not throw. -/
def promptBuilds (changeContext : Option ChangeContext) : Bool :=
  changeContext.all fun context => context.changedFiles.isSome

section Replies

variable [OfNat R 0] [OfNat R 1] [OfScientific R]

/-- `triageWithGemini`, `none` if it throws. -/
def triageWithGemini (p : Platform R) (llm : LlmEnv) (changeContext : Option ChangeContext) :
    Option (Assessment R) :=
  if promptBuilds changeContext then
    match llm.v1beta with
    | some response => some (parseGeminiResponse p response)
    -- The second endpoint is tried when the first one throws; its exception goes to `triage`.
    | none => llm.v1.map (parseGeminiResponse p)
  else none

variable [Mul R] [LT R] [DecidableLT R] [Math R]

/-- The choice of the path in `triage`, `none` if it throws. -/
def assess (p : Platform R) (llm : LlmEnv) (window : AnomalyWindow R)
    (changeContext : Option ChangeContext) : Option (Assessment R) :=
  if llm.active p then
    match triageWithGemini p llm changeContext with
    | some assessment => some assessment
    | none => triageWithHeuristics p window changeContext
  else triageWithHeuristics p window changeContext

/-- `triage`, `none` if it throws; `uuid` is the id of the result. -/
def triage (p : Platform R) (llm : LlmEnv) (uuid : String) (window : AnomalyWindow R)
    (changeContext : Option ChangeContext) : Option (TriageResult R) :=
  (assess p llm window changeContext).map fun assessment =>
    { id := uuid
      containerId := window.containerId
      windowId := window.id
      riskScore := assessment.riskScore
      verdict := assessment.verdict
      explanation := assessment.explanation
      llmResponseRaw := assessment.llmResponseRaw }

theorem isSome_triage (p : Platform R) (llm : LlmEnv) (uuid : String) (window : AnomalyWindow R)
    {changeContext : Option ChangeContext}
    (h : ∀ context, changeContext = some context → context.deployedAt.isSome →
      context.changedFiles.isSome) :
    (triage p llm uuid window changeContext).isSome := by
  have hheuristics := isSome_triageWithHeuristics p window h
  rw [triage, Option.isSome_map, assess]
  split
  · split
    · rfl
    · exact hheuristics
  · exact hheuristics

/-- A triage result carries the ids it was made for. -/
theorem ids_of_triage {p : Platform R} {llm : LlmEnv} {uuid : String} {window : AnomalyWindow R}
    {changeContext : Option ChangeContext} {result : TriageResult R}
    (h : triage p llm uuid window changeContext = some result) :
    result.id = uuid ∧ result.windowId = window.id := by
  obtain ⟨assessment, -, rfl⟩ := Option.map_eq_some_iff.1 h
  exact ⟨rfl, rfl⟩

end Replies

/-! ## Policies -/

/-- The test of a verdict by the controller and by the policy generator. -/
def isThreat (p : Platform R) (verdict : String) : Bool := p.equalsIgnoreCase "THREAT" verdict

/-- The status that a verdict gives a window. -/
def statusOf (p : Platform R) (verdict : String) : TriageStatus :=
  if p.equalsIgnoreCase "THREAT" verdict then .threat
  else if p.equalsIgnoreCase "SAFE" verdict then .safe
  else .unknown

theorem statusOf_ne_pending (p : Platform R) (verdict : String) :
    statusOf p verdict ≠ .pending := by
  rw [statusOf]
  split
  · simp
  · split <;> simp

theorem statusOf_eq_threat_iff (p : Platform R) (verdict : String) :
    statusOf p verdict = .threat ↔ isThreat p verdict = true := by
  rw [statusOf, isThreat]
  split
  · simp [*]
  · split <;> simp [*]

/-- The policy that is used when the model proposes none. -/
def defaultSpec : JsonNode R :=
  .object [("profile_name", .text "dk-demo-block-connect"),
    ("syscalls", .array
      [.object [("name", .text "connect"), ("action", .text "SCMP_ACT_ERRNO")]])]

/-- `convertValue(specNode, Map.class)`, which only an object survives. -/
def convertToMap : JsonNode R → Option (JsonNode R)
  | .object fields => some (.object fields)
  | _ => none

/-- The policy that the model proposes, if its reply contains one. -/
def proposedSpec (p : Platform R) (llmResponseRaw : Option String) : Option (JsonNode R) :=
  match llmResponseRaw with
  | none => none
  | some raw =>
      if p.isBlank raw then none
      else
        match p.readTree raw with
        | .error _ => none
        | .ok root => convertToMap ((root.path "policy").path "spec")

/-- `generatePolicy`, `none` for null. -/
def generatePolicy (p : Platform R) (uuid : String) (now : Int) (window : AnomalyWindow R)
    (triageResult : TriageResult R) : Option (Policy R) :=
  if isThreat p triageResult.verdict then
    some
      { id := uuid
        containerId := window.containerId
        type := .seccomp
        spec := (proposedSpec p triageResult.llmResponseRaw).getD defaultSpec
        appliedAt := now
        node := none
        status := .pending }
  else none

end DeepKernel.Server
