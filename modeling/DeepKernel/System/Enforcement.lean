import DeepKernel.Ml.ModelRegistry
import DeepKernel.Server.Ingest

/-!
# When a policy is enforced

Without the language model the decision is spread over the scorers, the change contexts and the
heuristics of the triage. The two scorers use opposite signs: the in-process one flags scores above
0.6, the ML service scores below -0.65. Both leave no flagged score at or below the cut-off 0.5 that
the heuristics apply to the absolute value (`half_lt_abs_of_anomalous`).
-/

set_option autoImplicit false

namespace DeepKernel.System

open DeepKernel.Server

variable {R : Type} [Field R] [LinearOrder R]

/-! ## The scorers -/

/-- A scoring path: the in-process adapter, or the score that the ML service answers, `none` if the
call throws. -/
inductive Scorer (R : Type)
  | inProcess (adapter : LocalAdapter R)
  | mlService (answer : String → List R → Option R)

/-- `scoreWindow` on a scoring path. The ML service reports a window as anomalous exactly when its
score is below the default threshold. -/
def Scorer.scoreWindow : Scorer R → String → List R → Option (AnomalyScore R)
  | .inProcess adapter, c, values => some (adapter.scoreWindow c values)
  | .mlService answer, c, values =>
      (answer c values).map fun score => ⟨score, decide (score < -65 / 100)⟩

/-- The answers of the ML service are of that kind: also an untrained model, which scores nothing,
reports the flag that belongs to its score. -/
theorem exists_answer_of_ml [IsStrictOrderedRing R] {F : Type} (sk : Ml.Sklearn (List R) F R)
    (r : Ml.ModelRegistry F) :
    ∃ answer, ∀ c values,
      ((r.score sk (-65 / 100) c values).2.map fun s => (⟨s.1, s.2.1⟩ : AnomalyScore R)) =
        (Scorer.mlService answer).scoreWindow c values := by
  refine ⟨fun c values => (r.score sk (-65 / 100) c values).2.map Prod.fst, fun c values => ?_⟩
  rw [Scorer.scoreWindow, Option.map_map, Ml.ModelRegistry.score]
  cases (r.getModel c).2 with
  | none => simp [Ml.ModelRegistry.scoreFound]
  | some m =>
      simp only [Ml.ModelRegistry.scoreFound, Ml.IsolationForestModel.score]
      cases m.isFitted with
      | false => simp
      | true =>
          cases m.model with
          | none => simp
          | some estimator =>
              cases estimator with
              -- A model that is not fitted raises, and neither side answers.
              | unfitted => rfl
              | fitted forest => simp [Function.comp_def]

/-- A flagged score is above the lower cut-off of the heuristics. -/
theorem half_lt_abs_of_anomalous [IsStrictOrderedRing R] {scorer : Scorer R} {c : String}
    {values : List R} {score : AnomalyScore R} (h : scorer.scoreWindow c values = some score)
    (hflag : score.anomalous = true) : 0.5 < |score.score| := by
  cases scorer with
  | inProcess adapter =>
      obtain rfl := Option.some.inj h
      have hlt := LocalAdapter.lt_score_of_anomalous hflag
      rw [anomalyThreshold] at hlt
      calc (0.5 : R) < 6 / 10 := by norm_num
        _ < _ := hlt
        _ ≤ _ := le_abs_self _
  | mlService answer =>
      obtain ⟨s, -, rfl⟩ := Option.map_eq_some_iff.1 h
      have hlt : s < -65 / 100 := of_decide_eq_true hflag
      calc (0.5 : R) < -(-65 / 100) := by norm_num
        _ < -s := neg_lt_neg hlt
        _ ≤ |s| := neg_le_abs s

/-! ## The verdict -/

/-- The verdict of the heuristics on a window whose flag implies a score above the cut-off. -/
theorem verdict_of_heuristics {p : Platform R} {window : AnomalyWindow R}
    {changeContext : Option ChangeContext}
    (hcutoff : window.anomalous = true → 0.5 < |window.mlScore|) {assessment : Assessment R}
    (h : triageWithHeuristics p window changeContext = some assessment) :
    assessment.verdict =
      if window.anomalous = true ∧ hasRecentDeploy changeContext = false then "THREAT"
      else "SAFE" := by
  rw [triageWithHeuristics] at h
  cases hflag : window.anomalous with
  | false =>
      rw [hflag] at h
      obtain rfl := Option.some.inj h
      rfl
  | true =>
      rw [hflag] at h
      cases hdeploy : hasRecentDeploy changeContext with
      | true =>
          rw [hdeploy] at h
          obtain ⟨explanation, -, rfl⟩ := Option.map_eq_some_iff.1 h
          rfl
      | false =>
          -- Above the cut-off both remaining branches say THREAT.
          rw [hdeploy] at h
          simp only [Bool.not_true, Bool.false_eq_true, if_false, Lib.Math.abs_exact,
            if_pos (hcutoff hflag)] at h
          split at h
          · obtain rfl := Option.some.inj h
            rfl
          · obtain rfl := Option.some.inj h
            rfl

omit [LinearOrder R] [Field R] in
theorem isThreat_verdict (p : Platform R) (flagged : Prop) [Decidable flagged] :
    isThreat p (if flagged then "THREAT" else "SAFE") = decide flagged := by
  by_cases h : flagged
  · rw [if_pos h, isThreat, Platform.equalsIgnoreCase_self, decide_eq_true h]
  · rw [if_neg h, isThreat, Platform.equalsIgnoreCase_of_length_ne p (by decide),
      decide_eq_false h]

omit [LinearOrder R] [Field R] in
/-- The rebuilt context has a deployment exactly when the one of the port has. -/
theorem hasRecentDeploy_triageContext (payload : ShortWindowPayload)
    (found : Option ChangeContext) (summary : String) :
    hasRecentDeploy (some (triageContext payload found summary)) = hasRecentDeploy found := by
  cases found with
  | none => rfl
  | some context => rfl

/-! ## The decision -/

section Decision

variable (ctl : Controller R) (env : IngestEnv R) (payload : ShortWindowPayload)
  (s : ServerState R)

/-- The score of the window is flagged. -/
def Flagged : Prop :=
  ∃ score, env.scoreWindow payload.containerId (extract ctl.log payload) = some score ∧
    score.anomalous = true

omit [Field R] [LinearOrder R] in
/-- The port returned a context with a deployment in the half hour before the window. -/
def RecentlyDeployed : Prop :=
  ∃ context, env.getChangeContext payload.containerId
      ((payload.windowStartTsNs / 1000000).toInt - 1800 * 1000) = some (some context) ∧
    context.deployedAt.isSome

omit [Field R] [LinearOrder R] in
theorem hasRecentDeploy_contextFor_iff (score : AnomalyScore R) :
    hasRecentDeploy (Controller.contextFor env payload
        (pendingWindow payload env.windowId score)) = true ↔
      RecentlyDeployed env payload := by
  have hcontext : Controller.contextFor env payload (pendingWindow payload env.windowId score) =
      (env.getChangeContext payload.containerId
        ((payload.windowStartTsNs / 1000000).toInt - 1800 * 1000)).getD none := rfl
  rw [hcontext, RecentlyDeployed]
  cases env.getChangeContext payload.containerId
      ((payload.windowStartTsNs / 1000000).toInt - 1800 * 1000) with
  | none => simp [hasRecentDeploy]
  | some found =>
      cases found with
      | none => simp [hasRecentDeploy]
      | some context => simp [hasRecentDeploy]

variable {ctl env payload s}

/-- The triage of a scored window without the language model. -/
theorem triageWindow_verdict [IsStrictOrderedRing R] {scorer : Scorer R}
    (hscorer : env.scoreWindow = scorer.scoreWindow)
    (hllm : env.llm.active ctl.platform = false) {score : AnomalyScore R}
    (hscore : env.scoreWindow payload.containerId (extract ctl.log payload) = some score)
    {triageResult : TriageResult R}
    (htriage : ctl.triageWindow env payload (pendingWindow payload env.windowId score) =
      some triageResult) :
    isThreat ctl.platform triageResult.verdict = true ↔
      Flagged ctl env payload ∧ ¬ RecentlyDeployed env payload := by
  -- The result is an assessment by the heuristics, of the rebuilt context.
  obtain ⟨assessment, hassess, rfl⟩ := Option.map_eq_some_iff.1 htriage
  rw [assess, hllm] at hassess
  rw [hscorer] at hscore
  have hverdict := verdict_of_heuristics (half_lt_abs_of_anomalous hscore) hassess
  rw [hasRecentDeploy_triageContext] at hverdict
  have hdeploy := hasRecentDeploy_contextFor_iff env payload score
  have hflag : Flagged ctl env payload ↔ score.anomalous = true := by
    rw [Flagged, hscorer, hscore]
    simp
  simp only [hverdict, isThreat_verdict, decide_eq_true_eq, hflag, ← hdeploy,
    Bool.not_eq_true]
  rfl

/-- Only a recent deployment can make the triage throw. -/
theorem triageWindow_isSome (ctl : Controller R) (score : AnomalyScore R)
    (h : ¬ RecentlyDeployed env payload) :
    (ctl.triageWindow env payload (pendingWindow payload env.windowId score)).isSome := by
  apply Controller.isSome_triageWindow
  intro context hcontext hdeployed
  refine absurd ((hasRecentDeploy_contextFor_iff env payload score).1 ?_) h
  rw [hcontext]
  exact hdeployed

/-- Without the language model, the threats are the flagged windows without recent deployment. -/
theorem triagedAsThreat_iff [IsStrictOrderedRing R] {scorer : Scorer R}
    (hscorer : env.scoreWindow = scorer.scoreWindow)
    (hllm : env.llm.active ctl.platform = false) :
    ctl.TriagedAsThreat env payload ↔
      Flagged ctl env payload ∧ ¬ RecentlyDeployed env payload := by
  constructor
  · rintro ⟨score, triageResult, hscore, htriage, hthreat⟩
    exact (triageWindow_verdict hscorer hllm hscore htriage).1 hthreat
  · rintro ⟨⟨score, hscore, hflag⟩, hdeploy⟩
    obtain ⟨triageResult, htriage⟩ :=
      Option.isSome_iff_exists.1 (triageWindow_isSome ctl score hdeploy)
    exact ⟨score, triageResult, hscore, htriage,
      (triageWindow_verdict hscorer hllm hscore htriage).2 ⟨⟨score, hscore, hflag⟩, hdeploy⟩⟩

/-- Without the language model, and with either scorer, a request stores and sends a policy exactly
when the score is flagged and no recent deployment explains it. A flagged window without one is
triaged as a threat. -/
theorem policy_enforced_iff [IsStrictOrderedRing R] (ctl : Controller R) (env : IngestEnv R)
    (payload : ShortWindowPayload) (s : ServerState R) (scorer : Scorer R)
    (hscorer : env.scoreWindow = scorer.scoreWindow)
    (hllm : env.llm.active ctl.platform = false) :
    ((∃ policy, ctl.StoresAndSends env payload s policy) ↔
        Flagged ctl env payload ∧ ¬ RecentlyDeployed env payload) ∧
      ((¬ ∃ policy, ctl.StoresAndSends env payload s policy) →
        ctl.LeavesPolicies env payload s) ∧
      (Flagged ctl env payload ∧ ¬ RecentlyDeployed env payload →
        ∃ window ∈ (ctl.ingestWindow env payload s).state.windows,
          window.id = env.windowId ∧ window.triageStatus = .threat) := by
  have hthreat : ctl.TriagedAsThreat env payload ↔
      Flagged ctl env payload ∧ ¬ RecentlyDeployed env payload :=
    triagedAsThreat_iff hscorer hllm
  refine ⟨?_, ?_, fun h => ?_⟩
  · -- a request that leaves the policies alone sends none
    rcases ctl.policies_cases env payload s with ⟨hnot, hleaves⟩ | ⟨hyes, hstores⟩
    · refine iff_of_false ?_ fun h => hnot (hthreat.2 h)
      rintro ⟨policy, -, -, -, hsent⟩
      rw [hleaves.2] at hsent
      cases hsent
    · exact iff_of_true hstores (hthreat.1 hyes)
  · rcases ctl.policies_cases env payload s with ⟨-, hleaves⟩ | ⟨-, hstores⟩
    · exact fun _ => hleaves
    · exact fun h => absurd hstores h
  · obtain ⟨score, triageResult, hscore, htriage, hverdict⟩ := hthreat.2 h
    refine ⟨triagedWindow ctl.platform (pendingWindow payload env.windowId score) triageResult,
      ?_, rfl, (statusOf_eq_threat_iff _ _).2 hverdict⟩
    rw [(Controller.ingestWindow_of_triage hscore htriage).windows]
    exact List.mem_append_right _ List.mem_cons_self

end Decision

/-- A window that the ML service flags, without a deployment. -/
def flaggedByService (agentReply : HttpOutcome) : IngestEnv ℚ :=
  { exampleEnv ⟨-7 / 10, true⟩ "w1" "t1" "p1" agentReply with
    scoreWindow := (Scorer.mlService fun _ _ => some (-7 / 10)).scoreWindow }

theorem flagged_flaggedByService (agentReply : HttpOutcome) (payload : ShortWindowPayload) :
    Flagged exampleController (flaggedByService agentReply) payload ∧
      ¬ RecentlyDeployed (flaggedByService agentReply) payload := by
  refine ⟨⟨_, rfl, decide_eq_true (by norm_num)⟩, ?_⟩
  rintro ⟨context, hcontext, -⟩
  cases hcontext

theorem policy_enforced_flaggedByService :
    ∃ policy, exampleController.StoresAndSends (flaggedByService (.reply 200))
      ⟨1, "node-1", "prod/api", 0, none⟩ .init policy :=
  (policy_enforced_iff exampleController (flaggedByService (.reply 200)) _ .init
    (.mlService fun _ _ => some (-7 / 10)) rfl rfl).1.2 (flagged_flaggedByService _ _)

end DeepKernel.System
