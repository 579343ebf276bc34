import DeepKernel.Server.Ingest
import DeepKernel.Server.TriageDomain

/-!
# The risk that the heuristics give

In exact arithmetic: `triageWithHeuristics` has five branches, and a formula of its own in each. The branch depends on the
flag, on the change context and on the size of the score; for a flag and a context that are kept, the
risk is a monotone function of the size of the score (`monotone_heuristicRisk`). The branches meet at
0.5 and at 0.8, where the risk jumps upwards.
-/

set_option autoImplicit false

namespace DeepKernel.Server

open DeepKernel.Lib (Math)

section Pieces

variable {α β : Type} [LinearOrder α] [Preorder β] {f g : α → β} {c : α}

/-- Two monotone pieces that are cut at `c` are monotone together if the jump at `c` goes upwards. -/
theorem monotone_ite_lt (hf : Monotone f) (hg : Monotone g)
    (hjump : ∀ x y, x ≤ c → c < y → f x ≤ g y) :
    Monotone fun x => if c < x then g x else f x := by
  intro x y hxy
  dsimp only
  split_ifs with hx hy hy
  · exact hg hxy
  · exact absurd (hx.trans_le hxy) hy
  · exact hjump x y (not_lt.1 hx) hy
  · exact hf hxy

end Pieces

variable {R : Type} [Field R] [LinearOrder R]

/-! ## The risk as a function of the score -/

/-- The risk of a flagged window without a deployment, by the size of its score. -/
def unexplainedRisk (mlScore : R) : R :=
  if 0.8 < mlScore then min 0.95 mlScore
  else if 0.5 < mlScore then mlScore * 0.8
  else mlScore * 0.5

/-- The risk by the flag, the deployment and the size of the score. -/
def heuristicRisk (anomalous deploy : Bool) (mlScore : R) : R :=
  if !anomalous then max 0.1 (mlScore * 0.3)
  else if deploy then min 0.5 (mlScore * 0.6)
  else unexplainedRisk mlScore

/-- The threats: flagged, without a deployment, and with a score above one half. -/
def heuristicThreat (anomalous deploy : Bool) (mlScore : R) : Bool :=
  anomalous && !deploy && decide (0.5 < mlScore)

theorem heuristicThreat_mono (anomalous deploy : Bool) {first second : R} (hle : first ≤ second)
    (h : heuristicThreat anomalous deploy first = true) :
    heuristicThreat anomalous deploy second = true := by
  simp only [heuristicThreat, Bool.and_eq_true, decide_eq_true_iff] at h ⊢
  exact ⟨h.1, h.2.trans_le hle⟩

section Ordered

variable [IsStrictOrderedRing R]

theorem monotone_scale {slope : R} (hslope : 0 ≤ slope) : Monotone fun x : R => x * slope :=
  monotone_id.mul_const hslope

theorem monotone_unexplainedRisk : Monotone (unexplainedRisk : R → R) := by
  have hlow : Monotone fun x : R => if 0.5 < x then x * 0.8 else x * 0.5 := by
    apply monotone_ite_lt (monotone_scale (by norm_num)) (monotone_scale (by norm_num))
    intro x y hx hy
    linarith
  apply monotone_ite_lt hlow (monotone_const.min monotone_id)
  intro x y hx hy
  -- the lower pieces stay below 0.64, the upper one starts at 0.8
  have hbelow : (if 0.5 < x then x * 0.8 else x * 0.5) ≤ (0.64 : R) := by
    split_ifs <;> linarith
  have habove : (0.64 : R) ≤ y := by linarith
  exact hbelow.trans (le_min (by norm_num) habove)

theorem monotone_heuristicRisk (anomalous deploy : Bool) :
    Monotone (heuristicRisk anomalous deploy : R → R) := by
  cases anomalous with
  | false => exact monotone_const.max (monotone_scale (by norm_num))
  | true =>
      cases deploy with
      | true => exact monotone_const.min (monotone_scale (by norm_num))
      | false => exact monotone_unexplainedRisk

theorem isRisk_heuristicRisk (anomalous deploy : Bool) {mlScore : R} (hpos : 0 ≤ mlScore)
    (hle : mlScore ≤ 1) : IsRisk (heuristicRisk anomalous deploy mlScore) := by
  -- the risk is monotone, so it is enough to look at the scores 0 and 1
  have hzero : 0 ≤ heuristicRisk anomalous deploy (0 : R) := by
    cases anomalous <;> cases deploy <;> norm_num [heuristicRisk, unexplainedRisk]
  have hone : heuristicRisk anomalous deploy (1 : R) ≤ 1 := by
    cases anomalous <;> cases deploy <;> norm_num [heuristicRisk, unexplainedRisk]
  exact ⟨hzero.trans (monotone_heuristicRisk anomalous deploy hpos),
    (monotone_heuristicRisk anomalous deploy hle).trans hone⟩

end Ordered

/-! ## The heuristics -/

/-- What the heuristics return, by the functions above. -/
theorem risk_of_triageWithHeuristics [IsStrictOrderedRing R] {p : Platform R}
    {window : AnomalyWindow R} {changeContext : Option ChangeContext} {assessment : Assessment R}
    (h : triageWithHeuristics p window changeContext = some assessment) :
    assessment.riskScore =
        heuristicRisk window.anomalous (hasRecentDeploy changeContext) |window.mlScore| ∧
      (assessment.verdict = "THREAT" ↔
        heuristicThreat window.anomalous (hasRecentDeploy changeContext) |window.mlScore| = true) := by
  have hthreat : "THREAT" = "THREAT" := rfl
  have hsafe : "SAFE" ≠ "THREAT" := by decide
  have hhalf : (0.5 : R) < 0.8 := by norm_num
  rw [triageWithHeuristics] at h
  simp only [Math.abs_exact, Math.min_exact, Math.max_exact] at h
  cases hanomalous : window.anomalous with
  | false =>
      -- a window that is not anomalous
      rw [hanomalous, if_pos (by rfl)] at h
      obtain rfl := Option.some.inj h
      exact ⟨rfl, iff_of_false hsafe Bool.false_ne_true⟩
  | true =>
      rw [hanomalous, if_neg (by decide)] at h
      cases hdeploy : hasRecentDeploy changeContext with
      | true =>
          -- explained by a deployment, unless the explanation throws
          rw [hdeploy, if_pos rfl] at h
          obtain ⟨explanation, -, rfl⟩ := Option.map_eq_some_iff.1 h
          exact ⟨rfl, iff_of_false hsafe Bool.false_ne_true⟩
      | false =>
          rw [hdeploy, if_neg Bool.false_ne_true] at h
          have hrisk : heuristicRisk true false |window.mlScore| = unexplainedRisk |window.mlScore| :=
            rfl
          have hiff : heuristicThreat true false |window.mlScore| = true ↔ 0.5 < |window.mlScore| :=
            decide_eq_true_iff
          rw [hrisk, hiff, unexplainedRisk]
          -- above 0.8, above 0.5, and below
          split_ifs at h ⊢ with hhigh hmoderate
          · obtain rfl := Option.some.inj h
            exact ⟨rfl, iff_of_true hthreat (hhalf.trans hhigh)⟩
          · obtain rfl := Option.some.inj h
            exact ⟨rfl, iff_of_true hthreat hmoderate⟩
          · obtain rfl := Option.some.inj h
            exact ⟨rfl, iff_of_false hsafe hmoderate⟩

/-- Whether the heuristics throw depends on the flag and on the change context, not on the score. -/
theorem isSome_triageWithHeuristics_congr (p : Platform R) {first second : AnomalyWindow R}
    (hanomalous : first.anomalous = second.anomalous) (changeContext : Option ChangeContext) :
    (triageWithHeuristics p first changeContext).isSome =
      (triageWithHeuristics p second changeContext).isSome := by
  rw [triageWithHeuristics, triageWithHeuristics, hanomalous]
  split_ifs <;> simp only [Option.isSome_some, Option.isSome_map]

/-- An assessment that is at most as bad as another one. -/
structure AtMost (first second : Assessment R) : Prop where
  risk : first.riskScore ≤ second.riskScore
  threat : first.verdict = "THREAT" → second.verdict = "THREAT"

/-- A larger score never gives a smaller risk, and turns no threat into something else. Up to a score of
1 the risk is between 0 and 1. -/
theorem heuristics_monotone_and_bounded [IsStrictOrderedRing R] (p : Platform R)
    (changeContext : Option ChangeContext) :
    (∀ first second : AnomalyWindow R, first.anomalous = second.anomalous →
      |first.mlScore| ≤ |second.mlScore| →
        Option.Rel AtMost (triageWithHeuristics p first changeContext)
          (triageWithHeuristics p second changeContext)) ∧
    ∀ (window : AnomalyWindow R) (assessment : Assessment R), |window.mlScore| ≤ 1 →
      triageWithHeuristics p window changeContext = some assessment →
        IsRisk assessment.riskScore := by
  refine ⟨fun first second hanomalous hscore => ?_, fun window assessment hscore h => ?_⟩
  · have hsome := isSome_triageWithHeuristics_congr p hanomalous changeContext
    cases hfirst : triageWithHeuristics p first changeContext with
    | none =>
        -- both throw
        rw [hfirst] at hsome
        rw [Option.isNone_iff_eq_none.1 (Option.isSome_eq_false_iff.1 hsome.symm)]
        exact .none
    | some a =>
        rw [hfirst] at hsome
        obtain ⟨b, hsecond⟩ := Option.isSome_iff_exists.1 hsome.symm
        obtain ⟨hrisk, hthreat⟩ := risk_of_triageWithHeuristics hfirst
        obtain ⟨hrisk', hthreat'⟩ := risk_of_triageWithHeuristics hsecond
        rw [← hanomalous] at hrisk' hthreat'
        rw [hsecond]
        refine .some ⟨?_, fun h => ?_⟩
        · rw [hrisk, hrisk']
          exact monotone_heuristicRisk _ _ hscore
        · exact hthreat'.2 (heuristicThreat_mono _ _ hscore (hthreat.1 h))
  · rw [(risk_of_triageWithHeuristics h).1]
    exact isRisk_heuristicRisk _ _ (abs_nonneg _) hscore

/-- A window that was flagged. -/
def flaggedWindow : AnomalyWindow ℚ where
  id := "w1"
  containerId := "web"
  windowStart := 0
  windowEnd := 5000
  mlScore := -9 / 10
  anomalous := true
  triageStatus := .pending
  triageResultId := none

/-- A flagged window with a lower score. -/
def mildWindow : AnomalyWindow ℚ := { flaggedWindow with mlScore := 6 / 10 }

/-- A score of 0.6 and one of -0.9, on both sides of a branch point. -/
theorem mild_window_at_most :
    Option.Rel AtMost (triageWithHeuristics examplePlatform mildWindow none)
        (triageWithHeuristics examplePlatform flaggedWindow none) ∧
      (∀ assessment, triageWithHeuristics examplePlatform flaggedWindow none = some assessment →
        IsRisk assessment.riskScore) :=
  ⟨(heuristics_monotone_and_bounded examplePlatform none).1 mildWindow flaggedWindow rfl
    (by decide +kernel),
  fun assessment h => (heuristics_monotone_and_bounded examplePlatform none).2 flaggedWindow
    assessment (by decide +kernel) h⟩

end DeepKernel.Server
