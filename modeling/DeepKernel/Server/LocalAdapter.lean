import DeepKernel.Lib.Layout
import DeepKernel.Server.ModelRegistry

/-!
# The in-process scorer

`InProcessIsolationForestAdapter` over an ordered field `R`: the decimal constants of the source are
exact fractions and the rounding of `double` and `float` is left out. A feature vector is the list
of its values.

All that the triage relies on is `LocalAdapter.lt_score_of_anomalous`: a flagged window has a score
above the threshold.
-/

set_option autoImplicit false

namespace DeepKernel.Server

open DeepKernel.Lib

variable {R : Type} [Field R] [LinearOrder R]

/-- `AnomalyScore`. -/
structure AnomalyScore (R : Type) where
  score : R
  anomalous : Bool
  deriving DecidableEq

/-- `BaselineStats`. -/
structure BaselineStats (R : Type) where
  avgNetRatio : R
  avgEntropy : R
  avgUniqueTwoGrams : R

/-- The maps of `InProcessIsolationForestAdapter`. -/
structure LocalAdapter (R : Type) where
  models : Table String ModelMeta
  baselines : Table String (BaselineStats R)

/-- An adapter that has not been trained. -/
def LocalAdapter.init : LocalAdapter R := ⟨Table.empty, Table.empty⟩

/-! ## Indices and thresholds -/

/-- `MARKOV_MATRIX_SIZE`. -/
def markovMatrixSize : Nat := 24 * 24

/-- `IDX_UNIQUE_TWO_GRAMS`. -/
def idxUniqueTwoGrams : Nat := 576

/-- `IDX_ENTROPY`. -/
def idxEntropy : Nat := 577

/-- `IDX_NET_RATIO`. -/
def idxNetRatio : Nat := 579

/-- `IDX_MEAN_INTER_ARRIVAL`. -/
def idxMeanInterArrival : Nat := 581

/-- `ANOMALY_THRESHOLD`. -/
def anomalyThreshold : R := 6 / 10

/-- `HIGH_NET_RATIO_THRESHOLD`. -/
def highNetRatioThreshold : R := 4 / 10

/-- `LOW_ENTROPY_THRESHOLD`. -/
def lowEntropyThreshold : R := 1

/-- `HIGH_ENTROPY_THRESHOLD`. -/
def highEntropyThreshold : R := 4

/-! ## The score -/

omit [LinearOrder R] in
/-- A value of a vector; the callers check the index. -/
def valueAt (values : List R) (index : Nat) : R := values[index]?.getD 0

/-- `getMarkovCell`. -/
def getMarkovCell (values : List R) (source target : Nat) : R :=
  valueAt values (source * 24 + target)

/-- The sum of a column of the matrix. -/
def columnSum (values : List R) (target : Nat) : R :=
  (List.range 24).foldl (fun sum source => sum + getMarkovCell values source target) 0

/-- `checkSuspiciousSyscallPatterns`. -/
def checkSuspiciousSyscallPatterns (values : List R) : R :=
  if values.length < markovMatrixSize then 0
  else
    let execve : R :=
      if 1 / 10 < getMarkovCell values 0 6 ∨ 1 / 10 < getMarkovCell values 0 10 then 3 / 10 else 0
    let ptrace : R := if 1 / 100 < columnSum values 18 then 4 / 10 else 0
    let mount : R := if 1 / 100 < columnSum values 19 then 3 / 10 else 0
    let fork : R := if 3 / 10 < getMarkovCell values 11 11 then 4 / 10 else 0
    min 1 (execve + ptrace + mount + fork)

/-- `computeBaselineDeviation`. -/
def computeBaselineDeviation (values : List R) (baseline : BaselineStats R) : R :=
  let net : R :=
    if idxNetRatio < values.length then
      |valueAt values idxNetRatio - baseline.avgNetRatio| * (3 / 10) else 0
  let entropy : R :=
    if idxEntropy < values.length then
      |valueAt values idxEntropy - baseline.avgEntropy| / 4 * (4 / 10) else 0
  let unique : R :=
    if idxUniqueTwoGrams < values.length then
      |valueAt values idxUniqueTwoGrams - baseline.avgUniqueTwoGrams| / 50 * (3 / 10) else 0
  min 1 (net + entropy + unique)

/-- `calculateHeuristicScore`. -/
def calculateHeuristicScore (baseline : Option (BaselineStats R)) (values : List R) : R :=
  let patterns := checkSuspiciousSyscallPatterns values * (3 / 10)
  let netRatio := valueAt values idxNetRatio
  let net : R :=
    if idxNetRatio < values.length ∧ highNetRatioThreshold < netRatio then
      (netRatio - highNetRatioThreshold) / (1 - highNetRatioThreshold) * (2 / 10) else 0
  -- both repetitive and chaotic behaviour is suspicious
  let entropy := valueAt values idxEntropy
  let chaos : R :=
    if idxEntropy < values.length then
      if entropy < lowEntropyThreshold then
        (lowEntropyThreshold - entropy) / lowEntropyThreshold * (15 / 100)
      else if highEntropyThreshold < entropy then
        min ((entropy - highEntropyThreshold) / 2) (15 / 100)
      else 0
    else 0
  let uniqueTwoGrams := valueAt values idxUniqueTwoGrams
  let diversity : R :=
    if idxUniqueTwoGrams < values.length ∧ 50 < uniqueTwoGrams then
      min ((uniqueTwoGrams - 50) / 100) (15 / 100) else 0
  let deviation : R :=
    match baseline with
    | some stats => computeBaselineDeviation values stats * (2 / 10)
    | none => 0
  min 1 (patterns + net + chaos + diversity + deviation)

namespace LocalAdapter

/-- `scoreWindow`. -/
def scoreWindow (a : LocalAdapter R) (containerId : String) (values : List R) : AnomalyScore R :=
  if values = [] then ⟨0, false⟩
  else
    let score := calculateHeuristicScore (a.baselines.find? containerId) values
    ⟨score, decide (anomalyThreshold < score)⟩

/-! ## Training -/

/-- `computeBaseline`. -/
def computeBaseline (trainingData : List (List R)) : BaselineStats R :=
  let used := trainingData.filter fun v => decide (idxMeanInterArrival < v.length)
  let mean (index : Nat) : R := (used.map fun v => valueAt v index).sum / (used.length : R)
  if used = [] then ⟨1 / 10, 2, 20⟩
  else ⟨mean idxNetRatio, mean idxEntropy, mean idxUniqueTwoGrams⟩

/-- `trainModel`. -/
def trainModel (a : LocalAdapter R) (containerId : String) (trainingData : List (List R)) :
    LocalAdapter R where
  baselines :=
    if trainingData = [] then a.baselines
    else a.baselines.set containerId (computeBaseline trainingData)
  models :=
    let currentVersion := ((a.models.find? containerId).map ModelMeta.version).getD 0
    a.models.set containerId
      { modelId := "model-" ++ containerId
        containerId := containerId
        version := currentVersion + 1
        featureVersion := "v1"
        status := .ready }

omit [Field R] [LinearOrder R] in
/-- `getModelMeta`, which is null for a container that has not been trained. -/
def getModelMeta (a : LocalAdapter R) (containerId : String) : Option ModelMeta :=
  a.models.find? containerId

/-- A flagged window has a score above the threshold. -/
theorem lt_score_of_anomalous {a : LocalAdapter R} {containerId : String} {values : List R}
    (h : (a.scoreWindow containerId values).anomalous = true) :
    anomalyThreshold < (a.scoreWindow containerId values).score := by
  unfold scoreWindow at h ⊢
  split at h
  · cases h
  · rename_i hne
    rw [if_neg hne]
    exact of_decide_eq_true h

end LocalAdapter

end DeepKernel.Server
