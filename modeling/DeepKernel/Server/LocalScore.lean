import Mathlib.Analysis.SpecialFunctions.Log.Basic
import DeepKernel.Server.FeatureShape
import DeepKernel.Server.LocalAdapter

/-!
# The weights of the in-process scorer

`calculateHeuristicScore` adds five signals and clamps the sum. Whatever the vector is, no signal is
negative; the weights of the signals add up to one. The signal of the network ratio and the one of a
low entropy are not capped in the code: they keep to their weights because of what the extractor
produces (`Balanced`), so that the clamp has nothing to do.

The code takes the logarithm of `p + 1e-12`, and not of `p`: a window with one kind of transition has
an entropy that is a little below zero. Such a window has no signal for its diversity.
-/

set_option autoImplicit false

namespace DeepKernel.Server

open DeepKernel.Lib

section Signals

variable {R : Type} [Field R] [LinearOrder R]

/-! ## The signals -/

/-- The signal of the network ratio. -/
def netSignal (values : List R) : R :=
  if idxNetRatio < values.length ∧ highNetRatioThreshold < valueAt values idxNetRatio then
    (valueAt values idxNetRatio - highNetRatioThreshold) / (1 - highNetRatioThreshold) * (2 / 10)
  else 0

/-- The signal of the entropy, which can be too low or too high. -/
def entropySignal (values : List R) : R :=
  if idxEntropy < values.length then
    if valueAt values idxEntropy < lowEntropyThreshold then
      (lowEntropyThreshold - valueAt values idxEntropy) / lowEntropyThreshold * (15 / 100)
    else if highEntropyThreshold < valueAt values idxEntropy then
      min ((valueAt values idxEntropy - highEntropyThreshold) / 2) (15 / 100)
    else 0
  else 0

/-- The signal of the number of distinct transitions. -/
def diversitySignal (values : List R) : R :=
  if idxUniqueTwoGrams < values.length ∧ 50 < valueAt values idxUniqueTwoGrams then
    min ((valueAt values idxUniqueTwoGrams - 50) / 100) (15 / 100) else 0

/-- The signal of the deviation from the baseline. -/
def deviationSignal (baseline : Option (BaselineStats R)) (values : List R) : R :=
  match baseline with
  | some stats => computeBaselineDeviation values stats * (2 / 10)
  | none => 0

/-- The weighted sum in `calculateHeuristicScore`, before the last `Math.min`. -/
def weightedSum (baseline : Option (BaselineStats R)) (values : List R) : R :=
  checkSuspiciousSyscallPatterns values * (3 / 10) + netSignal values + entropySignal values +
    diversitySignal values + deviationSignal baseline values

theorem calculateHeuristicScore_eq (baseline : Option (BaselineStats R)) (values : List R) :
    calculateHeuristicScore baseline values = min 1 (weightedSum baseline values) := rfl

/-! ## Bounds of the signals -/

variable [IsStrictOrderedRing R]

theorem checkSuspiciousSyscallPatterns_mem (values : List R) :
    checkSuspiciousSyscallPatterns values ∈ Set.Icc (0 : R) 1 := by
  rw [checkSuspiciousSyscallPatterns]
  split
  · exact ⟨le_refl 0, zero_le_one⟩
  · refine ⟨le_min zero_le_one ?_, min_le_left _ _⟩
    refine add_nonneg (add_nonneg (add_nonneg ?_ ?_) ?_) ?_
    · exact ite_nonneg (by norm_num) (le_refl 0)
    · exact ite_nonneg (by norm_num) (le_refl 0)
    · exact ite_nonneg (by norm_num) (le_refl 0)
    · exact ite_nonneg (by norm_num) (le_refl 0)

theorem computeBaselineDeviation_mem (values : List R) (baseline : BaselineStats R) :
    computeBaselineDeviation values baseline ∈ Set.Icc (0 : R) 1 := by
  rw [computeBaselineDeviation]
  refine ⟨le_min zero_le_one ?_, min_le_left _ _⟩
  refine add_nonneg (add_nonneg ?_ ?_) ?_ <;> split_ifs <;> positivity

theorem deviationSignal_mem (baseline : Option (BaselineStats R)) (values : List R) :
    deviationSignal baseline values ∈ Set.Icc (0 : R) (2 / 10) := by
  cases baseline with
  | none => exact ⟨le_refl 0, by norm_num [deviationSignal]⟩
  | some stats =>
      obtain ⟨hpos, hle⟩ := computeBaselineDeviation_mem values stats
      exact ⟨mul_nonneg hpos (by norm_num), by rw [deviationSignal]; linarith⟩

theorem diversitySignal_mem (values : List R) :
    diversitySignal values ∈ Set.Icc (0 : R) (15 / 100) := by
  rw [diversitySignal]
  split_ifs with h
  · refine ⟨le_min ?_ (by norm_num), min_le_right _ _⟩
    linarith [h.2]
  · exact ⟨le_refl 0, by norm_num⟩

theorem netSignal_nonneg (values : List R) : 0 ≤ netSignal values := by
  rw [netSignal]
  split_ifs with h
  · have hthreshold : (0 : R) ≤ 1 - highNetRatioThreshold := by norm_num [highNetRatioThreshold]
    exact mul_nonneg (div_nonneg (sub_nonneg.2 h.2.le) hthreshold) (by norm_num)
  · exact le_refl 0

theorem entropySignal_nonneg (values : List R) : 0 ≤ entropySignal values := by
  rw [entropySignal]
  split_ifs with hlen hlow hhigh
  · exact mul_nonneg (div_nonneg (sub_nonneg.2 hlow.le) zero_le_one) (by norm_num)
  · exact le_min (div_nonneg (sub_nonneg.2 hhigh.le) (by norm_num)) (by norm_num)
  · exact le_refl 0
  · exact le_refl 0

theorem netSignal_le {values : List R} (h : valueAt values idxNetRatio ≤ 1) :
    netSignal values ≤ 2 / 10 := by
  rw [netSignal]
  split_ifs with hhigh
  · have hthreshold : (0 : R) < 1 - highNetRatioThreshold := by norm_num [highNetRatioThreshold]
    have hratio : (valueAt values idxNetRatio - highNetRatioThreshold) /
        (1 - highNetRatioThreshold) ≤ 1 := (div_le_one hthreshold).2 (by linarith)
    linarith
  · norm_num

/-- The signal of a low entropy grows with its distance from the threshold. -/
theorem entropySignal_le {values : List R} {bound : R} (hbound : 0 ≤ bound)
    (h : -bound ≤ valueAt values idxEntropy) :
    entropySignal values ≤ (1 + bound) * (15 / 100) := by
  rw [entropySignal, lowEntropyThreshold]
  have hcap : (15 / 100 : R) ≤ (1 + bound) * (15 / 100) := by linarith
  split_ifs with hlen hlow hhigh
  · rw [div_one]
    linarith
  · exact (min_le_right _ _).trans hcap
  · linarith
  · linarith

/-! ## The sum -/

/-- What the scorer relies on: the network ratio is at most one, and the entropy is not negative, or not
much so in a window with few distinct transitions. -/
structure Balanced (values : List R) : Prop where
  netRatio : valueAt values idxNetRatio ≤ 1
  entropy : 0 ≤ valueAt values idxEntropy ∨
    -1 ≤ valueAt values idxEntropy ∧ valueAt values idxUniqueTwoGrams ≤ 50

theorem weightedSum_nonneg (baseline : Option (BaselineStats R)) (values : List R) :
    0 ≤ weightedSum baseline values := by
  have hpatterns := (checkSuspiciousSyscallPatterns_mem values).1
  have hnet := netSignal_nonneg values
  have hentropy := entropySignal_nonneg values
  have hdiversity := (diversitySignal_mem values).1
  have hdeviation := (deviationSignal_mem baseline values).1
  rw [weightedSum]
  linarith

theorem Balanced.weightedSum_le_one {values : List R} (h : Balanced values)
    (baseline : Option (BaselineStats R)) : weightedSum baseline values ≤ 1 := by
  have hpatterns := (checkSuspiciousSyscallPatterns_mem values).2
  have hnet := netSignal_le h.netRatio
  have hdeviation := (deviationSignal_mem baseline values).2
  -- the entropy and the diversity share a weight of 0.3
  have hshare : entropySignal values + diversitySignal values ≤ 30 / 100 := by
    obtain hpos | ⟨hentropy, hunique⟩ := h.entropy
    · have hlow := entropySignal_le (le_refl 0) (neg_zero.trans_le hpos)
      have hdiversity := (diversitySignal_mem values).2
      linarith
    · have hlow := entropySignal_le zero_le_one hentropy
      have hdiversity : diversitySignal values = 0 := if_neg fun hgt => absurd hgt.2 (not_lt.2 hunique)
      linarith
  rw [weightedSum]
  linarith

/-- The sum is between 0 and 1, and the clamp does not change it. -/
structure ClampIdle (baseline : Option (BaselineStats R)) (values : List R) : Prop where
  sum_mem : weightedSum baseline values ∈ Set.Icc (0 : R) 1
  score_eq : calculateHeuristicScore baseline values = weightedSum baseline values

theorem Balanced.clampIdle {values : List R} (h : Balanced values)
    (baseline : Option (BaselineStats R)) : ClampIdle baseline values where
  sum_mem := ⟨weightedSum_nonneg baseline values, h.weightedSum_le_one baseline⟩
  score_eq := by
    rw [calculateHeuristicScore_eq]
    exact min_eq_right (h.weightedSum_le_one baseline)

/-- The score of an arbitrary vector, which only the clamp bounds. -/
theorem scoreWindow_mem (a : LocalAdapter R) (containerId : String) (values : List R) :
    (a.scoreWindow containerId values).score ∈ Set.Icc (0 : R) 1 := by
  rw [LocalAdapter.scoreWindow]
  split_ifs
  · exact ⟨le_refl 0, zero_le_one⟩
  · dsimp only
    rw [calculateHeuristicScore_eq]
    exact ⟨le_min zero_le_one (weightedSum_nonneg _ values), min_le_left _ _⟩

end Signals

/-! ## Entropy -/

/-- The logarithm that takes the `1e-12` of the code off again, so that the entropy is the sum of
`-p ln p`. -/
noncomputable def plainLog (x : ℝ) : ℝ := Real.log (x - 1 / 10 ^ 12)

theorem entropyOf_eq (log : ℝ → ℝ) (ps : List ℝ) :
    entropyOf log ps = -(ps.map fun p => p * log (p + 1 / 10 ^ 12)).sum := by
  have hfold : ∀ (entropy : ℝ) (ps : List ℝ),
      ps.foldl (fun entropy p => entropy - p * log (p + 1 / 10 ^ 12)) entropy =
        entropy - (ps.map fun p => p * log (p + 1 / 10 ^ 12)).sum := by
    intro entropy ps
    induction ps generalizing entropy with
    | nil => simp
    | cons p ps ih =>
        rw [List.foldl_cons, ih, List.map_cons, List.sum_cons]
        ring
  rw [entropyOf, hfold, zero_sub]

theorem entropyOf_plainLog (ps : List ℝ) :
    entropyOf plainLog ps = -(ps.map fun p => p * Real.log p).sum := by
  rw [entropyOf_eq]
  simp only [plainLog, add_sub_cancel_right]

/-- Terms that are at most `bound` keep the entropy above `-n * bound`. -/
theorem neg_le_entropyOf {log : ℝ → ℝ} {ps : List ℝ} {bound : ℝ}
    (h : ∀ p ∈ ps, p * log (p + 1 / 10 ^ 12) ≤ bound) :
    -((ps.length : ℝ) * bound) ≤ entropyOf log ps := by
  have hsum := List.sum_le_card_nsmul (ps.map fun p => p * log (p + 1 / 10 ^ 12)) bound (by
    intro x hx
    obtain ⟨p, hp, rfl⟩ := List.mem_map.1 hx
    exact h p hp)
  rw [List.length_map, nsmul_eq_mul] at hsum
  rw [entropyOf_eq]
  exact neg_le_neg hsum

/-- Without the `1e-12` no term is positive. -/
theorem mul_plainLog_nonpos {p : ℝ} (hp : p ∈ Set.Icc (0 : ℝ) 1) :
    p * plainLog (p + 1 / 10 ^ 12) ≤ 0 := by
  rw [plainLog, add_sub_cancel_right]
  exact mul_nonpos_of_nonneg_of_nonpos hp.1 (Real.log_nonpos hp.1 hp.2)

/-- With it, a term is small. -/
theorem mul_log_le {p : ℝ} (hp : p ∈ Set.Icc (0 : ℝ) 1) :
    p * Real.log (p + 1 / 10 ^ 12) ≤ 1 / 50 := by
  have hpos : 0 < p + 1 / 10 ^ 12 := add_pos_of_nonneg_of_pos hp.1 (by norm_num)
  have hlog : Real.log (p + 1 / 10 ^ 12) ≤ 1 / 50 := by
    refine (Real.log_le_sub_one_of_pos hpos).trans ?_
    have hle := hp.2
    norm_num
    linarith
  calc p * Real.log (p + 1 / 10 ^ 12) ≤ p * (1 / 50) := mul_le_mul_of_nonneg_left hlog hp.1
    _ ≤ 1 * (1 / 50) := mul_le_mul_of_nonneg_right hp.2 (by norm_num)
    _ = 1 / 50 := one_mul _

theorem mul_log_nonpos {p : ℝ} (hp : 0 ≤ p) (hroom : p + 1 / 10 ^ 12 ≤ 1) :
    p * Real.log (p + 1 / 10 ^ 12) ≤ 0 :=
  mul_nonpos_of_nonneg_of_nonpos hp
    (Real.log_nonpos (add_nonneg hp (by norm_num)) hroom)

/-! ## What the extractor produces -/

section Frequencies

variable {α : Type} [BEq α]

theorem frequency_mem (l : List α) (a : α) :
    (l.count a : ℝ) / (l.length : ℝ) ∈ Set.Icc (0 : ℝ) 1 :=
  ⟨div_nonneg (Nat.cast_nonneg _) (Nat.cast_nonneg _),
    div_le_one_of_le₀ (Nat.cast_le.2 List.count_le_length) (Nat.cast_nonneg _)⟩

/-- A list with two different elements is not filled by one of them. -/
theorem count_lt_length_of_dedup [LawfulBEq α] [DecidableEq α] {l : List α}
    (h : 1 < l.dedup.length) (a : α) : l.count a < l.length := by
  refine lt_of_le_of_ne List.count_le_length fun heq => ?_
  have hsub : l.dedup ⊆ [a] := by
    intro b hb
    rw [List.mem_singleton]
    exact (List.count_eq_length.1 heq b (List.mem_dedup.1 hb)).symm
  have hle := ((List.nodup_dedup l).subperm hsub).length_le
  rw [List.length_singleton] at hle
  omega

end Frequencies

section Extracted

variable {s : Scan ℝ} {records : List TraceRecord}

/-- The probabilities of the entropy are the frequencies of the pairs. -/
theorem Scan.Counts.probability_mem (h : s.Counts records) {p : ℝ}
    (hp : p ∈ s.probabilities (max (records.length - 1) 1)) :
    ∃ cell ∈ twoGrams records,
      p = ((twoGrams records).count cell : ℝ) / ((twoGrams records).length : ℝ) := by
  obtain ⟨cell, hcell, rfl⟩ := List.mem_map.1 hp
  have hmem : cell ∈ twoGrams records := by
    rw [← List.mem_toFinset, ← h.toFinset_positiveCells]
    exact List.mem_toFinset.2 hcell
  have hpos := List.length_pos_of_mem hmem
  refine ⟨cell, hmem, ?_⟩
  rw [h.probability_eq hmem, length_twoGrams]
  rw [length_twoGrams] at hpos
  rw [max_eq_left hpos]

theorem Scan.Counts.probability_mem_unit (h : s.Counts records) {p : ℝ}
    (hp : p ∈ s.probabilities (max (records.length - 1) 1)) : p ∈ Set.Icc (0 : ℝ) 1 := by
  obtain ⟨cell, -, rfl⟩ := h.probability_mem hp
  exact frequency_mem _ cell

/-- Where there are two kinds of pairs, each of them leaves more than `1e-12` to the others: a Java list
has fewer than `2 ^ 31` elements. -/
theorem Scan.Counts.probability_add_le (h : s.Counts records) (hlen : records.length < 2 ^ 31)
    (hunique : 1 < (twoGrams records).dedup.length) {p : ℝ}
    (hp : p ∈ s.probabilities (max (records.length - 1) 1)) : p + 1 / 10 ^ 12 ≤ 1 := by
  obtain ⟨cell, hmem, rfl⟩ := h.probability_mem hp
  have hlength : (twoGrams records).length < 2 ^ 31 := by
    rw [length_twoGrams]
    omega
  have hn : (0 : ℝ) < (twoGrams records).length := Nat.cast_pos.2 (List.length_pos_of_mem hmem)
  have hcount : ((twoGrams records).count cell : ℝ) + 1 ≤ (twoGrams records).length := by
    exact_mod_cast Nat.succ_le_of_lt (count_lt_length_of_dedup hunique cell)
  have hbound : ((twoGrams records).length : ℝ) ≤ 10 ^ 12 := by
    exact_mod_cast hlength.le.trans (by norm_num)
  rw [div_add' _ _ _ hn.ne', div_le_one hn]
  linarith

theorem Scan.Counts.length_probabilities (h : s.Counts records) (total : Nat) :
    (s.probabilities total).length = (twoGrams records).dedup.length := by
  rw [Scan.probabilities, List.length_map, h.length_positiveCells]

end Extracted

theorem vector_entropy (s : Scan ℝ) (log : ℝ → ℝ) (firstTs : Int64) (total : Nat) :
    valueAt (s.vector log firstTs total) idxUniqueTwoGrams = (s.positiveCells.length : ℝ) ∧
      valueAt (s.vector log firstTs total) idxEntropy =
        entropyOf log (s.probabilities (max (total - 1) 1)) := by
  have hget := fun i hi => (vector_layout s log firstTs total).getElem?_second (i := i) hi
  exact ⟨congrArg (fun v => v.getD 0) (hget 0 (by omega)),
    congrArg (fun v => v.getD 0) (hget 1 (by omega))⟩

/-- The vector of a window is balanced if its entropy is not too low. -/
theorem balanced_extract {log : ℝ → ℝ} (payload : ShortWindowPayload)
    (h : ∀ records, payload.records = some records → ∀ s : Scan ℝ, s.Counts records →
      0 ≤ entropyOf log (s.probabilities (max (records.length - 1) 1)) ∨
        -1 ≤ entropyOf log (s.probabilities (max (records.length - 1) 1)) ∧
          (twoGrams records).dedup.length ≤ 50) :
    Balanced (extract log payload) := by
  have hempty : Balanced ([] : List ℝ) := ⟨zero_le_one, .inl (le_refl 0)⟩
  cases hrecords : payload.records with
  | none =>
      rw [extract, hrecords]
      exact hempty
  | some records =>
      cases records with
      | nil =>
          rw [extract, hrecords]
          exact hempty
      | cons r rs =>
          have hcounts := counts_scanWindow (R := ℝ) payload.windowStartTsNs (r :: rs)
          have hnet := (vector_ratios (scanWindow payload.windowStartTsNs (r :: rs) : Scan ℝ) log
            payload.windowStartTsNs (Nat.succ_pos rs.length)).2.1
          obtain ⟨hunique, hentropy⟩ := vector_entropy (scanWindow payload.windowStartTsNs (r :: rs))
            log payload.windowStartTsNs (r :: rs).length
          rw [extract_of_ne_nil log hrecords (List.cons_ne_nil r rs)]
          refine ⟨?_, ?_⟩
          · -- the network ratio counts some of the records
            have hops := (scanWindow_ops (R := ℝ) payload.windowStartTsNs (r :: rs)).2
            rw [hops] at hnet
            refine (congrArg (fun v => v.getD 0) hnet).trans_le ?_
            exact div_le_one_of_le₀ (Nat.cast_le.2 List.countP_le_length) (Nat.cast_nonneg _)
          · -- the number of different transitions, for the signal that makes up for a low entropy
            rw [hentropy, hunique]
            refine (h _ hrecords _ hcounts).imp id fun hlow => ⟨hlow.1, ?_⟩
            exact_mod_cast hcounts.length_positiveCells.trans_le hlow.2

theorem balanced_extract_plainLog (payload : ShortWindowPayload) :
    Balanced (extract plainLog payload) := by
  refine balanced_extract payload fun records _ s hcounts => .inl ?_
  have hlow := neg_le_entropyOf fun p hp => mul_plainLog_nonpos (hcounts.probability_mem_unit hp)
  rwa [mul_zero, neg_zero] at hlow

theorem balanced_extract_log (payload : ShortWindowPayload)
    (hlen : ∀ records, payload.records = some records → records.length < 2 ^ 31) :
    Balanced (extract Real.log payload) := by
  refine balanced_extract payload fun records hrecords s hcounts => ?_
  by_cases hunique : (twoGrams records).dedup.length ≤ 50
  · -- few kinds of pairs, each with a small error
    have hlow := neg_le_entropyOf fun p hp => mul_log_le (hcounts.probability_mem_unit hp)
    rw [hcounts.length_probabilities] at hlow
    have hbound : ((twoGrams records).dedup.length : ℝ) ≤ 50 := by exact_mod_cast hunique
    exact .inr ⟨by linarith, hunique⟩
  · have hlow := neg_le_entropyOf fun p hp =>
      mul_log_nonpos (hcounts.probability_mem_unit hp).1
        (hcounts.probability_add_le (hlen records hrecords) (by omega) hp)
    rw [mul_zero, neg_zero] at hlow
    exact .inl hlow

/-! ## Training histories -/

/-- The adapter after some calls of `trainModel`, whose list may be null. -/
def LocalAdapter.trainAll {R : Type} [Field R] [LinearOrder R]
    (history : List (String × Option (List (List R)))) : LocalAdapter R :=
  history.foldl (fun a call => a.trainModel call.1 (call.2.getD [])) LocalAdapter.init

/-- The score of a window is a sum of five signals whose weights add up to one. The clamp changes
nothing for a vector of the extractor, with the entropy as a sum of `-p ln p` and with the entropy that
the code computes; the score of every vector is between 0 and 1. -/
theorem local_score_within_weights (history : List (String × Option (List (List ℝ))))
    (containerId : String) :
    (∀ ps : List ℝ, entropyOf plainLog ps = -(ps.map fun p => p * Real.log p).sum) ∧
    (∀ payload : ShortWindowPayload,
      ClampIdle ((LocalAdapter.trainAll history).baselines.find? containerId)
        (extract plainLog payload)) ∧
    (∀ payload : ShortWindowPayload,
      (∀ records, payload.records = some records → records.length < 2 ^ 31) →
        ClampIdle ((LocalAdapter.trainAll history).baselines.find? containerId)
          (extract Real.log payload)) ∧
    ∀ values : List ℝ,
      ((LocalAdapter.trainAll history).scoreWindow containerId values).score ∈ Set.Icc (0 : ℝ) 1 := by
  refine ⟨entropyOf_plainLog, fun payload => ?_, fun payload hlen => ?_, fun values => ?_⟩
  · exact (balanced_extract_plainLog payload).clampIdle _
  · exact (balanced_extract_log payload hlen).clampIdle _
  · exact scoreWindow_mem _ containerId values

/-- A window of one record. -/
def quietPayload : ShortWindowPayload := { wrappingPayload with records := some [⟨1000, 2, 1, 0⟩] }

/-- A history with a null list and with two windows, from which the score is a deviation. -/
noncomputable def twoWindowHistory : List (String × Option (List (List ℝ))) :=
  [("web", none), ("web", some [extract Real.log wrappingPayload, extract Real.log quietPayload])]

/-- Two records, scored against a baseline. -/
theorem wrapping_payload_score :
    ClampIdle ((LocalAdapter.trainAll twoWindowHistory).baselines.find? "web")
      (extract Real.log wrappingPayload) :=
  (local_score_within_weights twoWindowHistory "web").2.2.1 wrappingPayload
    (by
      rintro _ ⟨⟩
      exact (by decide : (2 : Nat) < 2 ^ 31))

end DeepKernel.Server
