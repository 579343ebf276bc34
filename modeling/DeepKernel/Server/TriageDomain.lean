import DeepKernel.Server.Triage

/-!
# What a triage result can say

The domain of a triage result is a verdict out of three and a risk between 0 and 1. Scores and
risks are doubles here. The heuristics leave the domain for a score that is not a number, and for a
window that is not anomalous and has a score above 3.3333333333333335, the largest double whose
product with 0.3 is rounded to at most 1. The reply of the language model is taken as it is, from its
tree as well as from the text that is salvaged. `ReplyInDomain` says which replies keep a result
inside the domain.
-/

set_option autoImplicit false

namespace DeepKernel.Server

open DeepKernel.Lib (Math)
open DeepKernel.Lib.Binary64

/-! ## The domain -/

/-- The verdicts of the domain model. -/
def domainVerdicts : List String := ["SAFE", "THREAT", "UNKNOWN"]

section Domain

variable {R : Type} [LE R] [OfNat R 0] [OfNat R 1]

/-- A risk of the domain model. -/
def IsRisk (risk : R) : Prop := 0 ≤ risk ∧ risk ≤ 1

/-- A result for a window, inside the domain. -/
structure InDomain (window : AnomalyWindow R) (result : TriageResult R) : Prop where
  verdict : result.verdict ∈ domainVerdicts
  risk : IsRisk result.riskScore
  windowId : result.windowId = window.id
  containerId : result.containerId = window.containerId

variable (p : Platform R)

/-- The verdict in a reply is left out, null, or the name of a verdict in any case of letters. -/
def VerdictMember : JsonNode R → Prop
  | .missing => True
  | .null => True
  | node => p.upperString node.asText ∈ domainVerdicts

/-- The risk in a reply is between 0 and 1 if it is a number, or a text that reads as one. -/
def RiskMember : JsonNode R → Prop
  | .number _ value => IsRisk value
  | .text s => ∀ value, p.parseDouble s = some value → IsRisk value
  | _ => True

/-- What is salvaged from a text is inside the domain: the first word behind the key of the verdict
and the first digits behind that of the risk. -/
structure TextInDomain (text : List Char) : Prop where
  verdict : ∀ word, firstMatch verdictPattern text = some word →
    p.upperString word ∈ domainVerdicts
  risk : ∀ digits value, firstMatch riskPattern text = some digits →
    p.parseDouble digits = some value → IsRisk value

/-- A reply that is inside the domain: it has no text, or the text has a tree with members of the
domain, or no tree and the salvage finds nothing else. -/
def ReplyInDomain (response : Option String) : Prop :=
  ∀ rawText, rawTextOf p response = .ok rawText →
    match p.readTree (extractJson rawText) with
    | .ok parsed => VerdictMember p (parsed.path "verdict") ∧ RiskMember p (parsed.path "risk_score")
    | .error _ => TextInDomain p rawText.toList

end Domain

/-- The reply that is parsed: `none` if the language model is not asked or does not answer. -/
def llmReply {R : Type} (p : Platform R) (llm : LlmEnv) (changeContext : Option ChangeContext) :
    Option (Option String) :=
  if llm.active p && promptBuilds changeContext then llm.v1beta <|> llm.v1 else none

/-- The heuristics give the window a risk of the domain: its score is a number, and not too large if
the window is not anomalous. -/
def ScoreInDomain (window : AnomalyWindow Float) : Prop :=
  window.anomalous = true ∧ window.mlScore.isNaN = false ∨
    window.anomalous = false ∧ Math.abs window.mlScore ≤ 3.3333333333333335

/-! ## Replies -/

theorem upperString_asTextOr_iff {R : Type} (p : Platform R)
    (hupper : p.upperString "UNKNOWN" = "UNKNOWN") (node : JsonNode R) :
    p.upperString (node.asTextOr "UNKNOWN") ∈ domainVerdicts ↔ VerdictMember p node := by
  have hunknown : p.upperString "UNKNOWN" ∈ domainVerdicts := by
    rw [hupper]
    decide
  cases node with
  | missing => exact iff_of_true hunknown trivial
  | null => exact iff_of_true hunknown trivial
  | boolean b => exact Iff.rfl
  | number literal value => exact Iff.rfl
  | text s => exact Iff.rfl
  | array items => exact Iff.rfl
  | object fields => exact Iff.rfl

/-- A default of the domain stays in it. -/
theorem isRisk_getD_iff {risk : Float} (h : IsRisk risk) (found : Option Float) :
    IsRisk (found.getD risk) ↔ ∀ value, found = some value → IsRisk value := by
  cases found with
  | none => exact iff_of_true h fun value hvalue => absurd hvalue nofun
  | some value =>
      constructor
      · rintro hvalue _ ⟨⟩
        exact hvalue
      · intro hvalue
        exact hvalue value rfl

section Replies

variable (p : Platform Float)

theorem isRisk_half : IsRisk (0.5 : Float) := ⟨by decide, by decide⟩

theorem isRisk_seven_tenths : IsRisk (0.7 : Float) := ⟨by decide, by decide⟩

theorem isRisk_one : IsRisk (1 : Float) := ⟨by decide, by decide⟩

theorem isRisk_zero : IsRisk (0 : Float) := ⟨by decide, by decide⟩

theorem isRisk_asDoubleOr_iff (node : JsonNode Float) :
    IsRisk (node.asDoubleOr p 0.5) ↔ RiskMember p node := by
  cases node with
  | missing => exact iff_of_true isRisk_half trivial
  | null => exact iff_of_true isRisk_half trivial
  | boolean b =>
      cases b with
      | true => exact iff_of_true isRisk_one trivial
      | false => exact iff_of_true isRisk_zero trivial
  | number literal value => exact Iff.rfl
  | text s => exact isRisk_getD_iff isRisk_half (p.parseDouble s)
  | array items => exact iff_of_true isRisk_half trivial
  | object fields => exact iff_of_true isRisk_half trivial

theorem salvage_in_domain_iff (text : String) (response : Option String) (message : String) :
    ((salvage p (some text) response message).verdict ∈ domainVerdicts ∧
        IsRisk (salvage p (some text) response message).riskScore) ↔
      TextInDomain p text.toList := by
  have hunknown : "UNKNOWN" ∈ domainVerdicts := by decide
  -- without a match the defaults UNKNOWN and 0.7 are in the domain
  have hverdict : ((firstMatch verdictPattern text.toList).map p.upperString).getD "UNKNOWN" ∈
      domainVerdicts ↔ ∀ word, firstMatch verdictPattern text.toList = some word →
        p.upperString word ∈ domainVerdicts := by
    cases firstMatch verdictPattern text.toList with
    | none => exact iff_of_true hunknown fun word hword => absurd hword nofun
    | some word =>
        constructor
        · rintro hword _ ⟨⟩
          exact hword
        · intro hword
          exact hword word rfl
  have hrisk : IsRisk (((firstMatch riskPattern text.toList).bind p.parseDouble).getD 0.7) ↔
      ∀ digits value, firstMatch riskPattern text.toList = some digits →
        p.parseDouble digits = some value → IsRisk value := by
    rw [isRisk_getD_iff isRisk_seven_tenths]
    constructor
    · intro h digits value hdigits hvalue
      exact h value (Option.bind_eq_some_iff.2 ⟨digits, hdigits, hvalue⟩)
    · intro h value hvalue
      obtain ⟨digits, hdigits, hvalue⟩ := Option.bind_eq_some_iff.1 hvalue
      exact h digits value hdigits hvalue
  exact ⟨fun h => ⟨hverdict.1 h.1, hrisk.1 h.2⟩, fun h => ⟨hverdict.2 h.verdict, hrisk.2 h.risk⟩⟩

theorem parseGeminiResponse_in_domain_iff (hupper : p.upperString "UNKNOWN" = "UNKNOWN")
    (response : Option String) :
    ((parseGeminiResponse p response).verdict ∈ domainVerdicts ∧
        IsRisk (parseGeminiResponse p response).riskScore) ↔ ReplyInDomain p response := by
  rw [parseGeminiResponse, ReplyInDomain]
  cases hraw : rawTextOf p response with
  | error message =>
      -- there is no text to salvage anything from
      refine iff_of_true ⟨?_, isRisk_seven_tenths⟩ fun rawText h => absurd h nofun
      exact (by decide : "UNKNOWN" ∈ domainVerdicts)
  | ok rawText =>
      have honly : ∀ P : String → Prop,
          (∀ text, Except.ok (ε := String) rawText = .ok text → P text) ↔ P rawText :=
        fun P => ⟨fun h => h rawText rfl, fun h text htext => Except.ok.inj htext ▸ h⟩
      rw [honly]
      dsimp only
      cases hparsed : p.readTree (extractJson rawText) with
      | error message => exact salvage_in_domain_iff p rawText response message
      | ok parsed =>
          exact and_congr (upperString_asTextOr_iff p hupper _) (isRisk_asDoubleOr_iff p _)

end Replies

/-! ## Scores -/

theorem form_tenth : HasForm 0.1 7205759403792794 (-56) := ⟨by decide, rfl⟩

theorem form_threeTenths : HasForm 0.3 5404319552844595 (-54) := ⟨by decide, rfl⟩

theorem form_half : HasForm 0.5 4503599627370496 (-53) := ⟨by decide, rfl⟩

theorem form_sixTenths : HasForm 0.6 5404319552844595 (-53) := ⟨by decide, rfl⟩

theorem form_eightTenths : HasForm 0.8 7205759403792794 (-53) := ⟨by decide, rfl⟩

theorem form_cap : HasForm 0.95 8556839292003942 (-53) := ⟨by decide, rfl⟩

theorem form_largest : HasForm 3.3333333333333335 7505999378950827 (-51) :=
  ⟨by decide, rfl⟩

/-- The product with 0.3 is at most one up to 3.3333333333333335: no double is between that one and
the bound for exact products. -/
theorem productAtMostOne_threeTenths_iff {s : Float.Model.UnpackedFloat.Sign} {m : Nat} {e : Int}
    {hm : 0 < m} (h : Canonical m e) :
    ProductAtMostOne 5404319552844595 (-54) (.finite s m e hm) ↔
      AtMost 7505999378950827 (-51) (.finite s m e hm) := by
  simp only [ProductAtMostOne, AtMost]
  have hlt := h.lt
  have hpos : (0 : ℚ) < 2 ^ (e + -54) := zpow_pos two_pos _
  rcases lt_trichotomy e (-51) with hsmall | rfl | hlarge
  · refine iff_of_true ?_ (.inl hsmall)
    have hexp : (2 : ℚ) ^ (e + -54) ≤ 2 ^ (-106 : ℤ) := zpow_le_zpow_right₀ one_le_two (by omega)
    have hmantissa : ((m * 5404319552844595 : ℕ) : ℚ) ≤ 2 ^ (106 : ℕ) := by
      have hle : m * 5404319552844595 ≤ 2 ^ 106 := by omega
      exact_mod_cast hle
    calc ((m * 5404319552844595 : ℕ) : ℚ) * 2 ^ (e + -54) ≤ 2 ^ (106 : ℕ) * 2 ^ (-106 : ℤ) :=
          mul_le_mul hmantissa hexp hpos.le (by positivity)
      _ ≤ 1 + 2 ^ (-53 : ℤ) := by norm_num
  · have hexp : (2 : ℚ) ^ (-51 + -54 : ℤ) = (2 ^ 105)⁻¹ := by norm_num
    have hbound : (1 + 2 ^ (-53 : ℤ) : ℚ) * 2 ^ 105 = (2 ^ 105 + 2 ^ 52 : ℕ) := by norm_num
    rw [hexp, ← div_eq_mul_inv, div_le_iff₀ (by positivity), hbound, Nat.cast_le]
    omega
  · -- a number of more than three bits in front of the point
    refine iff_of_false ?_ (by omega)
    have hfull : 2 ^ 52 ≤ m := h.full.resolve_right (by omega)
    have hexp : (2 : ℚ) ^ (-104 : ℤ) ≤ 2 ^ (e + -54) := zpow_le_zpow_right₀ one_le_two (by omega)
    have hmantissa : ((2 ^ 52 * 5404319552844595 : ℕ) : ℚ) ≤ (m * 5404319552844595 : ℕ) :=
      Nat.cast_le.2 (Nat.mul_le_mul_right _ hfull)
    refine not_le.2 ?_
    calc (1 + 2 ^ (-53 : ℤ) : ℚ) < (2 ^ 52 * 5404319552844595 : ℕ) * 2 ^ (-104 : ℤ) := by norm_num
      _ ≤ (m * 5404319552844595 : ℕ) * 2 ^ (e + -54) :=
          mul_le_mul hmantissa hexp (by positivity) (by positivity)

section Score

variable {x : Float} (hx : 0 ≤ x)

include hx

theorem isRisk_threeTenths_iff : IsRisk (x * 0.3) ↔ x ≤ 3.3333333333333335 := by
  obtain ⟨hnonneg, hle⟩ := mul_spec hx form_threeTenths (by decide)
  rw [IsRisk, and_iff_right hnonneg, hle, le_iff_atMost hx form_largest]
  cases hu : x.toModel.unpack with
  | zero s => exact Iff.rfl
  | infinity s => exact Iff.rfl
  | notANumber => exact Iff.rfl
  | finite s m e hm => exact productAtMostOne_threeTenths_iff (canonical_unpack hu).1

/-- The larger one of 0.1 and another number. -/
theorem isRisk_max_iff : IsRisk (Math.max 0.1 x) ↔ IsRisk x := by
  rw [Math.max_double form_tenth]
  split_ifs with hle
  · exact iff_of_true ⟨form_tenth.zero_le, form_tenth.le_one (by decide)⟩
      ⟨hx, le_one_of_le hx form_tenth (by decide) hle⟩
  · exact Iff.rfl

/-- The smaller one of a number below one and another number. -/
theorem isRisk_min {k : Float} {m : Nat} {e : Int} (hk : HasForm k m e) (he : e ≤ -53) :
    IsRisk (Math.min k x) := by
  rw [Math.min_double hk]
  split_ifs with hle
  · exact ⟨hk.zero_le, hk.le_one he⟩
  · exact ⟨hx, le_one_of_le hx hk he (le_of_not_le hx hk hle)⟩

end Score

/-- What is not a number is no risk, and is passed on. -/
theorem not_isRisk_of_isNaN {x : Float} (h : x.isNaN = true) : ¬ IsRisk x := fun hrisk =>
  not_le_of_isNaN h hrisk.2

theorem not_isRisk_max {x : Float} (h : x.isNaN = true) : ¬ IsRisk (Math.max 0.1 x) := by
  rw [Math.max_double form_tenth, if_neg (not_le_of_isNaN h)]
  exact not_isRisk_of_isNaN h

theorem not_isRisk_min {x : Float} (h : x.isNaN = true) : ¬ IsRisk (Math.min 0.5 x) := by
  rw [Math.min_double form_half, if_neg (not_le_isNaN h)]
  exact not_isRisk_of_isNaN h

/-! ## Heuristics -/

theorem triageWithHeuristics_in_domain_iff {p : Platform Float} {window : AnomalyWindow Float}
    {changeContext : Option ChangeContext} {assessment : Assessment Float}
    (h : triageWithHeuristics p window changeContext = some assessment) :
    (assessment.verdict ∈ domainVerdicts ∧ IsRisk assessment.riskScore) ↔ ScoreInDomain window := by
  have hsafe : "SAFE" ∈ domainVerdicts := by decide
  have hthreat : "THREAT" ∈ domainVerdicts := by decide
  have habs : 0 ≤ Math.abs window.mlScore ↔ window.mlScore.isNaN = false := zero_le_abs_iff
  have hnan : (Math.abs window.mlScore).isNaN = window.mlScore.isNaN := isNaN_abs _
  rw [ScoreInDomain, ← habs]
  rw [triageWithHeuristics] at h
  cases hanomalous : window.anomalous with
  | false =>
      rw [hanomalous, if_pos (by rfl)] at h
      obtain rfl := Option.some.inj h
      -- the only risk without a cap from above
      have hiff : IsRisk (Math.max 0.1 (Math.abs window.mlScore * 0.3)) ↔
          Math.abs window.mlScore ≤ 3.3333333333333335 := by
        by_cases hx : 0 ≤ Math.abs window.mlScore
        · rw [isRisk_max_iff (mul_spec hx form_threeTenths (by decide)).1]
          exact isRisk_threeTenths_iff hx
        · rw [habs, Bool.not_eq_false] at hx
          exact iff_of_false (not_isRisk_max (isNaN_mul (hnan.trans hx)))
            (not_le_of_isNaN (hnan.trans hx))
      simp only [hsafe, true_and, hiff, Bool.false_eq_true, false_and, false_or]
  | true =>
      rw [hanomalous, if_neg (by decide)] at h
      simp only [true_and, Bool.true_eq_false, false_and, or_false]
      by_cases hx : 0 ≤ Math.abs window.mlScore
      · refine iff_of_true ?_ hx
        split_ifs at h with hdeploy hhigh hmoderate
        · -- a deployment
          obtain ⟨explanation, -, rfl⟩ := Option.map_eq_some_iff.1 h
          exact ⟨hsafe, isRisk_min (mul_spec hx form_sixTenths (by decide)).1 form_half (by decide)⟩
        · obtain rfl := Option.some.inj h
          exact ⟨hthreat, isRisk_min hx form_cap (by decide)⟩
        · -- the score is at most 0.8 here, and at most 0.5 in the last case
          obtain rfl := Option.some.inj h
          have hle := not_not.1 (mt (lt_iff_not_le hx form_eightTenths).2 hhigh)
          exact ⟨hthreat, (mul_spec hx form_eightTenths (by decide)).1,
            mul_le_one hx form_eightTenths hle form_eightTenths (by decide) (by decide) (by decide)
              (by decide)⟩
        · obtain rfl := Option.some.inj h
          have hle := not_not.1 (mt (lt_iff_not_le hx form_half).2 hmoderate)
          exact ⟨hsafe, (mul_spec hx form_half (by decide)).1,
            mul_le_one hx form_half hle form_half (by decide) (by decide) (by decide) (by decide)⟩
      · -- every comparison with a score that is not a number fails
        refine iff_of_false ?_ hx
        rw [habs, Bool.not_eq_false] at hx
        have hscore := hnan.trans hx
        rintro ⟨-, hrisk⟩
        split_ifs at h with hdeploy hhigh hmoderate
        · obtain ⟨explanation, -, rfl⟩ := Option.map_eq_some_iff.1 h
          exact not_isRisk_min (isNaN_mul hscore) hrisk
        · exact not_le_isNaN hscore (le_of_lt hhigh)
        · exact not_le_isNaN hscore (le_of_lt hmoderate)
        · obtain rfl := Option.some.inj h
          exact not_isRisk_of_isNaN (isNaN_mul hscore) hrisk

/-! ## Triage -/

/-- The path of a triage, by the reply. -/
theorem assess_eq {R : Type} [OfNat R 0] [OfNat R 1] [OfScientific R] [Mul R] [LT R]
    [DecidableLT R] [Math R] (p : Platform R) (llm : LlmEnv) (window : AnomalyWindow R)
    (changeContext : Option ChangeContext) :
    assess p llm window changeContext =
      match llmReply p llm changeContext with
      | some response => some (parseGeminiResponse p response)
      | none => triageWithHeuristics p window changeContext := by
  rw [assess, llmReply, triageWithGemini]
  cases llm.active p with
  | false => rfl
  | true =>
      cases promptBuilds changeContext with
      | false => rfl
      | true =>
          cases llm.v1beta with
          | some response => rfl
          | none =>
              cases llm.v1 with
              | none => rfl
              | some response => rfl

/-- A triage result is inside the domain exactly when the reply that was parsed is, or without one
the score of the window. -/
theorem triage_in_domain_iff (p : Platform Float)
    (hupper : p.upperString "UNKNOWN" = "UNKNOWN") (llm : LlmEnv) (uuid : String)
    (window : AnomalyWindow Float) (changeContext : Option ChangeContext)
    (result : TriageResult Float)
    (h : triage p llm uuid window changeContext = some result) :
    InDomain window result ↔
      (∀ response, llmReply p llm changeContext = some response → ReplyInDomain p response) ∧
        (llmReply p llm changeContext = none → ScoreInDomain window) := by
  obtain ⟨assessment, hassess, rfl⟩ := Option.map_eq_some_iff.1 h
  -- the ids are always right
  have hdomain : ∀ P : Prop,
      ((assessment.verdict ∈ domainVerdicts ∧ IsRisk assessment.riskScore) ↔ P) →
        (InDomain window
          { id := uuid
            containerId := window.containerId
            windowId := window.id
            riskScore := assessment.riskScore
            verdict := assessment.verdict
            explanation := assessment.explanation
            llmResponseRaw := assessment.llmResponseRaw } ↔ P) := by
    intro P hP
    exact ⟨fun hin => hP.1 ⟨hin.verdict, hin.risk⟩,
      fun hp => ⟨(hP.2 hp).1, (hP.2 hp).2, rfl, rfl⟩⟩
  rw [assess_eq] at hassess
  refine hdomain _ ?_
  cases hreply : llmReply p llm changeContext with
  | some response =>
      rw [hreply] at hassess
      obtain rfl := Option.some.inj hassess
      rw [parseGeminiResponse_in_domain_iff p hupper response]
      constructor
      · rintro hin
        exact ⟨fun _ heq => Option.some.inj heq ▸ hin, nofun⟩
      · exact fun hin => hin.1 response rfl
  | none =>
      rw [hreply] at hassess
      rw [triageWithHeuristics_in_domain_iff hassess]
      exact ⟨fun hin => ⟨nofun, fun _ => hin⟩, fun hin => hin.2 rfl⟩

/-! ## Two replies -/

/-- An answer of the model. -/
def answerText (verdict risk : String) : String :=
  "\x7b\"verdict\":\"" ++ verdict ++ "\",\"risk_score\":" ++ risk ++ "\x7d"

/-- The reply of the service with the answer, whose marks are escaped. -/
def answerReply (verdict risk : String) : String :=
  "\x7b\"candidates\":[\x7b\"content\":\x7b\"parts\":[\x7b\"text\":\"\x7b\\\"verdict\\\":\\\"" ++
    verdict ++ "\\\",\\\"risk_score\\\":" ++ risk ++ "\x7d\"\x7d]\x7d\x7d]\x7d"

/-- Library functions that read and write these two texts. -/
def answerPlatform (verdict risk : String) (value : Float) : Platform Float where
  toUpperCase := Char.toUpper
  toLowerCase := Char.toLower
  upperString := fun s => String.ofList (s.toList.map Char.toUpper)
  isWhitespace := Char.isWhitespace
  format := fun _ => "0.90"
  parseDouble := fun _ => none
  readTree := fun s =>
    if s = answerReply verdict risk then
      .ok (.object [("candidates", .array [.object [("content", .object [("parts", .array
        [.object [("text", .text (answerText verdict risk))]])])]])])
    else if s = answerText verdict risk then
      .ok (.object [("verdict", .text verdict), ("risk_score", .number risk value)])
    else .error "Unrecognized token"
  toJson := fun _ => answerText verdict risk

/-- A service that gives the answer. -/
def answerEnv (verdict risk : String) : LlmEnv where
  llmEnabled := true
  apiKey := some "key"
  v1beta := some (some (answerReply verdict risk))
  v1 := none

/-- A window that was flagged. -/
def suspectWindow : AnomalyWindow Float where
  id := "w1"
  containerId := "web"
  windowStart := 0
  windowEnd := 5000
  mlScore := -0.9
  anomalous := true
  triageStatus := .pending
  triageResultId := none

/-- The result for the window. -/
def flaggedResult (verdict : String) (riskScore : Float) (answer : String) : TriageResult Float where
  id := "t1"
  containerId := "web"
  windowId := "w1"
  riskScore := riskScore
  verdict := verdict
  explanation := "No explanation provided."
  llmResponseRaw := some answer

/-- An answer with the verdict `malicious` and the risk 85 is taken over. -/
theorem malicious_reply_kept :
    triage (answerPlatform "malicious" "85" 85) (answerEnv "malicious" "85") "t1" suspectWindow
        none = some (flaggedResult "MALICIOUS" 85 (answerText "malicious" "85")) ∧
      ¬ InDomain suspectWindow (flaggedResult "MALICIOUS" 85 (answerText "malicious" "85")) := by
  refine ⟨by decide +kernel, fun h => ?_⟩
  exact absurd h.verdict (by decide)

/-- An answer of the kind that the model is asked for. -/
theorem threat_reply_in_domain :
    triage (answerPlatform "threat" "0.9" 0.9) (answerEnv "threat" "0.9") "t1" suspectWindow
        none = some (flaggedResult "THREAT" 0.9 (answerText "threat" "0.9")) ∧
      InDomain suspectWindow (flaggedResult "THREAT" 0.9 (answerText "threat" "0.9")) := by
  have htriage : triage (answerPlatform "threat" "0.9" 0.9) (answerEnv "threat" "0.9") "t1"
      suspectWindow none = some (flaggedResult "THREAT" 0.9 (answerText "threat" "0.9")) := by
    decide +kernel
  refine ⟨htriage, (triage_in_domain_iff _ (by decide +kernel) _ _ _ _ _ htriage).2
    ⟨fun response hresponse => ?_, fun _ => .inl ⟨rfl, by decide +kernel⟩⟩⟩
  have hreply : llmReply (answerPlatform "threat" "0.9" 0.9) (answerEnv "threat" "0.9") none =
      some (some (answerReply "threat" "0.9")) := by decide +kernel
  obtain rfl := Option.some.inj (hreply.symm.trans hresponse)
  intro rawText hraw
  have htext : rawTextOf (answerPlatform "threat" "0.9" 0.9)
      (some (answerReply "threat" "0.9")) = .ok (answerText "threat" "0.9") := by decide +kernel
  obtain rfl := Except.ok.inj (htext.symm.trans hraw)
  have htree : (answerPlatform "threat" "0.9" 0.9).readTree
      (extractJson (answerText "threat" "0.9")) =
        .ok (.object [("verdict", .text "threat"), ("risk_score", .number "0.9" 0.9)]) := by
    have hextract : extractJson (answerText "threat" "0.9") = answerText "threat" "0.9" := by
      decide +kernel
    have hne : answerText "threat" "0.9" ≠ answerReply "threat" "0.9" := by decide +kernel
    rw [hextract, answerPlatform]
    dsimp only
    rw [if_neg hne, if_pos rfl]
  rw [htree]
  refine ⟨?_, ?_⟩
  · exact (by decide +kernel : (answerPlatform "threat" "0.9" 0.9).upperString "threat" ∈
      domainVerdicts)
  · exact ⟨by decide +kernel, by decide +kernel⟩

end DeepKernel.Server
