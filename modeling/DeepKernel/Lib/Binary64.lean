import Mathlib

/-!
# Numbers of the format binary64

`Float` is the type of the IEEE 754 numbers with 64 bits: zeros and finite numbers with a sign, two
infinities, and one NaN. Its operations unpack their arguments into a mantissa and an exponent,
compute with them, and round the result to the nearest number, of two to the one with the even
mantissa. This module says what a comparison with a positive number asks of mantissa and exponent
(`AtMost`), and when the product with a positive number is at most one after rounding (`mul_spec`).
At the end are the functions of Java's `Math` on these numbers.
-/

set_option autoImplicit false

namespace DeepKernel.Lib

namespace Binary64

open Float.Model (Format UnpackedFloat totalExponent)
open Float.Model.UnpackedFloat

/-! ## Bits -/

/-- The form in which a finite number is stored: the mantissa has 53 bits, or the exponent is the
least one. -/
structure Canonical (m : Nat) (e : Int) : Prop where
  pos : 0 < m
  lt : m < 2 ^ 53
  least : -1074 ≤ e
  full : 2 ^ 52 ≤ m ∨ e = -1074

theorem unpack_packedInfinity (s : Sign) :
    unpack .binary64 (packedInfinity .binary64 s) = .infinity s := by
  simp [unpack, packedInfinity]

theorem toNat_implicitBit (m : BitVec 52) : (1#1 ++ m).toNat = 2 ^ 52 + m.toNat := by
  rw [BitVec.toNat_append, ← Nat.shiftLeft_add_eq_or_of_lt m.isLt]
  rfl

theorem canonical_unpack {b : BitVec Format.binary64.numBits} {s : Sign} {m : Nat} {e : Int}
    {hm : 0 < m} (h : unpack .binary64 b = .finite s m e hm) : Canonical m e ∧ e ≤ 971 := by
  rw [unpack] at h
  dsimp only at h
  split at h
  · split at h
    · cases h
    · cases h
  · split at h
    · split at h
      · cases h
      · rename_i hexp _
        injection h with _ hm he
        have hlt := (unpackMantissa b).isLt
        rw [hexp] at he
        simp [Format.exponentBias] at he
        exact ⟨⟨by assumption, by omega, by omega, by omega⟩, by omega⟩
    · rename_i hinf hexp
      injection h with _ hm he
      have hlt := (unpackMantissa b).isLt
      have htop : (unpackExponent b).toNat ≠ 2047 := fun h => hinf (BitVec.eq_of_toNat_eq h)
      have hpos : (unpackExponent b).toNat ≠ 0 := fun h => hexp (BitVec.eq_of_toNat_eq h)
      rw [toNat_implicitBit] at hm
      simp [Format.exponentBias] at he
      have hexpLt := (unpackExponent b).isLt
      exact ⟨⟨by assumption, by omega, by omega, by omega⟩, by omega⟩

/-- The mantissa of 53 bits is stored without the first one. -/
theorem unpack_normal (s : Sign) {e : BitVec 11} (m : BitVec 52) (hinf : e ≠ -1#11)
    (hsub : e ≠ 0#11) :
    unpack .binary64 (packComponents .binary64 s e m) =
      .finite s (2 ^ 52 + m.toNat) (e.toNat - 1075) (by omega) := by
  have hinf' : e ≠ 2047#11 := hinf
  simp [unpack, hinf', hsub, toNat_implicitBit, Format.exponentBias]

theorem unpack_subnormal (s : Sign) {m : BitVec 52} (hm : 0 < m.toNat) :
    unpack .binary64 (packComponents .binary64 s 0#11 m) = .finite s m.toNat (-1074) hm := by
  have hne : m ≠ 0#52 := by
    rintro rfl
    exact absurd hm (by decide)
  simp [unpack, hne, Format.exponentBias]

/-- A number in that form is read back, or is too large. -/
theorem unpack_pack (s : Sign) {m : Nat} {e : Int} (h : Canonical m e) :
    unpack .binary64 (pack .binary64 (.finite s m e h.pos)) =
      if e ≤ 971 then .finite s m e h.pos else .infinity s := by
  obtain ⟨hpos, hlt, hleast, hfull⟩ := h
  have hbias : (e + (Format.exponentBias .binary64 : Int) + (52 : Nat)) = e + 1075 := by
    simp [Format.exponentBias]
    omega
  rw [pack]
  dsimp only
  rw [hbias]
  by_cases hbig : e ≤ 971
  · have hexp : (BitVec.ofNat 11 (e + 1075).toNat).toNat = (e + 1075).toNat := by
      rw [BitVec.toNat_ofNat, Nat.mod_eq_of_lt (by omega)]
    have hinf : BitVec.ofNat 11 (e + 1075).toNat ≠ -1#11 := by
      intro heq
      rw [heq] at hexp
      have hall : (-1#11).toNat = 2047 := rfl
      omega
    have hsub : BitVec.ofNat 11 (e + 1075).toNat ≠ 0#11 := by
      intro heq
      rw [heq] at hexp
      have hzero : (0#11).toNat = 0 := rfl
      omega
    rw [if_pos hbig, if_neg (by omega)]
    by_cases hnormal : 2 ^ 52 ≤ m
    · have hlog : m.log2 + 1 = Format.mantissaBits .binary64 := by
        rw [(Nat.log2_eq_iff hpos.ne').2 ⟨hnormal, hlt⟩]
        rfl
      have hmant : 2 ^ 52 + (BitVec.ofNat 52 m).toNat = m := by
        rw [BitVec.toNat_ofNat]
        omega
      rw [if_pos hlog, unpack_normal s _ hinf hsub]
      simp only [hmant, hexp, UnpackedFloat.finite.injEq, true_and]
      omega
    · -- the exponent is the least one, which is stored as zero
      have hmin : e = -1074 := hfull.resolve_left hnormal
      have hlog : ¬ m.log2 + 1 = Format.mantissaBits .binary64 := by
        have hlt52 : m.log2 < 52 := (Nat.log2_lt hpos.ne').2 (Nat.lt_of_not_le hnormal)
        simp only [Format.mantissaBits]
        omega
      have hmant : (BitVec.ofNat 52 m).toNat = m := by
        rw [BitVec.toNat_ofNat, Nat.mod_eq_of_lt (Nat.lt_of_not_le hnormal)]
      rw [if_neg hlog, unpack_subnormal s (hmant.symm ▸ hpos)]
      simp only [hmant, hmin]
  · rw [if_neg hbig, if_pos (by omega), unpack_packedInfinity]

/-! ## Rounding -/

/-- The nearest number to `m / 2 ^ n`, and the even one of two. -/
def nearest (m n : Nat) : Nat :=
  if 2 * (m % 2 ^ n) < 2 ^ n then m / 2 ^ n
  else if 2 * (m % 2 ^ n) = 2 ^ n then m / 2 ^ n + m / 2 ^ n % 2
  else m / 2 ^ n + 1

theorem le_nearest (m n : Nat) : m / 2 ^ n ≤ nearest m n := by
  rw [nearest]
  split_ifs
  · exact le_refl _
  · exact Nat.le_add_right _ _
  · exact Nat.le_add_right _ _

theorem nearest_le (m n : Nat) : nearest m n ≤ m / 2 ^ n + 1 := by
  rw [nearest]
  split_ifs
  · exact Nat.le_succ _
  · omega
  · exact le_refl _

/-- A mantissa that was shifted: the bit behind it, and whether there is another one behind that. -/
theorem shift_succ (m n : Nat) :
    ExtendedMantissa.ofMantissaAndAccuracy m .exact >>> (n + 1) =
      ⟨m / 2 ^ (n + 1), m / 2 ^ n % 2 != 0, m % 2 ^ n != 0⟩ := by
  induction n with
  | zero =>
      simp [HShiftRight.hShiftRight, Nat.repeat, ExtendedMantissa.shiftRightOne,
        ExtendedMantissa.ofMantissaAndAccuracy, Nat.mod_one]
  | succ n ih =>
      have hstep : ExtendedMantissa.ofMantissaAndAccuracy m .exact >>> (n + 1 + 1) =
          (ExtendedMantissa.ofMantissaAndAccuracy m .exact >>> (n + 1)).shiftRightOne := rfl
      rw [hstep, ih]
      have hmod : m % 2 ^ (n + 1) = m % 2 ^ n + 2 ^ n * (m / 2 ^ n % 2) := Nat.mod_mul
      have hpos : 0 < 2 ^ n := Nat.two_pow_pos n
      simp only [ExtendedMantissa.shiftRightOne, ExtendedMantissa.mk.injEq, Nat.div_div_eq_div_mul]
      refine ⟨by rw [pow_succ 2 (n + 1)], trivial, ?_⟩
      rw [hmod, Bool.eq_iff_iff]
      simp only [Bool.or_eq_true, bne_iff_ne, ne_eq, Nat.add_eq_zero_iff, Nat.mul_eq_zero]
      omega

theorem roundedMantissa_shift (m n : Nat) :
    (ExtendedMantissa.ofMantissaAndAccuracy m .exact >>> n).roundedMantissa = nearest m n := by
  cases n with
  | zero =>
      simp [nearest, HShiftRight.hShiftRight, Nat.repeat, ExtendedMantissa.ofMantissaAndAccuracy,
        ExtendedMantissa.roundedMantissa, ExtendedMantissa.accuracy, Accuracy.roundToNearestEven,
        Nat.mod_one]
  | succ n =>
      have hmod : m % 2 ^ (n + 1) = m % 2 ^ n + 2 ^ n * (m / 2 ^ n % 2) := Nat.mod_mul
      have hlt : m % 2 ^ n < 2 ^ n := Nat.mod_lt _ (Nat.two_pow_pos n)
      have hpow : 2 ^ (n + 1) = 2 * 2 ^ n := by rw [pow_succ, Nat.mul_comm]
      rw [shift_succ, nearest, hmod]
      generalize m / 2 ^ (n + 1) = q
      rw [hpow]
      rcases Nat.mod_two_eq_zero_or_one (m / 2 ^ n) with hround | hround
      · -- less than a half is left
        rw [hround, Nat.mul_zero, Nat.add_zero, if_pos (by omega)]
        cases (m % 2 ^ n != 0) <;> rfl
      · rw [hround, Nat.mul_one, if_neg (by omega)]
        by_cases hsticky : m % 2 ^ n = 0
        · rw [hsticky, if_pos (by omega)]
          rfl
        · rw [if_neg (by omega), bne_iff_ne.2 hsticky]
          rfl

/-- The number with a rounded mantissa, of which 54 bits are too many. -/
def rounded (s : Sign) (m : Nat) (e : Int) : UnpackedFloat :=
  if h : m = 0 then .zero s
  else if m = 2 ^ 53 then .finite s (2 ^ 52) (e + 1) (by decide)
  else .finite s m e (Nat.pos_of_ne_zero h)

theorem targetExponent_binary64 (t : Int) :
    Format.targetExponent .binary64 t = max (t - 53) (-1074) := by
  simp [Format.targetExponent, Format.minExponent, Format.mantissaBits]

/-- A rounded mantissa is shifted once more if the rounding has made it too long. -/
theorem shift_rounded {m : Nat} {e : Int} (hm : m ≤ 2 ^ 53) (he : -1074 ≤ e) :
    shiftToTargetExponent .binary64 m e .exact =
      if m = 2 ^ 53 then (⟨2 ^ 52, false, false⟩, e + 1) else (⟨m, false, false⟩, e) := by
  rw [shiftToTargetExponent, shiftToExponent, targetExponent_binary64, totalExponent]
  split_ifs with hfull
  · subst hfull
    have hlog : (2 ^ 53).log2 = 53 := Nat.log2_two_pow
    have hshift : (max (((2 ^ 53).log2 : Int) + 1 + e - 53) (-1074) - e).toNat = 1 := by
      rw [hlog]
      omega
    rw [hshift]
    rfl
  · have hlog : m.log2 ≤ 52 := by
      rcases Nat.eq_zero_or_pos m with rfl | hpos
      · decide
      · exact Nat.le_of_lt_succ ((Nat.log2_lt hpos.ne').2 (by omega))
    have hshift : (max ((m.log2 : Int) + 1 + e - 53) (-1074) - e).toNat = 0 := by
      omega
    rw [hshift]
    simp only [Int.natCast_zero, Int.add_zero]
    rfl

theorem nearest_le_full {m n : Nat} (hn : m.log2 ≤ n + 52) : nearest m n ≤ 2 ^ 53 := by
  have hlt : m < 2 ^ 53 * 2 ^ n := by
    rw [← pow_add]
    exact Nat.lt_of_lt_of_le Nat.lt_log2_self (Nat.pow_le_pow_right (by decide) (by omega))
  have hdiv : m / 2 ^ n < 2 ^ 53 := (Nat.div_lt_iff_lt_mul (Nat.two_pow_pos n)).2 hlt
  exact (nearest_le m n).trans hdiv

/-- Rounding, with the number `n` of bits that do not fit. -/
theorem roundWithAccuracy_eq (s : Sign) {m : Nat} {e : Int} {n : Nat}
    (hn : (n : Int) = max (m.log2 + 1 + e - 53) (-1074) - e) :
    roundWithAccuracy .binary64 s m e .exact = rounded s (nearest m n) (e + n) := by
  have hfirst : shiftToTargetExponent .binary64 m e .exact =
      (ExtendedMantissa.ofMantissaAndAccuracy m .exact >>> n, e + n) := by
    rw [shiftToTargetExponent, shiftToExponent, targetExponent_binary64, totalExponent, ← hn,
      Int.toNat_natCast]
  have hle : nearest m n ≤ 2 ^ 53 := nearest_le_full (by omega)
  rw [roundWithAccuracy, hfirst]
  dsimp only
  rw [roundedMantissa_shift, shift_rounded hle (by omega), rounded]
  by_cases hfull : nearest m n = 2 ^ 53
  · simp [hfull]
  · simp only [if_neg hfull]

/-! ## At most one -/

/-- At most the number with this mantissa and exponent. -/
def AtMost (m : Nat) (e : Int) : UnpackedFloat → Prop
  | .zero _ => True
  | .finite _ m' e' _ => e' < e ∨ e' = e ∧ m' ≤ m
  | .infinity _ => False
  | .notANumber => False

theorem atMost_rounded {s : Sign} {m : Nat} {e : Int} :
    AtMost (2 ^ 52) (-52) (rounded s m e) ↔ m = 0 ∨ e < -52 ∨ e = -52 ∧ m ≤ 2 ^ 52 := by
  rw [rounded]
  split_ifs with hzero hfull
  · simp [AtMost, hzero]
  · simp only [AtMost, hfull]
    omega
  · simp only [AtMost, hzero, false_or]

/-- A rounded number is read back from its bits, or is too large for them. -/
theorem unpack_pack_rounded (s : Sign) {m : Nat} {e : Int} (hm : m ≤ 2 ^ 53) (he : -1074 ≤ e)
    (hfull : 2 ^ 52 ≤ m ∨ e = -1074) :
    unpack .binary64 (pack .binary64 (rounded s m e)) = rounded s m e ∨
      unpack .binary64 (pack .binary64 (rounded s m e)) = .infinity s ∧
        ¬ AtMost (2 ^ 52) (-52) (rounded s m e) := by
  rw [rounded]
  split_ifs with hzero hover
  · rw [pack, unpack_packedZero]
    exact .inl rfl
  · rw [unpack_pack s ⟨by decide, by decide, by omega, .inl (le_refl _)⟩]
    split_ifs with hbig
    · exact .inl rfl
    · refine .inr ⟨rfl, ?_⟩
      simp only [AtMost]
      omega
  · rw [unpack_pack s ⟨Nat.pos_of_ne_zero hzero, by omega, he, hfull⟩]
    split_ifs with hbig
    · exact .inl rfl
    · refine .inr ⟨rfl, ?_⟩
      simp only [AtMost]
      omega

/-- A number between one and two is rounded to one up to half of a unit in the last place. -/
theorem nearest_le_one_iff {m n : Nat} (hm : 2 ^ 52 * 2 ^ n ≤ m) :
    nearest m n ≤ 2 ^ 52 ↔ 2 * m ≤ (2 ^ 53 + 1) * 2 ^ n := by
  have hdiv : 2 ^ 52 ≤ m / 2 ^ n := (Nat.le_div_iff_mul_le (Nat.two_pow_pos n)).2 hm
  have hsum := Nat.div_add_mod m (2 ^ n)
  have hlt : m % 2 ^ n < 2 ^ n := Nat.mod_lt _ (Nat.two_pow_pos n)
  rcases Nat.eq_or_lt_of_le hdiv with hone | hmore
  · -- the even one of two is one itself
    have heven : 2 ^ 52 % 2 = 0 := by decide
    rw [nearest, ← hone, heven]
    rw [← hone] at hsum
    split_ifs <;> omega
  · have hnearest := le_nearest m n
    have hmul : 2 ^ n * (2 ^ 52 + 1) ≤ 2 ^ n * (m / 2 ^ n) := Nat.mul_le_mul_left _ hmore
    omega

theorem value_lt {m : Nat} {e : Int} : (m : ℚ) * 2 ^ e < 2 ^ ((m.log2 : Int) + 1 + e) := by
  have hm : (m : ℚ) < 2 ^ (m.log2 + 1) := by exact_mod_cast Nat.lt_log2_self
  have hpow : (2 : ℚ) ^ ((m.log2 : Int) + 1 + e) = 2 ^ (m.log2 + 1) * 2 ^ e := by
    rw [zpow_add₀ two_ne_zero]
    norm_cast
  rw [hpow]
  exact mul_lt_mul_of_pos_right hm (zpow_pos two_pos e)

theorem le_value {m : Nat} {e : Int} (hm : 0 < m) : 2 ^ ((m.log2 : Int) + e) ≤ (m : ℚ) * 2 ^ e := by
  have hlog : (2 : ℚ) ^ m.log2 ≤ m := by exact_mod_cast Nat.log2_self_le hm.ne'
  rw [zpow_add₀ two_ne_zero, zpow_natCast]
  exact mul_le_mul_of_nonneg_right hlog (zpow_pos two_pos e).le

/-- Above the least exponent no bit of the mantissa is missing. -/
theorem full_of_least_lt {m : Nat} {e : Int} (hm : 0 < m) {n : Nat}
    (hn : (n : Int) = max (m.log2 + 1 + e - 53) (-1074) - e) (h : -1074 < e + n) :
    2 ^ 52 * 2 ^ n ≤ m := by
  rw [← pow_add]
  exact (Nat.pow_le_pow_right (by decide) (by omega)).trans (Nat.log2_self_le hm.ne')

/-- A number is rounded to at most one exactly if it is at most one and half of a unit in the last
place. -/
theorem rounded_atMost_one_iff {s : Sign} {m : Nat} {e : Int} (hm : 2 ^ 52 ≤ m) {n : Nat}
    (hn : (n : Int) = max (m.log2 + 1 + e - 53) (-1074) - e) :
    AtMost (2 ^ 52) (-52) (rounded s (nearest m n) (e + n)) ↔
      (m : ℚ) * 2 ^ e ≤ 1 + 2 ^ (-53 : ℤ) := by
  have hlog : 52 ≤ m.log2 := (Nat.le_log2 (by omega)).2 hm
  have hpos : 0 < m := by omega
  have hlow : -52 ≤ e + n → 2 ^ 52 * 2 ^ n ≤ m := fun h => full_of_least_lt hpos hn (by omega)
  have hnearest : -52 ≤ e + n → 2 ^ 52 ≤ nearest m n := fun h =>
    ((Nat.le_div_iff_mul_le (Nat.two_pow_pos n)).2 (hlow h)).trans (le_nearest m n)
  have hextra : (0 : ℚ) < 2 ^ (-53 : ℤ) := zpow_pos two_pos _
  rw [atMost_rounded]
  rcases lt_trichotomy (e + n) (-52) with hsmall | hone | hlarge
  · -- less than one
    refine iff_of_true (.inr (.inl hsmall)) ?_
    have hle : (2 : ℚ) ^ ((m.log2 : Int) + 1 + e) ≤ 2 ^ (0 : ℤ) :=
      zpow_le_zpow_right₀ one_le_two (by omega)
    rw [zpow_zero] at hle
    linarith [value_lt (m := m) (e := e)]
  · -- from one up to two
    have hfull := hnearest hone.ge
    have hiff : (nearest m n = 0 ∨ e + n < -52 ∨ e + n = -52 ∧ nearest m n ≤ 2 ^ 52) ↔
        nearest m n ≤ 2 ^ 52 := by omega
    rw [hiff, nearest_le_one_iff (hlow hone.ge)]
    obtain rfl : e = -((52 + n : ℕ) : ℤ) := by omega
    have hright : (1 + 2 ^ (-53 : ℤ)) * 2 ^ (52 + n) = ((2 ^ 53 + 1) * 2 ^ n : ℚ) / 2 := by
      rw [pow_add]
      norm_num
      ring
    rw [zpow_neg, zpow_natCast, ← div_eq_mul_inv, div_le_iff₀ (pow_pos two_pos _), hright,
      le_div_iff₀ two_pos, mul_comm]
    exact_mod_cast Iff.rfl
  · -- two or more
    refine iff_of_false ?_ ?_
    · have hfull := hnearest hlarge.le
      omega
    · have hle : (2 : ℚ) ^ (1 : ℤ) ≤ 2 ^ ((m.log2 : Int) + e) :=
        zpow_le_zpow_right₀ one_le_two (by omega)
      have hhalf : (2 : ℚ) ^ (-53 : ℤ) < 1 := by norm_num
      rw [zpow_one] at hle
      linarith [le_value (e := e) hpos]

/-! ## Comparisons -/

/-- A positive number with this mantissa and exponent. -/
def HasForm (x : Float) (m : Nat) (e : Int) : Prop :=
  ∃ hm : 0 < m, x.toModel.unpack = .finite .positive m e hm

theorem hasForm_one : HasForm 1 (2 ^ 52) (-52) := ⟨by decide, rfl⟩

theorem le_iff {x y : Float} : x ≤ y ↔ x.toModel.unpack.le y.toModel.unpack = true :=
  decide_eq_true_iff

theorem lt_iff {x y : Float} : x < y ↔ x.toModel.unpack.lt y.toModel.unpack = true :=
  decide_eq_true_iff

/-- The numbers that are not negative: their sign, unless they are zero, is positive. -/
inductive NonNeg : UnpackedFloat → Prop
  | zero (s : Sign) : NonNeg (.zero s)
  | finite (m : Nat) (e : Int) (hm : 0 < m) : NonNeg (.finite .positive m e hm)
  | infinity : NonNeg (.infinity .positive)

theorem zero_le_iff {x : Float} : 0 ≤ x ↔ NonNeg x.toModel.unpack := by
  have hzero : (0 : Float).toModel.unpack = .zero .positive := rfl
  rw [le_iff, hzero]
  cases x.toModel.unpack with
  | zero s => exact iff_of_true rfl (.zero s)
  | notANumber => exact iff_of_false (by decide) nofun
  | infinity s =>
      cases s with
      | positive => exact iff_of_true rfl .infinity
      | negative => exact iff_of_false (by decide) nofun
  | finite s m e hm =>
      cases s with
      | positive => exact iff_of_true rfl (.finite m e hm)
      | negative => exact iff_of_false nofun nofun

/-- Exponents are compared first. -/
theorem isLE_compare_iff {m m' : Nat} {e e' : Int} :
    ((compare e' e).then (compare m' m)).isLE = true ↔ e' < e ∨ e' = e ∧ m' ≤ m := by
  rcases lt_trichotomy e' e with h | rfl | h
  · rw [compare_lt_iff_lt.2 h]
    exact iff_of_true rfl (.inl h)
  · rw [compare_eq_iff_eq.2 rfl, Ordering.eq_then, Nat.isLE_compare]
    simp
  · rw [compare_gt_iff_gt.2 h]
    exact iff_of_false nofun (by omega)

theorem le_iff_atMost {x k : Float} {m : Nat} {e : Int} (hx : 0 ≤ x) (hk : HasForm k m e) :
    x ≤ k ↔ AtMost m e x.toModel.unpack := by
  obtain ⟨hm, hk⟩ := hk
  have hu := zero_le_iff.1 hx
  rw [le_iff, hk]
  generalize x.toModel.unpack = u at hu ⊢
  cases hu with
  | zero s => exact iff_of_true rfl trivial
  | finite m' e' hm' => exact isLE_compare_iff
  | infinity => exact iff_of_false nofun id

/-- Of two numbers that are not negative one is at most the other, and not both are less. -/
theorem lt_iff_not_le {x k : Float} {m : Nat} {e : Int} (hx : 0 ≤ x) (hk : HasForm k m e) :
    k < x ↔ ¬ x ≤ k := by
  obtain ⟨hm, hk'⟩ := hk
  have hu := zero_le_iff.1 hx
  rw [le_iff_atMost hx ⟨hm, hk'⟩, lt_iff, hk']
  generalize x.toModel.unpack = u at hu ⊢
  cases hu with
  | zero s => exact iff_of_false nofun fun h => h trivial
  | infinity => exact iff_of_true rfl id
  | finite m' e' hm' =>
      have hlt : (UnpackedFloat.finite .positive m e hm).lt (.finite .positive m' e' hm') = true ↔
          (compare e e').then (compare m m') = .lt := by
        simp [UnpackedFloat.lt, UnpackedFloat.compare]
      rw [hlt, Ordering.then_eq_lt, compare_lt_iff_lt, compare_eq_iff_eq, compare_lt_iff_lt]
      simp only [AtMost]
      omega

theorem le_of_lt {x y : Float} (h : x < y) : x ≤ y := by
  rw [lt_iff, UnpackedFloat.lt, beq_iff_eq] at h
  rw [le_iff, UnpackedFloat.le, h]
  rfl

theorem le_of_not_le {x k : Float} {m : Nat} {e : Int} (hx : 0 ≤ x) (hk : HasForm k m e)
    (h : ¬ k ≤ x) : x ≤ k := by
  by_contra hnot
  exact h (le_of_lt ((lt_iff_not_le hx hk).2 hnot))

/-! ## Not a number -/

theorem isNaN_iff {x : Float} : x.isNaN = true ↔ x.toModel.unpack = .notANumber :=
  UnpackedFloat.isNaN_iff

theorem not_le_of_isNaN {x y : Float} (h : x.isNaN = true) : ¬ x ≤ y := by
  rw [le_iff, isNaN_iff.1 h]
  simp [UnpackedFloat.le, UnpackedFloat.compare]

theorem not_le_isNaN {x y : Float} (h : y.isNaN = true) : ¬ x ≤ y := by
  rw [le_iff, isNaN_iff.1 h]
  cases x.toModel.unpack <;> simp [UnpackedFloat.le, UnpackedFloat.compare]

theorem isNaN_mul {x y : Float} (h : x.isNaN = true) : (x * y).isNaN = true := by
  have hmul : (x * y).toModel.unpack = unpack .binary64 (pack .binary64
      (UnpackedFloat.mul .binary64 x.toModel.unpack y.toModel.unpack)) := rfl
  rw [isNaN_iff] at h ⊢
  rw [hmul, h, UnpackedFloat.mul]
  exact unpack_packedNaN

/-! ## Absolute values and products -/

theorem unpack_abs (x : Float) : x.abs.toModel.unpack = x.toModel.unpack.abs := by
  have habs : x.abs.toModel.unpack = unpack .binary64 (pack .binary64 x.toModel.unpack.abs) := rfl
  rw [habs]
  cases h : x.toModel.unpack with
  | zero s => exact unpack_packedZero
  | notANumber => exact unpack_packedNaN
  | infinity s => exact unpack_packedInfinity _
  | finite s m e hm =>
      obtain ⟨hcanonical, hle⟩ := canonical_unpack h
      rw [UnpackedFloat.abs, unpack_pack _ hcanonical, if_pos hle]

theorem zero_le_abs_iff {x : Float} : 0 ≤ x.abs ↔ x.isNaN = false := by
  rw [zero_le_iff, unpack_abs, ← Bool.not_eq_true, isNaN_iff]
  cases x.toModel.unpack with
  | zero s => exact iff_of_true (.zero _) nofun
  | notANumber => exact iff_of_false nofun fun h => h rfl
  | infinity s => exact iff_of_true .infinity nofun
  | finite s m e hm => exact iff_of_true (.finite m e hm) nofun

theorem isNaN_abs (x : Float) : x.abs.isNaN = x.isNaN := by
  rw [Bool.eq_iff_iff, isNaN_iff, isNaN_iff, unpack_abs]
  cases x.toModel.unpack <;> simp [UnpackedFloat.abs]

/-- A number that is at most another one below one. -/
theorem le_one_of_le {x k : Float} {m : Nat} {e : Int} (hx : 0 ≤ x) (hk : HasForm k m e)
    (he : e ≤ -53) (hle : x ≤ k) : x ≤ 1 := by
  have hat := (le_iff_atMost hx hk).1 hle
  rw [le_iff_atMost hx hasForm_one]
  cases hu : x.toModel.unpack with
  | zero s => trivial
  | finite s m' e' hm' =>
      rw [hu] at hat
      simp only [AtMost] at hat ⊢
      omega
  | infinity s =>
      rw [hu] at hat
      exact hat
  | notANumber =>
      rw [hu] at hat
      exact hat

theorem HasForm.zero_le {x : Float} {m : Nat} {e : Int} (hx : HasForm x m e) : 0 ≤ x := by
  obtain ⟨hm, hx⟩ := hx
  rw [zero_le_iff, hx]
  exact .finite m e hm

theorem HasForm.le_one {x : Float} {m : Nat} {e : Int} (hx : HasForm x m e) (he : e ≤ -53) :
    x ≤ 1 := by
  rw [le_iff_atMost hx.zero_le hasForm_one]
  obtain ⟨hm, hx⟩ := hx
  rw [hx]
  exact .inl (by omega)

/-- The product with a number of this mantissa and exponent is at most one after rounding. -/
def ProductAtMostOne (m : Nat) (e : Int) : UnpackedFloat → Prop
  | .zero _ => True
  | .finite _ m' e' _ => ((m' * m : ℕ) : ℚ) * 2 ^ (e' + e) ≤ 1 + 2 ^ (-53 : ℤ)
  | .infinity _ => False
  | .notANumber => False

section Product

variable {x c : Float} {m : Nat} {e : Int} (hx : 0 ≤ x) (hc : HasForm c m e) (hm : 2 ^ 52 ≤ m)

include hx hc hm

/-- A product with a positive number is not negative, and at most one if it is before rounding, up
to half of a unit in the last place. -/
theorem mul_spec : 0 ≤ x * c ∧ (x * c ≤ 1 ↔ ProductAtMostOne m e x.toModel.unpack) := by
  obtain ⟨hpos, hc⟩ := hc
  have hmul : (x * c).toModel.unpack = unpack .binary64 (pack .binary64
      (UnpackedFloat.mul .binary64 x.toModel.unpack (.finite .positive m e hpos))) := by
    rw [← hc]
    rfl
  suffices hspec : NonNeg (x * c).toModel.unpack ∧
      (AtMost (2 ^ 52) (-52) (x * c).toModel.unpack ↔ ProductAtMostOne m e x.toModel.unpack) from
    ⟨zero_le_iff.2 hspec.1, (le_iff_atMost (zero_le_iff.2 hspec.1) hasForm_one).trans hspec.2⟩
  have hu := zero_le_iff.1 hx
  rw [hmul]
  generalize x.toModel.unpack = u at hu
  cases hu with
  | zero s =>
      have hzero : unpack .binary64 (pack .binary64
          (UnpackedFloat.mul .binary64 (.zero s) (.finite .positive m e hpos))) =
            .zero (s * .positive) :=
        unpack_packedZero
      rw [hzero]
      exact ⟨.zero _, Iff.rfl⟩
  | infinity =>
      have hinf : unpack .binary64 (pack .binary64
          (UnpackedFloat.mul .binary64 (.infinity .positive) (.finite .positive m e hpos))) =
            .infinity .positive :=
        unpack_packedInfinity _
      rw [hinf]
      exact ⟨.infinity, Iff.rfl⟩
  | finite m' e' hm' =>
      have hfull : 2 ^ 52 ≤ m' * m := hm.trans (Nat.le_mul_of_pos_left m hm')
      have hlog : 52 ≤ (m' * m).log2 := (Nat.le_log2 (by omega)).2 hfull
      obtain ⟨n, hn⟩ := Int.eq_ofNat_of_zero_le
        (a := max ((m' * m).log2 + 1 + (e' + e) - 53) (-1074) - (e' + e)) (by omega)
      have hround : UnpackedFloat.mul .binary64 (.finite .positive m' e' hm')
          (.finite .positive m e hpos) = rounded .positive (nearest (m' * m) n) (e' + e + n) :=
        roundWithAccuracy_eq .positive hn.symm
      have hcanonical : 2 ^ 52 ≤ nearest (m' * m) n ∨ e' + e + n = -1074 := by
        by_cases hleast : -1074 < e' + e + n
        · exact .inl (((Nat.le_div_iff_mul_le (Nat.two_pow_pos n)).2
            (full_of_least_lt (by omega) hn.symm hleast)).trans (le_nearest _ n))
        · exact .inr (by omega)
      have hone : AtMost (2 ^ 52) (-52) (rounded .positive (nearest (m' * m) n) (e' + e + n)) ↔ _ :=
        rounded_atMost_one_iff hfull hn.symm
      rw [hround]
      rcases unpack_pack_rounded .positive (nearest_le_full (by omega)) (by omega) hcanonical with
        hread | ⟨hread, hlarge⟩
      · rw [hread]
        refine ⟨?_, hone⟩
        rw [rounded]
        split_ifs
        · exact .zero _
        · exact .finite _ _ _
        · exact .finite _ _ _
      · rw [hread]
        exact ⟨.infinity, iff_of_false id fun h => hlarge (hone.2 h)⟩

end Product

/-- A product of numbers below one is at most one. -/
theorem mul_le_one {x c k : Float} {m m' : Nat} {e e' : Int} (hx : 0 ≤ x) (hk : HasForm k m' e')
    (hle : x ≤ k) (hc : HasForm c m e) (hm : 2 ^ 52 ≤ m) (hlt : m < 2 ^ 53) (he : e ≤ -53)
    (he' : e' ≤ -53) : x * c ≤ 1 := by
  rw [(mul_spec hx hc hm).2]
  have hat := (le_iff_atMost hx hk).1 hle
  cases hu : x.toModel.unpack with
  | zero s => trivial
  | infinity s =>
      rw [hu] at hat
      exact hat
  | notANumber =>
      rw [hu] at hat
      exact hat
  | finite s a b ha =>
      rw [hu] at hat
      simp only [AtMost] at hat
      have hmantissa : ((a * m : ℕ) : ℚ) ≤ 2 ^ (106 : ℕ) := by
        have hprod : a * m ≤ 2 ^ 53 * 2 ^ 53 :=
          Nat.mul_le_mul (canonical_unpack hu).1.lt.le hlt.le
        rw [← pow_add] at hprod
        exact_mod_cast hprod
      have hexp : (2 : ℚ) ^ (b + e) ≤ 2 ^ (-106 : ℤ) := zpow_le_zpow_right₀ one_le_two (by omega)
      have hpos : (0 : ℚ) < 2 ^ (b + e) := zpow_pos two_pos _
      calc ((a * m : ℕ) : ℚ) * 2 ^ (b + e) ≤ 2 ^ (106 : ℕ) * 2 ^ (-106 : ℤ) :=
            mul_le_mul hmantissa hexp hpos.le (by positivity)
        _ ≤ 1 + 2 ^ (-53 : ℤ) := by norm_num

theorem HasForm.isNaN_eq_false {x : Float} {m : Nat} {e : Int} (hx : HasForm x m e) :
    x.isNaN = false := by
  obtain ⟨hm, hx⟩ := hx
  rw [← Bool.not_eq_true, isNaN_iff, hx]
  nofun

theorem HasForm.ne_zero {x : Float} {m : Nat} {e : Int} (hx : HasForm x m e) :
    (x == 0) = false := by
  obtain ⟨hm, hx⟩ := hx
  have hzero : (0 : Float).toModel.unpack = .zero .positive := rfl
  have hbeq : (x == 0) = x.toModel.unpack.beq (0 : Float).toModel.unpack := rfl
  rw [hbeq, hx, hzero]
  rfl

end Binary64

/-! ## The functions of `Math` -/

/-- `Math.abs`, `Math.min` and `Math.max`. -/
class Math (R : Type) where
  abs : R → R
  min : R → R → R
  max : R → R → R

/-- Exact arithmetic. -/
instance exactMath {R : Type} [Field R] [LinearOrder R] : Math R where
  abs x := |x|
  min x y := Min.min x y
  max x y := Max.max x y

/-- Doubles: NaN is passed on, and the zero with a sign is below the other one. -/
instance doubleMath : Math Float where
  abs := Float.abs
  min a b :=
    if a.isNaN then a
    else if a == 0 && b == 0 && b.toBits == 0x8000000000000000 then b
    else if a ≤ b then a
    else b
  max a b :=
    if a.isNaN then a
    else if a == 0 && b == 0 && a.toBits == 0x8000000000000000 then b
    else if b ≤ a then a
    else b

namespace Math

section Exact

variable {R : Type} [Field R] [LinearOrder R]

@[simp] theorem abs_exact (x : R) : Math.abs x = |x| := rfl

@[simp] theorem min_exact (x y : R) : Math.min x y = Min.min x y := rfl

@[simp] theorem max_exact (x y : R) : Math.max x y = Max.max x y := rfl

end Exact

section Double

open Binary64

variable {k y : Float} {m : Nat} {e : Int} (hk : HasForm k m e)

include hk

theorem min_double : Math.min k y = if k ≤ y then k else y := by
  have hzero : (k == 0 && y == 0 && y.toBits == 0x8000000000000000) = false := by
    rw [hk.ne_zero, Bool.false_and, Bool.false_and]
  simp only [Math.min, hk.isNaN_eq_false, hzero, Bool.false_eq_true, if_false]

theorem max_double : Math.max k y = if y ≤ k then k else y := by
  have hzero : (k == 0 && y == 0 && k.toBits == 0x8000000000000000) = false := by
    rw [hk.ne_zero, Bool.false_and, Bool.false_and]
  simp only [Math.max, hk.isNaN_eq_false, hzero, Bool.false_eq_true, if_false]

end Double

end Math

end DeepKernel.Lib
