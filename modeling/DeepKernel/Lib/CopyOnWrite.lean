import Mathlib.Data.List.DropRight
import Mathlib.Tactic

/-!
# Java lists and their sublists

Indices and sizes are 32-bit integers, with their overflow. A sublist of a `CopyOnWriteArrayList` is a
view: each change of the list makes a new array, and a view of an array that is no longer that of the
list throws when it is read. A sublist of an `ArrayList` that nobody changes is the elements it shows.
-/

set_option autoImplicit false

namespace DeepKernel.Lib

/-- The exceptions of the lists. -/
inductive ListError
  | indexOutOfBounds
  | illegalArgument
  | concurrentModification
  deriving DecidableEq

variable {α : Type}

/-- `size()`. -/
def javaSize (l : List α) : Int32 := Int32.ofNat l.length

/-- The elements between two indices. -/
def between (l : List α) (fromIndex toIndex : Int32) : List α :=
  (l.drop fromIndex.toNatClampNeg).take (toIndex.toNatClampNeg - fromIndex.toNatClampNeg)

/-- `ArrayList.subList`, with its range check. -/
def subList (l : List α) (fromIndex toIndex : Int32) : Except ListError (List α) :=
  if fromIndex < 0 then .error .indexOutOfBounds
  else if javaSize l < toIndex then .error .indexOutOfBounds
  else if toIndex < fromIndex then .error .illegalArgument
  else .ok (between l fromIndex toIndex)

/-- `CopyOnWriteArrayList`; `version` counts the arrays that it has had. -/
structure CopyOnWriteArrayList (α : Type) where
  array : List α
  version : Nat

/-- A view: the array that it expects and the indices in it. -/
structure SubListView where
  fromIndex : Int32
  toIndex : Int32
  expectedArray : Nat

namespace CopyOnWriteArrayList

/-- A new list. -/
def empty : CopyOnWriteArrayList α := ⟨[], 0⟩

/-- `add`. -/
def add (l : CopyOnWriteArrayList α) (a : α) : CopyOnWriteArrayList α :=
  ⟨l.array ++ [a], l.version + 1⟩

/-- `clear`. -/
def clear (l : CopyOnWriteArrayList α) : CopyOnWriteArrayList α := ⟨[], l.version + 1⟩

/-- `CopyOnWriteArrayList.subList`, with its range check. -/
def subList (l : CopyOnWriteArrayList α) (fromIndex toIndex : Int32) :
    Except ListError SubListView :=
  if fromIndex < 0 ∨ javaSize l.array < toIndex ∨ toIndex < fromIndex then
    .error .indexOutOfBounds
  else .ok ⟨fromIndex, toIndex, l.version⟩

end CopyOnWriteArrayList

/-- The elements of a view. -/
def SubListView.read (view : SubListView) (l : CopyOnWriteArrayList α) :
    Except ListError (List α) :=
  if l.version = view.expectedArray then .ok (between l.array view.fromIndex view.toIndex)
  else .error .concurrentModification

/-! ## The last elements of a list -/

/-- `Math.max(size - limit, 0)`. -/
def suffixIndex (size limit : Int32) : Int32 :=
  if size - limit < 0 then 0 else size - limit

/-- The elements that a limit asks for: none if it is negative. -/
def lastOf (limit : Int32) (l : List α) : List α := l.rtake (min limit.toNatClampNeg l.length)

theorem toInt_javaSize {l : List α} (hlen : l.length < 2 ^ 31) :
    (javaSize l).toInt = l.length := Int32.toInt_ofNat_of_lt hlen

/-- The index of the suffix. For a negative limit the difference is above the size, or it overflows;
the latter happens to an empty list for one limit only. -/
theorem suffixIndex_cases {l : List α} (hlen : l.length < 2 ^ 31) (limit : Int32) :
    (0 ≤ limit.toInt ∧ (suffixIndex (javaSize l) limit).toInt =
        ((l.length - min limit.toNatClampNeg l.length : Nat) : Int)) ∨
      (limit.toInt < 0 ∧ limit ≠ Int32.minValue ∧
        (l.length : Int) < (suffixIndex (javaSize l) limit).toInt) ∨
      (limit.toInt < 0 ∧ suffixIndex (javaSize l) limit = 0 ∧
        (l = [] → limit = Int32.minValue)) := by
  have hsize := toInt_javaSize hlen
  have hsub : (javaSize l - limit).toInt = ((l.length : Int) - limit.toInt).bmod (2 ^ 32) := by
    rw [Int32.toInt_sub, hsize]
  have hlow := limit.le_toInt
  have hhigh := limit.toInt_lt
  have hclamp : limit.toNatClampNeg = limit.toInt.toNat := rfl
  -- the index is the difference of 32 bits, or 0 where that is negative
  have hif : ∀ d : Int, (javaSize l - limit).toInt = d →
      (0 ≤ d → (suffixIndex (javaSize l) limit).toInt = d) ∧
        (d < 0 → suffixIndex (javaSize l) limit = 0) := by
    rintro _ rfl
    have hiff : javaSize l - limit < 0 ↔ (javaSize l - limit).toInt < 0 := Int32.lt_iff_toInt_lt
    rw [suffixIndex]
    split_ifs with hneg
    · exact ⟨fun hpos => absurd (hiff.1 hneg) (not_lt.2 hpos), fun _ => rfl⟩
    · exact ⟨fun _ => rfl, fun hlt => absurd (hiff.2 hlt) hneg⟩
  rcases lt_or_ge limit.toInt 0 with hneg | hpos
  · right
    rcases lt_or_ge ((l.length : Int) - limit.toInt) (2 ^ 31) with hfit | hwrap
    · -- the difference fits: it is above the size
      have hexact := hif _ (hsub.trans (Int.bmod_eq_of_le (by omega) (by omega)))
      refine .inl ⟨hneg, ?_, ?_⟩
      · rintro rfl
        rw [Int32.toInt_minValue] at hfit
        omega
      · rw [hexact.1 (by omega)]
        omega
    · -- the difference wraps to a negative number
      have hmod : ((l.length : Int) - limit.toInt).bmod (2 ^ 32) =
          (l.length : Int) - limit.toInt - 2 ^ 32 := by
        rw [Int.bmod_def]
        omega
      refine .inr ⟨hneg, (hif _ (hsub.trans hmod)).2 (by omega), ?_⟩
      rintro rfl
      refine Int32.toInt_inj.1 ?_
      rw [Int32.toInt_minValue]
      rw [List.length_nil] at hwrap
      omega
  · -- a limit that is not negative: the difference never overflows
    have hexact := hsub.trans (Int.bmod_eq_of_le (by omega) (by omega))
    refine .inl ⟨hpos, ?_⟩
    rcases lt_or_ge ((l.length : Int) - limit.toInt) 0 with hlt | hge
    · have hzero : (0 : Int32).toInt = 0 := rfl
      rw [(hif _ hexact).2 hlt, hzero, hclamp]
      omega
    · rw [(hif _ hexact).1 hge, hclamp]
      omega

/-- The elements from an index on, which is at most the size. -/
theorem between_javaSize {l : List α} (hlen : l.length < 2 ^ 31) {fromIndex : Int32} {k : Nat}
    (hindex : fromIndex.toInt = (k : Int)) :
    between l fromIndex (javaSize l) = l.drop k := by
  have hfrom : fromIndex.toNatClampNeg = k := by
    rw [Int32.toNatClampNeg, hindex, Int.toNat_natCast]
  have hto : (javaSize l).toNatClampNeg = l.length := by
    rw [Int32.toNatClampNeg, toInt_javaSize hlen, Int.toNat_natCast]
  rw [between, hfrom, hto]
  exact List.take_of_length_le (le_of_eq List.length_drop)

theorem suffixIndex_nonneg (size limit : Int32) : ¬ suffixIndex size limit < 0 := by
  rw [suffixIndex]
  split_ifs with hneg
  · exact Int32.lt_irrefl
  · exact hneg

/-- The limits for which the suffix is in the list and is what the limit asks for. -/
def GoodLimit (limit : Int32) (l : List α) : Prop :=
  0 ≤ limit ∨ limit = Int32.minValue ∧ l = []

theorem suffix_eq_lastOf_iff {l : List α} (hlen : l.length < 2 ^ 31) (limit : Int32) :
    (¬ javaSize l < suffixIndex (javaSize l) limit ∧
        between l (suffixIndex (javaSize l) limit) (javaSize l) = lastOf limit l) ↔
      GoodLimit limit l := by
  have hsign : 0 ≤ limit ↔ 0 ≤ limit.toInt := Int32.le_iff_toInt_le
  have hlt : javaSize l < suffixIndex (javaSize l) limit ↔
      (l.length : Int) < (suffixIndex (javaSize l) limit).toInt := by
    rw [Int32.lt_iff_toInt_lt, toInt_javaSize hlen]
  rw [hlt, GoodLimit, hsign]
  rcases suffixIndex_cases hlen limit with ⟨hpos, hindex⟩ | ⟨hneg, hmin, hbehind⟩ |
    ⟨hneg, hindex, hmin⟩
  · -- the index is in the list
    refine iff_of_true ⟨?_, ?_⟩ (.inl hpos)
    · rw [hindex]
      omega
    · rw [between_javaSize hlen hindex]
      rfl
  · -- the index is behind the list, and `subList` throws
    refine iff_of_false (fun h => h.1 hbehind) ?_
    rintro (hpos | ⟨rfl, -⟩)
    · exact absurd hneg (not_lt.2 hpos)
    · exact hmin rfl
  · -- the whole list is returned, and nothing was asked for
    have hzero : (0 : Int32).toInt = ((0 : Nat) : Int) := rfl
    have hclamp : limit.toNatClampNeg = 0 := by
      rw [Int32.toNatClampNeg]
      omega
    have hlast : lastOf limit l = [] := by
      rw [lastOf, hclamp, Nat.zero_min, List.rtake_zero]
    rw [hindex, between_javaSize hlen hzero, hlast, hzero, List.drop_zero]
    constructor
    · rintro ⟨-, hnil⟩
      exact .inr ⟨hmin hnil, hnil⟩
    · rintro (hpos | ⟨-, hnil⟩)
      · exact absurd hneg (not_lt.2 hpos)
      · exact ⟨by omega, hnil⟩

/-- The suffix of a list that nobody changes. -/
theorem subList_suffix_iff {l : List α} (hlen : l.length < 2 ^ 31) (limit : Int32) :
    subList l (suffixIndex (javaSize l) limit) (javaSize l) = .ok (lastOf limit l) ↔
      GoodLimit limit l := by
  rw [← suffix_eq_lastOf_iff hlen, subList, if_neg (suffixIndex_nonneg _ _), if_neg Int32.lt_irrefl]
  split_ifs with hbehind
  · exact iff_of_false (by simp) fun h => h.1 hbehind
  · rw [Except.ok.injEq]
    exact (and_iff_right hbehind).symm

/-- The suffix as a view, read when the list may have another array. -/
theorem view_suffix_iff {l l' : CopyOnWriteArrayList α} (hlen : l.array.length < 2 ^ 31)
    (hsame : l'.version = l.version → l'.array = l.array) (limit : Int32) :
    ((l.subList (suffixIndex (javaSize l.array) limit) (javaSize l.array)).bind fun view =>
        view.read l') = .ok (lastOf limit l.array) ↔
      l'.version = l.version ∧ GoodLimit limit l.array := by
  rw [← suffix_eq_lastOf_iff hlen, CopyOnWriteArrayList.subList]
  by_cases hbehind : javaSize l.array < suffixIndex (javaSize l.array) limit
  · -- the view cannot be made
    rw [if_pos (.inr (.inr hbehind))]
    exact iff_of_false (by simp [Except.bind]) fun h => h.2.1 hbehind
  · have hrange : ¬ (suffixIndex (javaSize l.array) limit < 0 ∨
        javaSize l.array < javaSize l.array ∨
          javaSize l.array < suffixIndex (javaSize l.array) limit) := by
      rintro (h | h | h)
      · exact suffixIndex_nonneg _ _ h
      · exact Int32.lt_irrefl h
      · exact hbehind h
    rw [if_neg hrange]
    dsimp only [Except.bind, SubListView.read]
    split_ifs with hversion
    · -- nothing has changed since, and the view reads its part
      rw [hsame hversion, Except.ok.injEq]
      exact ⟨fun h => ⟨hversion, hbehind, h⟩, fun h => h.2.2⟩
    · exact iff_of_false (by simp) fun h => hversion h.1

end DeepKernel.Lib
