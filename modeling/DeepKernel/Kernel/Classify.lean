import Mathlib.Data.Bool.AllAny
import DeepKernel.Agent.Serialization

/-!
# The eBPF program

`classify_arg_class` and the event that `handle_sys_enter` writes to the ring buffer. The syscall
number of the tracepoint is a 64-bit `long`; the event keeps its low 16 bits, and the class is that of
all 64. The tests name numbers below 450 only (`Listed`), so a number that does not fit has no class of
its own, whatever number its low bits are.
-/

set_option autoImplicit false

namespace DeepKernel.Kernel

/-! ## Argument classes -/

/-- `ARG_CLASS_OTHER`. -/
def argClassOther : UInt8 := 0

/-- `ARG_CLASS_FILE`. -/
def argClassFile : UInt8 := 1

/-- `ARG_CLASS_NET`. -/
def argClassNet : UInt8 := 2

/-- `ARG_CLASS_PROC`. -/
def argClassProc : UInt8 := 3

/-- `ARG_CLASS_MEM`. -/
def argClassMem : UInt8 := 4

/-- The numbers that the first test of `classify_arg_class` names one by one. -/
def fileSyscalls : List Int64 :=
  [0, 1, 2, 3, 4, 5, 6, 7, 8, 16, 17, 18, 19, 20, 21, 22, 23, 32, 33, 72, 73, 74, 75, 76, 77, 78,
    79, 80, 81, 82, 83, 84, 85, 86, 87, 88, 89, 90, 91, 92, 93, 94, 95, 162, 213, 217, 232, 233,
    253, 254, 255, 281, 283, 284, 286, 287, 290, 291, 292, 293, 294, 306, 316, 332, 425, 426, 427,
    441]

/-- The numbers of the second test. -/
def netSyscalls : List Int64 := [288, 299, 307]

/-- The numbers of the third test. -/
def procSyscalls : List Int64 :=
  [13, 14, 15, 24, 39, 56, 57, 58, 59, 60, 61, 62, 101, 102, 104, 105, 106, 107, 108, 109, 110, 112,
    113, 114, 121, 124, 125, 126, 131, 133, 157, 158, 186, 200, 203, 204, 231, 234, 247, 272, 308,
    322, 435]

/-- The numbers of the fourth test. -/
def memSyscalls : List Int64 :=
  [9, 10, 11, 12, 25, 26, 27, 28, 29, 30, 31, 67, 149, 150, 151, 152, 202, 218, 319, 324, 325, 440,
    449]

/-- `classify_arg_class`. -/
def classifyArgClass (syscallId : Int64) : UInt8 :=
  if syscallId ∈ fileSyscalls ∨ 257 ≤ syscallId ∧ syscallId ≤ 270 then argClassFile
  else if 41 ≤ syscallId ∧ syscallId ≤ 55 ∨ syscallId ∈ netSyscalls then argClassNet
  else if syscallId ∈ procSyscalls then argClassProc
  else if syscallId ∈ memSyscalls then argClassMem
  else argClassOther

/-- What the tracepoint and the helpers report when a syscall is entered. -/
structure SysEnter where
  id : Int64
  ktimeNs : UInt64
  pidTgid : UInt64
  cgroupId : UInt64

/-- `handle_sys_enter`: the event it writes. -/
def handleSysEnter (ctx : SysEnter) : Agent.KernelSyscallEvent where
  tsNs := ctx.ktimeNs
  pid := (ctx.pidTgid >>> 32).toUInt32
  tid := ctx.pidTgid.toUInt32
  cgroupId := ctx.cgroupId.toUInt32
  syscallId := ctx.id.toUInt64.toUInt16
  argClass := classifyArgClass ctx.id
  argBucket := 0

/-! ## Numbers with a class -/

/-- The numbers that one of the tests names. -/
def Listed (syscallId : Int64) : Prop :=
  (syscallId ∈ fileSyscalls ∨ 257 ≤ syscallId ∧ syscallId ≤ 270) ∨
    (41 ≤ syscallId ∧ syscallId ≤ 55 ∨ syscallId ∈ netSyscalls) ∨
    syscallId ∈ procSyscalls ∨ syscallId ∈ memSyscalls

theorem classifyArgClass_eq_other_iff (syscallId : Int64) :
    classifyArgClass syscallId = argClassOther ↔ ¬ Listed syscallId := by
  have hfile : argClassFile ≠ argClassOther := by decide
  have hnet : argClassNet ≠ argClassOther := by decide
  have hproc : argClassProc ≠ argClassOther := by decide
  have hmem : argClassMem ≠ argClassOther := by decide
  rw [classifyArgClass, Listed]
  split_ifs with h₁ h₂ h₃ h₄
  · exact iff_of_false hfile fun h => h (.inl h₁)
  · exact iff_of_false hnet fun h => h (.inr (.inl h₂))
  · exact iff_of_false hproc fun h => h (.inr (.inr (.inl h₃)))
  · exact iff_of_false hmem fun h => h (.inr (.inr (.inr h₄)))
  · refine iff_of_true rfl ?_
    rintro (h | h | h | h)
    · exact h₁ h
    · exact h₂ h
    · exact h₃ h
    · exact h₄ h

/-- A number with a class fits in 16 bits. -/
theorem Listed.range {syscallId : Int64} (h : Listed syscallId) :
    0 ≤ syscallId ∧ syscallId < 65536 := by
  have htables : ∀ id ∈ fileSyscalls ++ netSyscalls ++ procSyscalls ++ memSyscalls,
      0 ≤ id ∧ id < 65536 := List.all_iff_forall_prop.1 (by decide)
  simp only [List.forall_mem_append] at htables
  obtain ⟨⟨⟨hfile, hnet⟩, hproc⟩, hmem⟩ := htables
  have hbetween : ∀ low high : Int64, 0 ≤ low → high < 65536 → low ≤ syscallId →
      syscallId ≤ high → 0 ≤ syscallId ∧ syscallId < 65536 :=
    fun low high hlow hhigh hle hge =>
      ⟨Int64.le_trans hlow hle, Int64.lt_of_le_of_lt hge hhigh⟩
  rcases h with (h | h) | (h | h) | h | h
  · exact hfile _ h
  · exact hbetween 257 270 (by decide) (by decide) h.1 h.2
  · exact hbetween 41 55 (by decide) (by decide) h.1 h.2
  · exact hnet _ h
  · exact hproc _ h
  · exact hmem _ h

/-! ## The stored number -/

/-- The low 16 bits of a number, as a number. -/
def lowBits (syscallId : Int64) : Int64 := syscallId.toUInt64.toUInt16.toUInt64.toInt64

theorem toInt_lowBits (syscallId : Int64) : (lowBits syscallId).toInt = syscallId.toInt % 65536 := by
  have hstored : (lowBits syscallId).toBitVec.toNat = syscallId.toBitVec.toNat % 2 ^ 16 := by
    have hnat : syscallId.toUInt64.toUInt16.toUInt64.toNat = syscallId.toUInt64.toNat % 2 ^ 16 := by
      rw [UInt16.toNat_toUInt64, UInt64.toNat_toUInt16]
    exact hnat
  have hbound : syscallId.toBitVec.toNat % 2 ^ 16 < 2 ^ 16 := Nat.mod_lt _ (by norm_num)
  rw [← Int64.toInt_toBitVec, ← Int64.toInt_toBitVec, BitVec.toInt_eq_toNat_bmod,
    BitVec.toInt_eq_toNat_bmod, hstored, Int.bmod_def, Int.bmod_def]
  omega

theorem lowBits_eq_self_iff (syscallId : Int64) :
    lowBits syscallId = syscallId ↔ 0 ≤ syscallId ∧ syscallId < 65536 := by
  have hzero : 0 ≤ syscallId ↔ 0 ≤ syscallId.toInt := Int64.le_iff_toInt_le
  have hlt : syscallId < 65536 ↔ syscallId.toInt < 65536 := Int64.lt_iff_toInt_lt
  rw [← Int64.toInt_inj, toInt_lowBits, hzero, hlt]
  omega

/-- The class of an event is the class of the number in it exactly when the number of the tracepoint
fits in 16 bits, or when its low 16 bits are a number without a class. -/
theorem event_class_iff (ctx : SysEnter) :
    (handleSysEnter ctx).argClass =
        classifyArgClass (handleSysEnter ctx).syscallId.toUInt64.toInt64 ↔
      (0 ≤ ctx.id ∧ ctx.id < 65536) ∨ ¬ Listed (lowBits ctx.id) := by
  have hstored : (handleSysEnter ctx).syscallId.toUInt64.toInt64 = lowBits ctx.id := rfl
  have hclass : (handleSysEnter ctx).argClass = classifyArgClass ctx.id := rfl
  rw [hstored, hclass, ← lowBits_eq_self_iff]
  by_cases hfit : lowBits ctx.id = ctx.id
  · rw [hfit]
    exact iff_of_true rfl (.inl rfl)
  · -- no test names the number, so its class is OTHER
    have hother : classifyArgClass ctx.id = argClassOther := by
      rw [classifyArgClass_eq_other_iff]
      intro hlisted
      exact hfit ((lowBits_eq_self_iff ctx.id).2 hlisted.range)
    rw [hother, eq_comm, classifyArgClass_eq_other_iff]
    constructor
    · exact fun h => .inr h
    · exact fun h => h.resolve_left hfit

/-- `read` of the x32 ABI, with the bit 30 set. The event has the number of `read` and no class. -/
theorem x32_read_unclassified :
    (handleSysEnter ⟨1073741824, 0, 0, 0⟩).syscallId = 0 ∧
      (handleSysEnter ⟨1073741824, 0, 0, 0⟩).argClass = argClassOther ∧
      (handleSysEnter ⟨1073741824, 0, 0, 0⟩).argClass ≠
        classifyArgClass (handleSysEnter ⟨1073741824, 0, 0, 0⟩).syscallId.toUInt64.toInt64 := by
  decide

end DeepKernel.Kernel
