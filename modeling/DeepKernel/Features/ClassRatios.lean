import DeepKernel.Features.Agreement
import DeepKernel.Kernel.Classify
import DeepKernel.Server.WindowSummarizer

/-!
# The class ratios and the class numbering

The eBPF program numbers the argument classes from `OTHER = 0`; its comment asks the server side to
match. The summarizer and the Python port do. The extractor of the server counts class 0 as file and
class 1 as network operations, so its ratios are the fractions of the classes `OTHER` and `FILE`.
They mean what they say only for windows in which these classes are equally frequent.
-/

set_option autoImplicit false

namespace DeepKernel.Features

open DeepKernel.Lib

/-- A traced syscall of a window: what the tracepoint saw, and its delta in the window. -/
structure TracedSyscall where
  ctx : Kernel.SysEnter
  deltaTsUs : Nat
  deltaTsUs_lt : deltaTsUs < 2 ^ 31

/-- The record of a traced syscall, with the class that the eBPF program gave it. -/
def TracedSyscall.record (t : TracedSyscall) : WireRecord where
  deltaTsUs := t.deltaTsUs
  deltaTsUs_lt := t.deltaTsUs_lt
  syscallId := (Kernel.handleSysEnter t.ctx).syscallId
  argClass := (Kernel.handleSysEnter t.ctx).argClass
  argBucket := (Kernel.handleSysEnter t.ctx).argBucket

/-- The number of traced syscalls of a class. -/
def countClass (argClass : UInt8) (calls : List TracedSyscall) : Nat :=
  calls.countP fun t => decide (Kernel.classifyArgClass t.ctx.id = argClass)

theorem ofNat_toNat_eq_iff (a b : UInt8) :
    Int32.ofNat a.toNat = Int32.ofNat b.toNat ↔ a = b := by
  have ha := a.toNat_lt
  have hb := b.toNat_lt
  have hint : ∀ u : UInt8, (Int32.ofNat u.toNat).toInt = u.toNat := fun u =>
    Int32.toInt_ofNat_of_lt (u.toNat_lt.trans (by decide))
  rw [← Int32.toInt_inj, hint, hint, Int.ofNat_inj, UInt8.toNat_inj]

theorem countP_toServer (calls : List TracedSyscall) (argClass : UInt8) :
    ((calls.map TracedSyscall.record).map WireRecord.toServer).countP
        (fun r => decide (r.argClass = Int32.ofNat argClass.toNat)) =
      countClass argClass calls := by
  rw [List.map_map, List.countP_map, countClass]
  congr 1
  funext t
  -- the class crosses the wire as a number; both sides compare the same byte
  exact decide_eq_decide.2 (ofNat_toNat_eq_iff _ _)

theorem countP_toMl (calls : List TracedSyscall) (argClass : UInt8) :
    ((calls.map TracedSyscall.record).map WireRecord.toMl).countP
        (fun r => decide (r.argClass = (argClass.toNat : Int))) =
      countClass argClass calls := by
  rw [List.map_map, List.countP_map, countClass]
  congr 1
  funext t
  refine decide_eq_decide.2 ?_
  exact Int.ofNat_inj.trans UInt8.toNat_inj

section Ratios

variable {R : Type} [Field R] [LinearOrder R]

/-- The ratios of the server are the fractions of the classes 0 and 1. -/
theorem server_ratios (log : R → R) (version : Int32) (agentId containerId : String)
    (startNs : Int64) {calls : List TracedSyscall} (hne : calls ≠ []) :
    (Server.extract log (payloadOf version agentId containerId startNs
        (calls.map TracedSyscall.record)))[578]? =
          some ((countClass Kernel.argClassOther calls : R) / (calls.length : R)) ∧
      (Server.extract log (payloadOf version agentId containerId startNs
        (calls.map TracedSyscall.record)))[579]? =
          some ((countClass Kernel.argClassFile calls : R) / (calls.length : R)) := by
  have hmap : calls.map TracedSyscall.record ≠ [] := by simpa using hne
  obtain ⟨hfile, hnet, -⟩ := Server.vector_ratios (Server.scanWindow startNs
    ((calls.map TracedSyscall.record).map WireRecord.toServer) : Server.Scan R) log startNs
    (List.length_pos_iff.2 hne)
  obtain ⟨hfileOps, hnetOps⟩ := Server.scanWindow_ops (R := R) startNs
    ((calls.map TracedSyscall.record).map WireRecord.toServer)
  rw [hfileOps] at hfile
  rw [hnetOps] at hnet
  rw [extract_payloadOf log version agentId containerId startNs hmap, List.length_map,
    ← countP_toServer, ← countP_toServer]
  exact ⟨hfile, hnet⟩

/-- The ratios of the training tool are the fractions of the classes `FILE` and `NET`. -/
theorem ml_ratios (log : R → R) (startUs : Int) {calls : List TracedSyscall} (hne : calls ≠ []) :
    (Ml.extractFeatures log ((calls.map TracedSyscall.record).map WireRecord.toMl) startUs)[578]? =
          some ((countClass Kernel.argClassFile calls : R) / (calls.length : R)) ∧
      (Ml.extractFeatures log ((calls.map TracedSyscall.record).map WireRecord.toMl) startUs)[579]? =
          some ((countClass Kernel.argClassNet calls : R) / (calls.length : R)) := by
  have hmap : calls.map TracedSyscall.record ≠ [] := by simpa using hne
  obtain ⟨hfile, hnet, -⟩ := Ml.vector_ratios (Ml.scanWindow startUs
    ((calls.map TracedSyscall.record).map WireRecord.toMl) : Ml.Scan R) log startUs
    (List.length_pos_iff.2 hne)
  obtain ⟨hfileOps, hnetOps⟩ := Ml.scanWindow_ops (R := R) startUs
    ((calls.map TracedSyscall.record).map WireRecord.toMl)
  rw [hfileOps] at hfile
  rw [hnetOps] at hnet
  rw [extractFeatures_toMl log startUs hmap, List.length_map, ← countP_toMl, ← countP_toMl]
  exact ⟨hfile, hnet⟩

/-- The ratios at 578 and 579 are the fractions of the classes `FILE` and `NET`, as the summarizer
and the Python port count them. -/
structure RatiosMeanClasses (log : R → R) (payload : Server.ShortWindowPayload)
    (calls : List TracedSyscall) : Prop where
  file : (Server.extract log payload)[578]? =
    some ((countClass Kernel.argClassFile calls : R) / (calls.length : R))
  net : (Server.extract log payload)[579]? =
    some ((countClass Kernel.argClassNet calls : R) / (calls.length : R))
  file_summary : (Server.extract log payload)[578]? =
    some (((Server.classCounts ((calls.map TracedSyscall.record).map
      WireRecord.toServer)).fileOps : R) / (calls.length : R))
  net_summary : (Server.extract log payload)[579]? =
    some (((Server.classCounts ((calls.map TracedSyscall.record).map
      WireRecord.toServer)).netOps : R) / (calls.length : R))
  file_ml : ∀ startUs, (Server.extract log payload)[578]? =
    (Ml.extractFeatures log ((calls.map TracedSyscall.record).map WireRecord.toMl) startUs)[578]?
  net_ml : ∀ startUs, (Server.extract log payload)[579]? =
    (Ml.extractFeatures log ((calls.map TracedSyscall.record).map WireRecord.toMl) startUs)[579]?

/-- For a window of traced syscalls the ratios of the server mean the classes `FILE` and `NET` if
and only if `OTHER` and `FILE` are as frequent as each other, and `FILE` and `NET` too. -/
theorem class_ratios_iff [IsStrictOrderedRing R] (log : R → R) (version : Int32)
    (agentId containerId : String) (startNs : Int64) (calls : List TracedSyscall)
    (hne : calls ≠ []) :
    RatiosMeanClasses log
        (payloadOf version agentId containerId startNs (calls.map TracedSyscall.record)) calls ↔
      countClass Kernel.argClassOther calls = countClass Kernel.argClassFile calls ∧
        countClass Kernel.argClassFile calls = countClass Kernel.argClassNet calls := by
  obtain ⟨hfile, hnet⟩ := server_ratios log version agentId containerId startNs hne
  have hml := fun startUs => ml_ratios log startUs hne
  obtain ⟨hfileSummary, hnetSummary⟩ :=
    Server.classCounts_eq ((calls.map TracedSyscall.record).map WireRecord.toServer)
  have hfileCount := countP_toServer calls Kernel.argClassFile
  have hnetCount := countP_toServer calls Kernel.argClassNet
  have hpos : (calls.length : R) ≠ 0 := by simpa using hne
  have hfrac : ∀ m n : Nat, some ((m : R) / (calls.length : R)) = some ((n : R) / calls.length) ↔
      m = n := by
    intro m n
    rw [Option.some.injEq, div_left_inj' hpos, Nat.cast_inj]
  constructor
  · intro h
    exact ⟨(hfrac _ _).1 (hfile.symm.trans h.file), (hfrac _ _).1 (hnet.symm.trans h.net)⟩
  -- the shift by one class does not show where neighbouring classes are equally frequent
  · rintro ⟨hof, hfn⟩
    rw [hof] at hfile
    rw [hfn] at hnet
    refine ⟨hfile, hnet, ?_, ?_, fun u => hfile.trans (hml u).1.symm,
      fun u => hnet.trans (hml u).2.symm⟩
    · rw [hfile, hfileSummary]
      exact congrArg (fun n : Nat => some ((n : R) / (calls.length : R))) hfileCount.symm
    · rw [hnet, hnetSummary]
      exact congrArg (fun n : Nat => some ((n : R) / (calls.length : R))) hnetCount.symm

end Ratios

/-- A traced syscall with a given number. -/
def traced (id : Int64) : TracedSyscall where
  ctx := { id := id, ktimeNs := 1, pidTgid := 1, cgroupId := 1 }
  deltaTsUs := 0
  deltaTsUs_lt := by decide

/-- The failing window: a single `read` is a file operation, and the file ratio is zero. -/
theorem class_ratios_fail :
    ¬ RatiosMeanClasses Real.log (payloadOf 1 "node-1" "a" 1 ([traced 0].map TracedSyscall.record))
      [traced 0] := by
  intro h
  have hzero := (server_ratios Real.log 1 "node-1" "a" 1 (List.cons_ne_nil (traced 0) [])).1
  have hother : countClass Kernel.argClassOther [traced 0] = 0 := by decide
  have hfile : countClass Kernel.argClassFile [traced 0] = 1 := by decide
  have heq := hzero.symm.trans h.file
  rw [hother, hfile] at heq
  simp at heq

/-- A window with one syscall of each of the three classes. -/
theorem class_ratios_three_classes :
    RatiosMeanClasses Real.log
      (payloadOf 1 "node-1" "a" 1 ([traced 35, traced 0, traced 41].map TracedSyscall.record))
      [traced 35, traced 0, traced 41] :=
  (class_ratios_iff Real.log 1 "node-1" "a" 1 [traced 35, traced 0, traced 41] (by simp)).2
    (by decide)

end DeepKernel.Features
