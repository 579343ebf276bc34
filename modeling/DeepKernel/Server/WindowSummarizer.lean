import DeepKernel.Lib.Table
import DeepKernel.Server.FeatureExtractor

/-!
# The window summarizer of the server

`SyscallWindowSummarizer.summarize`. The order in which a `HashMap` lists its entries is not
specified, so it is a parameter; the counters of the argument classes do not depend on it.
-/

set_option autoImplicit false

namespace DeepKernel.Server

open DeepKernel.Lib

/-- The class counters of `summarize`. -/
structure ClassCounts where
  fileOps : Nat := 0
  netOps : Nat := 0
  procOps : Nat := 0
  memOps : Nat := 0
  otherOps : Nat := 0
  deriving DecidableEq

/-- The `switch` over the class of a record. -/
def ClassCounts.add (n : ClassCounts) (argClass : Int32) : ClassCounts :=
  if argClass = 1 then { n with fileOps := n.fileOps + 1 }
  else if argClass = 2 then { n with netOps := n.netOps + 1 }
  else if argClass = 3 then { n with procOps := n.procOps + 1 }
  else if argClass = 4 then { n with memOps := n.memOps + 1 }
  else { n with otherOps := n.otherOps + 1 }

/-- The class counters after the loop. -/
def classCounts (records : List TraceRecord) : ClassCounts :=
  records.foldl (fun n r => n.add r.argClass) {}

/-- The syscall counters after the loop: `counts.merge(r.syscallId(), 1, Integer::sum)`. -/
def syscallCounts (records : List TraceRecord) : Table Int32 Nat :=
  records.foldl (fun counts r => counts.set r.syscallId ((counts.find? r.syscallId).getD 0 + 1))
    Table.empty

/-- `mapSyscallName`. -/
def mapSyscallName (id : Int32) : String :=
  if id = 59 then "execve"
  else if id = 2 ∨ id = 257 then "open"
  else if id = 0 then "read"
  else if id = 1 then "write"
  else if id = 3 then "close"
  else if id = 42 then "connect"
  else if id = 41 then "socket"
  else "sys_" ++ toString id.toInt

/-- The most frequent syscalls. `entrySet` lists the entries of the map; the sort is stable. -/
def topSyscalls (entrySet : Table Int32 Nat → List (Int32 × Nat)) (records : List TraceRecord) :
    String :=
  let sorted := (entrySet (syscallCounts records)).mergeSort fun a b => decide (b.2 ≤ a.2)
  ", ".intercalate ((sorted.take 8).map fun e => mapSyscallName e.1 ++ ":" ++ toString e.2)

/-- `summarize`. -/
def summarize (entrySet : Table Int32 Nat → List (Int32 × Nat)) :
    Option (List TraceRecord) → String
  | none => "(no records)"
  | some [] => "(no records)"
  | some (r :: rs) =>
      let records := r :: rs
      let n := classCounts records
      "record_count=" ++ toString records.length ++ "\n" ++
        "arg_class_counts=" ++ "FILE=" ++ toString n.fileOps ++ " NET=" ++ toString n.netOps ++
        " PROC=" ++ toString n.procOps ++ " MEM=" ++ toString n.memOps ++ " OTHER=" ++
        toString n.otherOps ++ "\n" ++
        "top_syscalls=" ++ topSyscalls entrySet records ++ "\n" ++
        "sequence_sample=" ++
        " → ".intercalate ((records.take 25).map fun r => mapSyscallName r.syscallId)

/-- The class counters count the records of each class. -/
theorem classCounts_eq (records : List TraceRecord) :
    (classCounts records).fileOps = records.countP (fun r => decide (r.argClass = 1)) ∧
      (classCounts records).netOps = records.countP (fun r => decide (r.argClass = 2)) := by
  have key : ∀ (records : List TraceRecord) (n : ClassCounts),
      (records.foldl (fun n r => n.add r.argClass) n).fileOps =
          n.fileOps + records.countP (fun r => decide (r.argClass = 1)) ∧
        (records.foldl (fun n r => n.add r.argClass) n).netOps =
          n.netOps + records.countP (fun r => decide (r.argClass = 2)) := by
    intro records
    induction records with
    | nil => exact fun n => ⟨rfl, rfl⟩
    | cons r records ih =>
        intro n
        rw [List.foldl_cons, (ih _).1, (ih _).2, List.countP_cons, List.countP_cons]
        unfold ClassCounts.add
        split_ifs <;> simp_all <;> omega
  have h := key records {}
  rw [Nat.zero_add, Nat.zero_add] at h
  exact h

end DeepKernel.Server
