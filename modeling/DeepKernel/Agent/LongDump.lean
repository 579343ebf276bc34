import DeepKernel.Agent.Dump
import Mathlib.Data.List.TakeWhile

/-!
# Long dumps over whole runs

`Recording` is the state between a successful dump request and the end of the dump: the file holds
the header and one record for each event counted so far. It survives every call that does not end
the dump, and gives the contents of a completed dump and its only completion.
-/

set_option autoImplicit false

namespace DeepKernel.Agent

open DeepKernel.Lib

/-! ## States of a requested dump -/

/-- What a dump request asks for. -/
structure DumpPlan where
  path : ByteString
  startTsNs : UInt64
  durationSec : Int32

/-- The timestamp that ends the dump. -/
def DumpPlan.endTsNs (plan : DumpPlan) : UInt64 := dumpEnd plan.startTsNs plan.durationSec

/-- The plan of a request in a state. -/
def requestPlan (cfg : Setup) (a : AgentState) (c : ByteString) (durationSec : Int32)
    (env : DumpEnv) : DumpPlan where
  path := dumpFilePath cfg c env.timestamp
  startTsNs := a.requestStart c env
  durationSec := durationSec

/-- The completion of a dump with a given number of records. -/
def DumpPlan.completion (plan : DumpPlan) (recordCount : Nat) : Completion where
  dumpPath := plan.path
  startTsNs := plan.startTsNs
  durationSec := plan.durationSec
  recordCount := recordCount

/-- The dump of `c` is active, follows a plan and has counted `n` records; no other container has
its file open. -/
structure Follows (c : ByteString) (plan : DumpPlan) (n : Nat) (a : AgentState) : Prop where
  synced : Synced a
  active : (a.dump c).active = true
  filePath : (a.dump c).filePath = plan.path
  startTsNs : (a.dump c).startTsNs = plan.startTsNs
  endTsNs : (a.dump c).endTsNs = plan.endTsNs
  durationSec : (a.dump c).durationSec = plan.durationSec
  recordCount : (a.dump c).recordCount = n
  others : ∀ k, k ≠ c → (a.dump k).stream.file ≠ some plan.path

/-- The file of the dump holds a header and the records, and the stream is at its end. -/
structure Recording (c : ByteString) (plan : DumpPlan) (h : TraceHeader) (recs : List TraceRecord)
    (a : AgentState) : Prop extends Follows c plan recs.length a where
  stream : (a.dump c).stream = ⟨some plan.path, (encodeDump h recs).length, false⟩
  content : a.files.find? plan.path = some (encodeDump h recs)

/-! ## One call -/

section Step

variable {cfg : Setup} {a : AgentState} {op : Op} {c : ByteString}

/-- An active dump across a call that neither ends it nor requests another. -/
theorem step_dump_of_active (ha : Synced a) (hactive : (a.dump c).active = true)
    (hreq : requests c op = false) (hclose : closes cfg (a.dump c).endTsNs op = false) :
    (step cfg a op).1.dump c =
      match acceptedFor cfg c op with
      | some ev => ((a.dump c).record a.files ev).2
      | none => a.dump c := by
  have hstep := step_dump cfg ha op c hreq
  rw [hclose, hactive, Bool.and_false, if_neg Bool.false_ne_true] at hstep
  -- the cleanup erases no buffer with an active dump
  cases hacc : acceptedFor cfg c op with
  | none =>
      simp only [hacc] at hstep
      rcases hstep with h | ⟨-, h⟩
      · exact h
      · exact absurd (hactive.symm.trans h) (by decide)
  | some ev =>
      simp only [hacc, if_true] at hstep
      rcases hstep with h | ⟨-, h⟩
      · exact h
      · exact absurd (hactive.symm.trans h) (by decide)

/-- Without a request, a dump that is inactive or ends with the call is inactive after it. -/
theorem step_inactive (ha : Synced a) (hreq : requests c op = false)
    (h : (a.dump c).active = false ∨ closes cfg (a.dump c).endTsNs op = true) :
    ((step cfg a op).1.dump c).active = false := by
  have hstep := step_dump cfg ha op c hreq
  cases hactive : (a.dump c).active with
  | true =>
      -- an active dump ends with the call, and then it is finished or erased
      have hclose : closes cfg (a.dump c).endTsNs op = true := by
        rcases h with h | h
        · exact absurd (hactive.symm.trans h) (by decide)
        · exact h
      rw [hactive, hclose] at hstep
      rcases hstep with hs | ⟨hs, -⟩
      · rw [hs]
        rfl
      · rw [hs]
  | false =>
      rw [hactive] at hstep
      rcases hstep with hs | ⟨hs, -⟩
      · rw [hs]
        cases acceptedFor cfg c op with
        | none => exact hactive
        | some ev => exact hactive
      · rw [hs]

theorem Follows.dump_step {plan : DumpPlan} {n : Nat} (h : Follows c plan n a)
    (hreq : requests c op = false) (hclose : closes cfg plan.endTsNs op = false) :
    (step cfg a op).1.dump c =
      match acceptedFor cfg c op with
      | some ev => ((a.dump c).record a.files ev).2
      | none => a.dump c := by
  rw [← h.endTsNs] at hclose
  exact step_dump_of_active h.synced h.active hreq hclose

/-- A call that does not end the dump counts its own accepted event. -/
theorem Follows.next {plan : DumpPlan} {n : Nat} (h : Follows c plan n a)
    (hreq : requests c op = false) (hclose : closes cfg plan.endTsNs op = false)
    (hopens : opens cfg a plan.path op = false) :
    Follows c plan (n + (acceptedFor cfg c op).toList.length) (step cfg a op).1 := by
  -- the dump itself, and no other container gets the file
  have hdump := h.dump_step hreq hclose
  have hothers := fun k hk => step_stream_file cfg h.synced op k hopens (h.others k hk)
  have hsynced := step_synced cfg h.synced op
  cases hacc : acceptedFor cfg c op with
  | none =>
      rw [hacc] at hdump
      refine ⟨hsynced, ?_, ?_, ?_, ?_, ?_, ?_, hothers⟩
      · rw [hdump, h.active]
      · rw [hdump, h.filePath]
      · rw [hdump, h.startTsNs]
      · rw [hdump, h.endTsNs]
      · rw [hdump, h.durationSec]
      · rw [hdump, h.recordCount]
        rfl
  | some ev =>
      rw [hacc] at hdump
      refine ⟨hsynced, ?_, ?_, ?_, ?_, ?_, ?_, hothers⟩
      · rw [hdump]
        exact h.active
      · rw [hdump]
        exact h.filePath
      · rw [hdump]
        exact h.startTsNs
      · rw [hdump]
        exact h.endTsNs
      · rw [hdump]
        exact h.durationSec
      · rw [hdump]
        exact congrArg (· + 1) h.recordCount

/-- The call that ends the dump sends its completion. -/
theorem Follows.completions {plan : DumpPlan} {n : Nat} (h : Follows c plan n a) :
    completionsOf c (step cfg a op).2 =
      if closes cfg plan.endTsNs op then [plan.completion n] else [] := by
  have hcompletion : (a.dump c).completion = plan.completion n := by
    rw [Dump.completion, h.filePath, h.startTsNs, h.durationSec, h.recordCount]
    rfl
  rw [completionsOf_step cfg h.synced op c, h.active, h.endTsNs, hcompletion, Bool.true_and]

theorem Recording.next {plan : DumpPlan} {h : TraceHeader} {recs : List TraceRecord}
    (hr : Recording c plan h recs a) (hreq : requests c op = false)
    (hclose : closes cfg plan.endTsNs op = false) (hopens : opens cfg a plan.path op = false) :
    Recording c plan h
      (recs ++ (acceptedFor cfg c op).toList.map (makeTraceRecord · (a.dump c).prevTsNs))
      (step cfg a op).1 := by
  have hfollows := hr.toFollows.next hreq hclose hopens
  have hdump := hr.toFollows.dump_step hreq hclose
  have hfiles := step_files cfg hr.synced op c hopens hr.others
  cases hacc : acceptedFor cfg c op with
  | none =>
      rw [hacc] at hfollows hdump hfiles
      simp only [Option.toList_none, List.map_nil, List.append_nil] at hfollows ⊢
      refine ⟨hfollows, ?_, ?_⟩
      · rw [hdump, hr.stream]
      · rw [hfiles, hr.content]
  | some ev =>
      rw [hacc] at hfollows hdump hfiles
      rw [← hr.endTsNs] at hclose
      simp only [hr.active, hclose, Bool.not_false, Bool.and_self, if_true] at hdump hfiles
      simp only [Option.toList_some, List.map_cons, List.map_nil]
      -- the stream stands at the end of its file, so the write appends
      have hwrite := OfStream.write_of_good (s := (a.dump c).stream) (by rw [hr.stream])
        (by rw [hr.stream]) (by rw [hr.stream]) hr.content
        (makeTraceRecord ev (a.dump c).prevTsNs).encode
      refine ⟨?_, ?_, ?_⟩
      · rw [List.length_append]
        exact hfollows
      · rw [hdump, Dump.record, hwrite, encodeDump_concat, hr.stream]
      · rw [hfiles, Dump.record, hwrite, encodeDump_concat, Table.find?_set_self]

end Step

/-! ## Runs of calls that do not end the dump -/

/-- No call of a run opens the file at a path. -/
def neverOpens (cfg : Setup) (path : ByteString) : AgentState → List Op → Bool
  | _, [] => true
  | a, op :: ops => !opens cfg a path op && neverOpens cfg path (step cfg a op).1 ops

theorem neverOpens_cons {cfg : Setup} {path : ByteString} {a : AgentState} {op : Op}
    {ops : List Op} :
    neverOpens cfg path a (op :: ops) = true ↔
      opens cfg a path op = false ∧ neverOpens cfg path (step cfg a op).1 ops = true := by
  simp [neverOpens]

theorem neverOpens_append {cfg : Setup} {path : ByteString} {a : AgentState} {ops ops' : List Op} :
    neverOpens cfg path a (ops ++ ops') = true ↔
      neverOpens cfg path a ops = true ∧ neverOpens cfg path (after cfg a ops) ops' = true := by
  induction ops generalizing a with
  | nil => simp [neverOpens]
  | cons op ops ih =>
      rw [List.cons_append, neverOpens_cons, neverOpens_cons, ih, and_assoc]
      rfl

/-- A call neither ends a dump of `c` planned until `endTsNs` nor requests another. -/
def quiet (cfg : Setup) (c : ByteString) (endTsNs : UInt64) (op : Op) : Bool :=
  !requests c op && !closes cfg endTsNs op

theorem quiet_iff {cfg : Setup} {c : ByteString} {endTsNs : UInt64} {op : Op} :
    quiet cfg c endTsNs op = true ↔ requests c op = false ∧ closes cfg endTsNs op = false := by
  simp [quiet]

/-- The records that a dump should hold for its events: the delta to the event before, in
microseconds, modulo `2 ^ 32`. -/
def expectedRecords (prevTsNs : UInt64) : List SyscallEvent → List TraceRecord
  | [] => []
  | ev :: evs =>
      { deltaTsUs :=
          UInt32.ofNat ((((ev.tsNs.toNat : Int) - prevTsNs.toNat) % 2 ^ 64).toNat / 1000)
        syscallId := ev.syscallId
        argClass := ev.argClass
        argBucket := ev.argBucket } :: expectedRecords ev.tsNs evs

theorem Recording.run {cfg : Setup} {c : ByteString} {plan : DumpPlan} {h : TraceHeader}
    {recs : List TraceRecord} {a : AgentState} (hr : Recording c plan h recs a) {ops : List Op}
    (hquiet : ∀ op ∈ ops, quiet cfg c plan.endTsNs op = true)
    (hopens : neverOpens cfg plan.path a ops = true) :
    ∃ recs', recs'.length = (acceptedOf cfg c ops).length ∧
      Recording c plan h (recs ++ recs') (after cfg a ops) ∧
      ((∀ ev ∈ acceptedOf cfg c ops, ev.tsNs ≠ 0) →
        recs' = expectedRecords (a.dump c).prevTsNs (acceptedOf cfg c ops)) := by
  induction ops generalizing a recs with
  | nil => exact ⟨[], rfl, by simpa using hr, fun _ => rfl⟩
  | cons op ops ih =>
      obtain ⟨hreq, hclose⟩ := quiet_iff.1 (hquiet op List.mem_cons_self)
      obtain ⟨hopen, hrest⟩ := neverOpens_cons.1 hopens
      have hdump := hr.toFollows.dump_step hreq hclose
      -- the run from the next state writes the rest of the records
      obtain ⟨recs', hlen, hrun, hexpected⟩ := ih (hr.next hreq hclose hopen)
        (fun o ho => hquiet o (List.mem_cons_of_mem _ ho)) hrest
      rw [acceptedOf_cons]
      cases hacc : acceptedFor cfg c op with
      | none =>
          simp only [hacc] at hdump
          simp only [hacc, Option.toList_none, List.map_nil, List.append_nil] at hrun
          rw [hdump] at hexpected
          exact ⟨recs', hlen, hrun, hexpected⟩
      | some ev =>
          simp only [hacc] at hdump
          simp only [hacc, Option.toList_some, List.map_cons, List.map_nil,
            List.append_assoc] at hrun
          simp only [Option.toList_some, List.cons_append, List.nil_append, List.length_cons,
            List.mem_cons, forall_eq_or_imp]
          refine ⟨makeTraceRecord ev (a.dump c).prevTsNs :: recs', ?_, hrun, ?_⟩
          · rw [List.length_cons, hlen]
          · -- The next delta counts from this event, unless its timestamp is taken for none.
            rintro ⟨hts, htail⟩
            have hprev : ((step cfg a op).1.dump c).prevTsNs = ev.tsNs := by
              rw [hdump, Dump.prevTsNs]
              exact if_neg hts
            rw [expectedRecords, ← makeTraceRecord_eq, hexpected htail, hprev]

/-- No completion is sent while the dump goes on. -/
theorem Recording.completions_run {cfg : Setup} {c : ByteString} {plan : DumpPlan}
    {h : TraceHeader} {recs : List TraceRecord} {a : AgentState} (hr : Recording c plan h recs a)
    {ops : List Op} (hquiet : ∀ op ∈ ops, quiet cfg c plan.endTsNs op = true)
    (hopens : neverOpens cfg plan.path a ops = true) :
    completionsOf c (posts cfg a ops) = [] := by
  induction ops generalizing a recs with
  | nil => rfl
  | cons op ops ih =>
      obtain ⟨hreq, hclose⟩ := quiet_iff.1 (hquiet op List.mem_cons_self)
      obtain ⟨hopen, hrest⟩ := neverOpens_cons.1 hopens
      have hnone : completionsOf c (step cfg a op).2 = _ := hr.toFollows.completions
      rw [hclose, if_neg Bool.false_ne_true] at hnone
      rw [posts, outputs_cons, completionsOf_append, hnone, List.nil_append]
      exact ih (hr.next hreq hclose hopen)
        (fun o ho => hquiet o (List.mem_cons_of_mem _ ho)) hrest

/-! ## Closed files -/

/-- The file at a path is on no stream and holds the given bytes. -/
structure Settled (path content : ByteString) (a : AgentState) : Prop where
  synced : Synced a
  unopened : ∀ k, (a.dump k).stream.file ≠ some path
  content : a.files.find? path = some content

theorem unopened_run {cfg : Setup} {path : ByteString} {a : AgentState} (ha : Synced a)
    (hfile : ∀ k, (a.dump k).stream.file ≠ some path) {ops : List Op}
    (hopens : neverOpens cfg path a ops = true) :
    Synced (after cfg a ops) ∧ ∀ k, ((after cfg a ops).dump k).stream.file ≠ some path := by
  induction ops generalizing a with
  | nil => exact ⟨ha, hfile⟩
  | cons op ops ih =>
      obtain ⟨hopen, hrest⟩ := neverOpens_cons.1 hopens
      exact ih (step_synced cfg ha op)
        (fun k => step_stream_file cfg ha op k hopen (hfile k)) hrest

theorem Settled.run {cfg : Setup} {path content : ByteString} {a : AgentState}
    (hs : Settled path content a) {ops : List Op} (hopens : neverOpens cfg path a ops = true) :
    Settled path content (after cfg a ops) := by
  induction ops generalizing a with
  | nil => exact hs
  | cons op ops ih =>
      obtain ⟨hopen, hrest⟩ := neverOpens_cons.1 hopens
      refine ih ⟨step_synced cfg hs.synced op,
        fun k => step_stream_file cfg hs.synced op k hopen (hs.unopened k), ?_⟩ hrest
      -- any container will do here: no stream is on the file
      rw [step_files cfg hs.synced op [] hopen fun k _ => hs.unopened k]
      cases acceptedFor cfg [] op with
      | none => exact hs.content
      | some ev =>
          simp only [record_files_of_ne (hs.unopened []), ite_self]
          exact hs.content

theorem requests_of_closes {cfg : Setup} {endTsNs : UInt64} {op : Op}
    (h : closes cfg endTsNs op = true) (c : ByteString) : requests c op = false := by
  cases op with
  | event evt name net => rfl
  | request k d env => simp [closes, accepted] at h

/-- The call that ends a dump leaves its file alone. -/
theorem Follows.files_of_closes {cfg : Setup} {c : ByteString} {plan : DumpPlan} {n : Nat}
    {a : AgentState} (h : Follows c plan n a) {op : Op}
    (hclose : closes cfg plan.endTsNs op = true) (hopens : opens cfg a plan.path op = false) :
    (step cfg a op).1.files.find? plan.path = a.files.find? plan.path := by
  rw [step_files cfg h.synced op c hopens h.others, h.endTsNs, hclose]
  cases acceptedFor cfg c op with
  | none => rfl
  | some ev => simp only [Bool.not_true, Bool.and_false, Bool.false_eq_true, if_false]

/-- After the call that ends a recording no stream has its file open. -/
theorem Recording.close {cfg : Setup} {c : ByteString} {plan : DumpPlan} {h : TraceHeader}
    {recs : List TraceRecord} {a : AgentState} (hr : Recording c plan h recs a) {op : Op}
    (hclose : closes cfg plan.endTsNs op = true) (hopens : opens cfg a plan.path op = false) :
    Settled plan.path (encodeDump h recs) (step cfg a op).1 ∧
      ((step cfg a op).1.dump c).active = false := by
  have hend : closes cfg (a.dump c).endTsNs op = true := by rw [hr.endTsNs, hclose]
  have hinactive := step_inactive hr.synced (requests_of_closes hclose c) (Or.inr hend)
  have hsynced := step_synced cfg hr.synced op
  have hfiles := hr.toFollows.files_of_closes hclose hopens
  refine ⟨⟨hsynced, fun k => ?_, hfiles.trans hr.content⟩, hinactive⟩
  by_cases hk : k = c
  · -- The stream of the ended dump is closed.
    have hopen := hsynced.sync c
    rw [hinactive] at hopen
    rw [hk]
    intro hfile
    simp [OfStream.isOpen, hfile] at hopen
  · exact step_stream_file cfg hr.synced op k hopens (hr.others k hk)

/-- A container without an active dump gets no completion before its next request. -/
theorem completions_inactive {cfg : Setup} {c : ByteString} {a : AgentState} (ha : Synced a)
    (hinactive : (a.dump c).active = false) {ops : List Op}
    (hreq : ∀ op ∈ ops, requests c op = false) : completionsOf c (posts cfg a ops) = [] := by
  refine filterMap_outputs_eq_nil (I := fun s => Synced s ∧ (s.dump c).active = false)
    (P := fun op => requests c op = false) ?_ ⟨ha, hinactive⟩ hreq
  rintro s op hop ⟨hs, hin⟩
  refine ⟨⟨step_synced cfg hs op, step_inactive hs hop (Or.inl hin)⟩, ?_⟩
  have hnone := completionsOf_step cfg hs op c
  rw [hin, Bool.false_and, if_neg Bool.false_ne_true] at hnone
  exact hnone

/-! ## What one dump contains -/

/-- A request that sets up a dump on a stream follows its own plan. -/
theorem follows_request {cfg : Setup} {a : AgentState} (ha : Synced a) {c : ByteString}
    {d : Int32} {env : DumpEnv} {stream : OfStream}
    (hdump : (step cfg a (.request c d env)).1.dump c =
      (a.dump c).started (dumpFilePath cfg c env.timestamp) (a.requestStart c env) d stream)
    (hothers : ∀ k, k ≠ c → (a.dump k).stream.file ≠ some (dumpFilePath cfg c env.timestamp)) :
    Follows c (requestPlan cfg a c d env) 0 (step cfg a (.request c d env)).1 := by
  refine ⟨step_synced cfg ha _, ?_, ?_, ?_, ?_, ?_, ?_, fun k hk => ?_⟩
  · rw [hdump]
    rfl
  · rw [hdump]
    rfl
  · rw [hdump]
    rfl
  · rw [hdump]
    rfl
  · rw [hdump]
    rfl
  · rw [hdump]
    rfl
  · have hsame := dump_requestLongDump_of_ne cfg a c d env hk
    rw [step, hsame]
    exact hothers k hk

/-- A successful request starts a recording without records. -/
theorem recording_request {cfg : Setup} {a : AgentState} (ha : Synced a) {c : ByteString}
    (d : Int32) {env : DumpEnv} (hopens : requestOpens cfg a c env = true)
    (hothers : ∀ k, k ≠ c → (a.dump k).stream.file ≠ some (dumpFilePath cfg c env.timestamp)) :
    Recording c (requestPlan cfg a c d env) (dumpHeader cfg c (a.requestStart c env)) []
        (step cfg a (.request c d env)).1 ∧
      ((step cfg a (.request c d env)).1.dump c).prevTsNs = a.requestStart c env := by
  obtain ⟨hcontent, -, hdump⟩ := requestLongDump_of_opens cfg a c d env hopens
  change (step cfg a (.request c d env)).1.dump c = _ at hdump
  refine ⟨⟨follows_request ha hdump hothers, ?_, ?_⟩, ?_⟩
  · rw [hdump, length_encodeDump]
    rfl
  · rw [encodeDump, List.flatMap_nil, List.append_nil]
    exact hcontent
  · rw [hdump]
    rfl

/-- The calls of a run before the first accepted event at or after a point in time. -/
def openPart (cfg : Setup) (endTsNs : UInt64) (ops : List Op) : List Op :=
  ops.takeWhile fun op => !closes cfg endTsNs op

/-- What a dump of `c` into the file at `path` is meant to give, from the state `a` right after its
request and over the calls `post` that follow. -/
structure DumpOutcome (cfg : Setup) (c path : ByteString) (durationSec : Int32) (a : AgentState)
    (post : List Op) : Prop where
  file : (after cfg a post).files.find? path =
    some (encodeDump (dumpHeader cfg c (a.buffer c).longDumpStartTsNs)
      (expectedRecords (a.buffer c).longDumpStartTsNs
        (acceptedOf cfg c (openPart cfg (a.buffer c).longDumpEndTsNs post))))
  silent : completionsOf c (posts cfg a (openPart cfg (a.buffer c).longDumpEndTsNs post)) = []
  completion : ∀ op rest, post = openPart cfg (a.buffer c).longDumpEndTsNs post ++ op :: rest →
    completionsOf c
        (step cfg (after cfg a (openPart cfg (a.buffer c).longDumpEndTsNs post)) op).2 =
      [{ dumpPath := path
         startTsNs := (a.buffer c).longDumpStartTsNs
         durationSec := durationSec
         recordCount :=
          (acceptedOf cfg c (openPart cfg (a.buffer c).longDumpEndTsNs post)).length }]
  once : ∀ op rest, post = openPart cfg (a.buffer c).longDumpEndTsNs post ++ op :: rest →
    completionsOf c (posts cfg
      (after cfg a (openPart cfg (a.buffer c).longDumpEndTsNs post ++ [op]))
      (rest.takeWhile fun o => !requests c o)) = []

theorem closes_of_openPart {cfg : Setup} {endTsNs : UInt64} {ops rest : List Op} {op : Op}
    (h : ops = openPart cfg endTsNs ops ++ op :: rest) : closes cfg endTsNs op = true := by
  have hdrop : ops.dropWhile (fun op => !closes cfg endTsNs op) = op :: rest := by
    have hsplit := List.takeWhile_append_dropWhile (p := fun op => !closes cfg endTsNs op) (l := ops)
    rw [openPart] at h
    exact List.append_cancel_left (hsplit.trans h)
  have hhead := List.head?_dropWhile_not (fun op => !closes cfg endTsNs op) ops
  rw [hdrop] at hhead
  simpa using hhead

theorem openPart_not_closes {cfg : Setup} {endTsNs : UInt64} {ops : List Op} {op : Op}
    (h : op ∈ openPart cfg endTsNs ops) : closes cfg endTsNs op = false := by
  simpa using List.mem_takeWhile_imp h

/-- The bytes of the file of a finished or unfinished recording, over all calls that follow. -/
theorem Recording.file_run {cfg : Setup} {c : ByteString} {plan : DumpPlan} {h : TraceHeader}
    {recs : List TraceRecord} {a : AgentState} {open_ : List Op} (rest : List Op)
    (hr : Recording c plan h recs (after cfg a open_))
    (hhead : ∀ op, rest.head? = some op → closes cfg plan.endTsNs op = true)
    (hopens : neverOpens cfg plan.path (after cfg a open_) rest = true) :
    (after cfg a (open_ ++ rest)).files.find? plan.path = some (encodeDump h recs) := by
  rw [after_append]
  cases rest with
  | nil => exact hr.content
  | cons op rest =>
      obtain ⟨hopen, hrest⟩ := neverOpens_cons.1 hopens
      exact ((hr.close (hhead op rfl) hopen).1.run hrest).content

theorem dumpOutcome_of_recording {cfg : Setup} {c : ByteString} {plan : DumpPlan} {a : AgentState}
    {post : List Op} (hr : Recording c plan (dumpHeader cfg c plan.startTsNs) [] a)
    (hprev : (a.dump c).prevTsNs = plan.startTsNs)
    (hopens : neverOpens cfg plan.path a post = true)
    (hreq : ∀ op ∈ openPart cfg (a.buffer c).longDumpEndTsNs post, requests c op = false)
    (hts : ∀ ev ∈ acceptedOf cfg c (openPart cfg (a.buffer c).longDumpEndTsNs post), ev.tsNs ≠ 0) :
    DumpOutcome cfg c plan.path plan.durationSec a post := by
  have hend : (a.buffer c).longDumpEndTsNs = plan.endTsNs := hr.endTsNs
  have hstart : (a.buffer c).longDumpStartTsNs = plan.startTsNs := hr.startTsNs
  rw [hend] at hreq hts
  obtain ⟨rest, hpost⟩ : ∃ rest, post = openPart cfg plan.endTsNs post ++ rest :=
    ⟨_, List.takeWhile_append_dropWhile.symm⟩
  have hquiet : ∀ op ∈ openPart cfg plan.endTsNs post, quiet cfg c plan.endTsNs op = true :=
    fun op hop => quiet_iff.2 ⟨hreq op hop, openPart_not_closes hop⟩
  rw [hpost, neverOpens_append] at hopens
  obtain ⟨recs, hlen, hrun, hexpected⟩ := hr.run hquiet hopens.1
  rw [List.nil_append] at hrun
  rw [hprev] at hexpected
  -- Up to the event that ends the dump, the file holds the expected records.
  have hrecs := hexpected hts
  subst hrecs
  refine ⟨?_, ?_, fun op rest' hsplit => ?_, fun op rest' hsplit => ?_⟩
  · rw [hend, hstart]
    have hfile := hrun.file_run rest (fun op hop => ?_) hopens.2
    · rw [← hpost] at hfile
      exact hfile
    · obtain ⟨rest', rfl⟩ : ∃ rest', rest = op :: rest' := by
        cases rest with
        | nil => exact absurd hop (by simp)
        | cons o os => exact ⟨os, by rw [Option.some.inj hop]⟩
      exact closes_of_openPart hpost
  · rw [hend]
    exact hr.completions_run hquiet hopens.1
  · rw [hend] at hsplit ⊢
    rw [hrun.toFollows.completions, closes_of_openPart hsplit, if_pos rfl, hlen, hstart]
    rfl
  · rw [hend] at hsplit ⊢
    have hcut : rest = op :: rest' := List.append_cancel_left (hpost.symm.trans hsplit)
    rw [hcut, neverOpens_cons] at hopens
    obtain ⟨hsettled, hinactive⟩ := hrun.close (closes_of_openPart hsplit) hopens.2.1
    rw [after_concat]
    exact completions_inactive hsettled.synced hinactive fun o ho => by
      simpa using List.mem_takeWhile_imp ho

/-- After a run in which some call ends the dump no stream has its file open. -/
theorem Recording.unopened_of_closes {cfg : Setup} {c : ByteString} {plan : DumpPlan}
    {h : TraceHeader} {recs : List TraceRecord} {a : AgentState} (hr : Recording c plan h recs a)
    {post : List Op} (hopens : neverOpens cfg plan.path a post = true)
    (hreq : ∀ op ∈ openPart cfg plan.endTsNs post, requests c op = false)
    (hended : ∃ op ∈ post, closes cfg plan.endTsNs op = true) (k : ByteString) :
    ((after cfg a post).dump k).stream.file ≠ some plan.path := by
  obtain ⟨rest, hpost⟩ : ∃ rest, post = openPart cfg plan.endTsNs post ++ rest :=
    ⟨_, List.takeWhile_append_dropWhile.symm⟩
  have hquiet : ∀ op ∈ openPart cfg plan.endTsNs post, quiet cfg c plan.endTsNs op = true :=
    fun op hop => quiet_iff.2 ⟨hreq op hop, openPart_not_closes hop⟩
  rw [hpost, neverOpens_append] at hopens
  obtain ⟨recs', -, hrun, -⟩ := hr.run hquiet hopens.1
  cases rest with
  | nil =>
      -- the call that ends the dump is not in front of itself
      obtain ⟨op, hop, hcloses⟩ := hended
      rw [List.append_nil] at hpost
      rw [hpost] at hop
      rw [openPart_not_closes hop] at hcloses
      cases hcloses
  | cons op rest =>
      obtain ⟨hopen, hrest⟩ := neverOpens_cons.1 hopens.2
      have hsettled := (hrun.close (closes_of_openPart hpost) hopen).1.run hrest
      rw [hpost, after_append]
      exact hsettled.unopened k

theorem ne_zero_of_acceptedOf {cfg : Setup} {c : ByteString} {ops : List Op}
    (hts : ∀ op ∈ ops, ∀ k ev, accepted cfg op = some (k, ev) → ev.tsNs ≠ 0) :
    ∀ ev ∈ acceptedOf cfg c ops, ev.tsNs ≠ 0 := by
  intro ev hev
  obtain ⟨op, hop, hacc⟩ := List.mem_filterMap.1 hev
  obtain ⟨⟨k, ev'⟩, hk, hc⟩ := Option.bind_eq_some_iff.1 hacc
  split at hc
  · rw [← Option.some.inj hc]
    exact hts op hop k ev' hk
  · exact absurd hc (by simp)

/-- Every successful dump request that is not followed by another one for the container before the
dump ends, and whose file no other request opens, has the outcome it is meant to have. -/
theorem long_dump_contents (cfg : Setup) (files : FileSystem) (pre post : List Op)
    (c : ByteString) (d : Int32) (env : DumpEnv)
    (hopens : requestOpens cfg (after cfg (.init files) pre) c env = true)
    (hpre : neverOpens cfg (dumpFilePath cfg c env.timestamp) (.init files) pre = true)
    (hpost : neverOpens cfg (dumpFilePath cfg c env.timestamp)
      (after cfg (.init files) (pre ++ [.request c d env])) post = true)
    (hreq : ∀ op ∈ openPart cfg
      ((after cfg (.init files) (pre ++ [.request c d env])).buffer c).longDumpEndTsNs post,
      requests c op = false)
    (hts : ∀ op ∈ pre ++ post, ∀ k ev, accepted cfg op = some (k, ev) → ev.tsNs ≠ 0) :
    DumpOutcome cfg c (dumpFilePath cfg c env.timestamp) d
      (after cfg (.init files) (pre ++ [.request c d env])) post := by
  -- nobody had the file open before the request, so only its own records get into it
  obtain ⟨hsynced, hfree⟩ := unopened_run (synced_init files)
    (fun _ => Option.some_ne_none _ ∘ Eq.symm) hpre
  obtain ⟨hrec, hprev⟩ := recording_request hsynced d hopens fun k _ => hfree k
  rw [after_concat] at hpost hreq ⊢
  refine dumpOutcome_of_recording hrec hprev hpost hreq fun ev hev => ?_
  obtain ⟨op, hop, hacc⟩ := List.mem_filterMap.1 hev
  exact ne_zero_of_acceptedOf (fun o ho => hts o (List.mem_append_right _ ho)) ev
    (List.mem_filterMap.2 ⟨op, (List.takeWhile_subset _) hop, hacc⟩)

/-- A request at time one for ten seconds. -/
def requestAt (timestamp : String) : Op :=
  .request (ascii "a") 10 { timestamp := ascii timestamp, canOpen := true, monotonicNowNs := 1 }

/-- One record and the completion, on a run of two events. -/
theorem long_dump_contents_two_events :
    DumpOutcome defaultSetup (ascii "a")
      (dumpFilePath defaultSetup (ascii "a") (ascii "20250101-000000")) 10
      (after defaultSetup (.init Table.empty) ([] ++ [requestAt "20250101-000000"]))
      [eventAt 2000, eventAt 20000000000] :=
  long_dump_contents defaultSetup Table.empty [] [eventAt 2000, eventAt 20000000000] (ascii "a") 10
    { timestamp := ascii "20250101-000000", canOpen := true, monotonicNowNs := 1 }
    (by decide) (by decide) (by decide) (by decide) (by
      intro op hop k ev hacc
      simp only [List.nil_append, List.mem_cons, List.not_mem_nil, or_false] at hop
      rcases hop with rfl | rfl
      · rw [accepted_eventAt, Option.some.injEq, Prod.mk.injEq] at hacc
        rw [← hacc.2]
        decide
      · rw [accepted_eventAt, Option.some.injEq, Prod.mk.injEq] at hacc
        rw [← hacc.2]
        decide)

end DeepKernel.Agent
