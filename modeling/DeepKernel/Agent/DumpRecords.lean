import DeepKernel.Agent.DumpPeriod

/-!
# The records of a dump

Which records the calls of a run write into the dump of a container, and which timestamps they are
counted from: the first one from the start of the dump, each other one from the record before, where a
timestamp of zero is taken for none (`recordsOf_eq_writtenRecords`). The start is the timestamp of an
event that was accepted before the request, or a reading of the clock (`requestStart_cases`).
-/

set_option autoImplicit false

namespace DeepKernel.Agent

open DeepKernel.Lib

/-! ## Records of a run -/

/-- The record that a call writes into the dump of a container. -/
def recordOf (cfg : Setup) (c : ByteString) (a : AgentState) (op : Op) : Option TraceRecord :=
  (acceptedFor cfg c op).bind fun ev =>
    if (a.dump c).active && (a.dump c).stream.isOpen && !(a.dump c).closesAt ev then
      some (makeTraceRecord ev (a.dump c).prevTsNs)
    else none

/-- The records that the calls of a run write into the dump of a container. -/
def recordsOf (cfg : Setup) (c : ByteString) : AgentState → List Op → List TraceRecord
  | _, [] => []
  | a, op :: ops => (recordOf cfg c a op).toList ++ recordsOf cfg c (step cfg a op).1 ops

/-- The record is what `appendLongDump` writes to the stream. -/
theorem files_appendLongDump (cfg : Setup) (net : Net) {a : AgentState} {c : ByteString} {op : Op}
    {ev : SyscallEvent} (hacc : acceptedFor cfg c op = some ev) :
    (appendLongDump cfg net a.files (a.buffer c) ev).1 =
      match recordOf cfg c a op with
      | some r => ((a.dump c).stream.write a.files r.encode).1
      | none => a.files := by
  rw [recordOf, hacc, Option.bind_some, appendLongDump]
  have hactive : (a.dump c).active = (a.buffer c).isLongDumpActive := rfl
  have hstream : (a.dump c).stream = (a.buffer c).longDumpStream := rfl
  have hend : (a.dump c).endTsNs = (a.buffer c).longDumpEndTsNs := rfl
  rw [Dump.closesAt, hactive, hstream, hend]
  by_cases hopen : ((a.buffer c).isLongDumpActive && (a.buffer c).longDumpStream.isOpen) = true
  · rw [if_pos hopen, hopen, (Bool.and_eq_true_iff.1 hopen).1]
    by_cases hlate : (a.buffer c).longDumpEndTsNs ≤ ev.tsNs
    · rw [if_pos hlate, decide_eq_true hlate]
      rfl
    · rw [if_neg hlate, decide_eq_false hlate]
      rfl
  · rw [if_neg hopen, Bool.eq_false_iff.2 hopen]
    rfl

/-- An active dump records the accepted events of its container before its end. -/
theorem recordOf_of_active (cfg : Setup) {c : ByteString} {a : AgentState} (ha : Synced a)
    (hactive : (a.dump c).active = true) (op : Op) :
    recordOf cfg c a op =
      if closes cfg (a.dump c).endTsNs op then none
      else (acceptedFor cfg c op).map (makeTraceRecord · (a.dump c).prevTsNs) := by
  have hopen : (a.dump c).stream.isOpen = true := by rw [← ha.sync c, hactive]
  rw [recordOf]
  cases hacc : acceptedFor cfg c op with
  | none => simp
  | some ev =>
      have hcloses : closes cfg (a.dump c).endTsNs op = decide ((a.dump c).endTsNs ≤ ev.tsNs) := by
        rw [closes, accepted_of_acceptedFor hacc]
      rw [Option.bind_some, Dump.closesAt, hactive, hopen, hcloses]
      cases decide ((a.dump c).endTsNs ≤ ev.tsNs) with
      | true => rfl
      | false => rfl

/-- The records for the events of a dump, from the start of the dump and the last timestamp on. -/
def writtenRecords (startTsNs : UInt64) : UInt64 → List SyscallEvent → List TraceRecord
  | _, [] => []
  | lastTsNs, ev :: evs =>
      makeTraceRecord ev (if lastTsNs = 0 then startTsNs else lastTsNs) ::
        writtenRecords startTsNs ev.tsNs evs

/-- A container without an active dump writes nothing before its next request. -/
theorem recordsOf_inactive {cfg : Setup} {c : ByteString} {a : AgentState} (ha : Synced a)
    (hinactive : (a.dump c).active = false) {ops : List Op}
    (hreq : ∀ op ∈ ops, requests c op = false) : recordsOf cfg c a ops = [] := by
  induction ops generalizing a with
  | nil => rfl
  | cons op ops ih =>
      have hnone : recordOf cfg c a op = none := by
        rw [recordOf, hinactive]
        cases acceptedFor cfg c op with
        | none => rfl
        | some ev => rfl
      rw [recordsOf, hnone, Option.toList_none, List.nil_append]
      refine ih (step_synced cfg ha op) ?_ fun o ho => hreq o (List.mem_cons_of_mem _ ho)
      exact step_inactive ha (hreq op List.mem_cons_self) (.inl hinactive)

/-- Over calls without a request for the container, an active dump writes the records of the events
before its end. -/
theorem recordsOf_eq_writtenRecords (cfg : Setup) {c : ByteString} {a : AgentState} (ha : Synced a)
    (hactive : (a.dump c).active = true) {ops : List Op}
    (hreq : ∀ op ∈ ops, requests c op = false) :
    recordsOf cfg c a ops =
      writtenRecords (a.dump c).startTsNs (a.dump c).lastTsNs
        (acceptedOf cfg c (openPart cfg (a.dump c).endTsNs ops)) := by
  induction ops generalizing a with
  | nil => rfl
  | cons op ops ih =>
      have hop := hreq op List.mem_cons_self
      have hrest : ∀ o ∈ ops, requests c o = false := fun o ho => hreq o (List.mem_cons_of_mem _ ho)
      have hsynced := step_synced cfg ha op
      have hrecord := recordOf_of_active cfg ha hactive op
      cases hclose : closes cfg (a.dump c).endTsNs op with
      | true =>
          -- the call ends the dump, and its own event is not recorded
          have hinactive := step_inactive ha hop (.inr hclose)
          rw [hclose, if_pos rfl] at hrecord
          rw [recordsOf, hrecord, recordsOf_inactive hsynced hinactive hrest, openPart,
            List.takeWhile_cons_of_neg (by rw [hclose]; decide)]
          rfl
      | false =>
          have hdump := step_dump_of_active ha hactive hop hclose
          rw [hclose, if_neg Bool.false_ne_true] at hrecord
          rw [openPart, List.takeWhile_cons_of_pos (by rw [hclose]; rfl), acceptedOf_cons, recordsOf,
            hrecord]
          cases hacc : acceptedFor cfg c op with
          | none =>
              rw [hacc] at hdump
              rw [ih hsynced (by rw [hdump, hactive]) hrest, hdump]
              rfl
          | some ev =>
              rw [hacc] at hdump
              rw [ih hsynced (by rw [hdump]; exact hactive) hrest, hdump]
              rfl

/-- The file of a recording gets those records. -/
theorem Recording.run_records {cfg : Setup} {c : ByteString} {plan : DumpPlan} {h : TraceHeader}
    {recs : List TraceRecord} {a : AgentState} (hr : Recording c plan h recs a) {ops : List Op}
    (hquiet : ∀ op ∈ ops, quiet cfg c plan.endTsNs op = true)
    (hopens : neverOpens cfg plan.path a ops = true) :
    Recording c plan h (recs ++ recordsOf cfg c a ops) (after cfg a ops) := by
  induction ops generalizing a recs with
  | nil => simpa [recordsOf] using hr
  | cons op ops ih =>
      obtain ⟨hreq, hclose⟩ := quiet_iff.1 (hquiet op List.mem_cons_self)
      obtain ⟨hopen, hrest⟩ := neverOpens_cons.1 hopens
      have hrecord := recordOf_of_active cfg hr.synced hr.active op
      rw [hr.endTsNs, hclose, if_neg Bool.false_ne_true] at hrecord
      have hnext := ih (hr.next hreq hclose hopen)
        (fun o ho => hquiet o (List.mem_cons_of_mem _ ho)) hrest
      rw [recordsOf, hrecord, Option.toList_map, ← List.append_assoc]
      exact hnext

/-- The file that a successful request opens holds the records of the dump, if no other request
opens it. -/
theorem file_recordsOf {cfg : Setup} {files : FileSystem} {pre post : List Op} {c : ByteString}
    {d : Int32} {env : DumpEnv}
    (hopens : requestOpens cfg (after cfg (.init files) pre) c env = true)
    (hpre : neverOpens cfg (dumpFilePath cfg c env.timestamp) (.init files) pre = true)
    (hpost : neverOpens cfg (dumpFilePath cfg c env.timestamp)
      (after cfg (.init files) (pre ++ [.request c d env])) post = true)
    (hreq : ∀ op ∈ post, requests c op = false) :
    (after cfg (after cfg (.init files) (pre ++ [.request c d env])) post).files.find?
        (dumpFilePath cfg c env.timestamp) =
      some (encodeDump (dumpHeader cfg c ((after cfg (.init files) pre).requestStart c env))
        (recordsOf cfg c (after cfg (.init files) (pre ++ [.request c d env])) post)) := by
  obtain ⟨hsynced, hfree⟩ := unopened_run (synced_init files)
    (fun _ => Option.some_ne_none _ ∘ Eq.symm) hpre
  have hrec := (recording_request hsynced d hopens fun k _ => hfree k).1
  rw [after_concat] at hpost ⊢
  generalize (step cfg (after cfg (.init files) pre) (.request c d env)).1 = a at hrec hpost ⊢
  have hend : (a.dump c).endTsNs = (requestPlan cfg (after cfg (.init files) pre) c d env).endTsNs :=
    hrec.endTsNs
  -- what is written before the end of the dump, and nothing after it
  obtain ⟨rest, hsplit⟩ : ∃ rest, post = openPart cfg (a.dump c).endTsNs post ++ rest :=
    ⟨_, List.takeWhile_append_dropWhile.symm⟩
  have hquiet : ∀ op ∈ openPart cfg (a.dump c).endTsNs post,
      quiet cfg c (requestPlan cfg (after cfg (.init files) pre) c d env).endTsNs op = true := by
    intro op hop
    rw [← hend]
    exact quiet_iff.2 ⟨hreq op ((List.takeWhile_subset _) hop), openPart_not_closes hop⟩
  have hsame : recordsOf cfg c a (openPart cfg (a.dump c).endTsNs post) = recordsOf cfg c a post := by
    have hidem : openPart cfg (a.dump c).endTsNs (openPart cfg (a.dump c).endTsNs post) =
        openPart cfg (a.dump c).endTsNs post := List.takeWhile_idem
    have hopenReq : ∀ op ∈ openPart cfg (a.dump c).endTsNs post, requests c op = false :=
      fun op hop => hreq op ((List.takeWhile_subset _) hop)
    rw [recordsOf_eq_writtenRecords cfg hrec.synced hrec.active hreq,
      recordsOf_eq_writtenRecords cfg hrec.synced hrec.active hopenReq, hidem]
  rw [hsplit, neverOpens_append] at hpost
  have hrun := hrec.run_records hquiet hpost.1
  rw [List.nil_append, hsame] at hrun
  have hfile := hrun.file_run rest (fun op hop => ?_) hpost.2
  · rw [← hsplit] at hfile
    exact hfile
  · obtain ⟨rest', rfl⟩ : ∃ rest', rest = op :: rest' := by
      cases rest with
      | nil => cases hop
      | cons o os => exact ⟨os, by rw [Option.some.inj hop]⟩
    rw [← hend]
    exact closes_of_openPart hsplit

/-! ## The last event -/

theorem lastEventTsNs_handleOwn (cfg : Setup) (net : Net) (files : FileSystem) (b : ContainerBuffer)
    (k : ByteString) (ev : SyscallEvent) :
    (handleOwn cfg net files b k ev).2.1.lastEventTsNs = ev.tsNs := by
  -- neither the dump nor the window touches the timestamp that was set first
  have happend : ∀ b : ContainerBuffer,
      (appendLongDump cfg net files b ev).2.1.lastEventTsNs = b.lastEventTsNs := by
    intro b
    rw [appendLongDump]
    split_ifs
    all_goals rfl
  have hprocess : ∀ b : ContainerBuffer,
      (processShortWindow cfg net b).1.lastEventTsNs = b.lastEventTsNs := by
    intro b
    rw [processShortWindow]
    split_ifs
    · rfl
    · rfl
  rw [handleOwn]
  split_ifs
  · rw [hprocess, happend]
    rfl
  · rw [happend]
    rfl

theorem lastEventTsNs_expire (nowNs : UInt64) (b : ContainerBuffer) :
    (expire nowNs b).lastEventTsNs = b.lastEventTsNs := by
  rw [expire]
  split_ifs
  · rfl
  · rfl

theorem lastEventTsNs_requestLongDump (cfg : Setup) (a : AgentState) (k : ByteString) (d : Int32)
    (env : DumpEnv) (c : ByteString) :
    ((requestLongDump cfg a k d env).buffer c).lastEventTsNs = (a.buffer c).lastEventTsNs := by
  by_cases hc : c = k
  · subst hc
    rw [requestLongDump]
    dsimp only
    split_ifs
    · rw [AgentState.buffer, Table.find?_set_self]
      rfl
    · rw [AgentState.buffer, Table.find?_set_self]
      rfl
  · rw [AgentState.buffer, find?_requestLongDump_of_ne cfg a k d env hc]
    rfl

/-- The last timestamp of a container after a call: none, the one before, or that of the call's event. -/
theorem lastEventTsNs_step (cfg : Setup) (a : AgentState) (op : Op) (c : ByteString) :
    ((step cfg a op).1.buffer c).lastEventTsNs = 0 ∨
      ((step cfg a op).1.buffer c).lastEventTsNs = (a.buffer c).lastEventTsNs ∨
      ∃ ev, acceptedFor cfg c op = some ev ∧
        ((step cfg a op).1.buffer c).lastEventTsNs = ev.tsNs := by
  rcases step_cases cfg op with ⟨k, d, env, rfl⟩ | ⟨-, hstep⟩ | ⟨net, k, ev, hacc, hstep⟩
  · -- a request
    exact .inr (.inl (lastEventTsNs_requestLongDump cfg a k d env c))
  · -- an event that the filter drops
    rw [hstep]
    exact .inr (.inl rfl)
  · -- an accepted event: a buffer that the sweep erases starts again without a timestamp
    have hswept : ∀ o : Option ContainerBuffer,
        (((o.map (expire ev.tsNs)).filter (survives a ev.tsNs)).getD {}).lastEventTsNs = 0 ∨
          ∃ b, o = some b ∧
            (((o.map (expire ev.tsNs)).filter (survives a ev.tsNs)).getD {}).lastEventTsNs =
              b.lastEventTsNs := by
      intro o
      cases o with
      | none => exact .inl rfl
      | some b =>
          rw [Option.map_some, Option.filter_some]
          split_ifs
          · exact .inr ⟨b, rfl, lastEventTsNs_expire ev.tsNs b⟩
          · exact .inl rfl
    rw [hstep, buffer_handleAccepted]
    rcases hswept (if c = k then some (handleOwn cfg net a.files (a.buffer k) k ev).2.1
      else a.buffers.find? c) with hzero | ⟨b, hb, hlast⟩
    · exact .inl hzero
    · right
      rw [hlast]
      by_cases hc : c = k
      · rw [if_pos hc] at hb
        refine .inr ⟨ev, ?_, ?_⟩
        · rw [acceptedFor, hacc, Option.bind_some, if_pos hc.symm]
        · rw [← Option.some.inj hb, lastEventTsNs_handleOwn]
      · rw [if_neg hc] at hb
        rw [AgentState.buffer, hb]
        exact .inl rfl

/-- In every run, the last timestamp of a container is zero or that of one of its accepted events. -/
theorem lastEventTsNs_run (cfg : Setup) (files : FileSystem) (ops : List Op) (c : ByteString) :
    ((after cfg (.init files) ops).buffer c).lastEventTsNs = 0 ∨
      ∃ ev ∈ acceptedOf cfg c ops, ev.tsNs = ((after cfg (.init files) ops).buffer c).lastEventTsNs := by
  induction ops using List.reverseRecOn with
  | nil => exact .inl rfl
  | append_singleton ops op ih =>
      -- the accepted events of the last call come last
      have hsplit : acceptedOf cfg c (ops ++ [op]) =
          acceptedOf cfg c ops ++ (acceptedFor cfg c op).toList := by
        rw [acceptedOf, List.filterMap_append]
        cases h : acceptedFor cfg c op <;> simp [acceptedOf, h]
      rw [after_concat, hsplit]
      rcases lastEventTsNs_step cfg (after cfg (.init files) ops) op c with hzero | hsame | ⟨ev, hacc, hts⟩
      · exact .inl hzero
      · rw [hsame]
        rcases ih with hzero | ⟨ev, hev, hts⟩
        · exact .inl hzero
        · exact .inr ⟨ev, List.mem_append_left _ hev, hts⟩
      · refine .inr ⟨ev, List.mem_append_right _ ?_, hts.symm⟩
        rw [hacc]
        exact List.mem_singleton.2 rfl

/-- The start of a requested dump is the timestamp of an accepted event, or the reading of the clock. -/
theorem requestStart_cases (cfg : Setup) (files : FileSystem) (pre : List Op) (c : ByteString)
    (env : DumpEnv) :
    (((after cfg (.init files) pre).buffer c).lastEventTsNs = 0 ∧
        (after cfg (.init files) pre).requestStart c env = env.monotonicNowNs) ∨
      ∃ ev ∈ acceptedOf cfg c pre, ev.tsNs = (after cfg (.init files) pre).requestStart c env := by
  rw [AgentState.requestStart, dumpStart]
  split_ifs with hlast
  · rcases lastEventTsNs_run cfg files pre c with hzero | hevent
    · exact absurd hzero hlast
    · exact .inr hevent
  · exact .inl ⟨not_not.1 hlast, rfl⟩

end DeepKernel.Agent
