import DeepKernel.Agent.LongDump

/-!
# The period of a dump

A dump request names a duration, and the period it asks for begins with the request. The agent lets
the period begin with the last event of the container, as long as it remembers one, so the dump of a
container that has been silent for a while ends too early: by as much as the container was silent.

The dump of a container that stays silent is closed by the events of other containers, those that the
filter leaves out excepted.
-/

set_option autoImplicit false

namespace DeepKernel.Agent

open DeepKernel.Lib

/-! ## An open dump -/

/-- The dump of `c` is active until `endTsNs` and writes to the file at `path`. -/
structure Writing (c path : ByteString) (endTsNs : UInt64) (a : AgentState) : Prop where
  synced : Synced a
  active : (a.dump c).active = true
  endTsNs : (a.dump c).endTsNs = endTsNs
  file : (a.dump c).stream.file = some path
  failbit : (a.dump c).stream.failbit = false

/-- The call writes the record of the event to the file at `path`, at the position of the stream of
`c`, and counts it. -/
structure Written (cfg : Setup) (c path : ByteString) (a : AgentState) (op : Op)
    (ev : SyscallEvent) : Prop where
  file : (step cfg a op).1.files.find? path =
    some (overwrite ((a.files.find? path).getD []) (a.dump c).stream.pos
      (makeTraceRecord ev (a.dump c).prevTsNs).encode)
  count : ((step cfg a op).1.dump c).recordCount = (a.dump c).recordCount + 1

section Step

variable {cfg : Setup} {a : AgentState} {op : Op} {c path : ByteString} {endTsNs : UInt64}

theorem write_of_file {s : OfStream} (hfail : s.failbit = false)
    (hfile : s.file = some path) (fs : FileSystem) (bytes : ByteString) :
    s.write fs bytes = (fs.set path (overwrite ((fs.find? path).getD []) s.pos bytes),
      { s with pos := s.pos + bytes.length }) := by
  obtain ⟨file, pos, failbit⟩ := s
  subst hfail hfile
  rfl

/-- A dump stays open over a call that does not end it. -/
theorem Writing.next (h : Writing c path endTsNs a) (hreq : requests c op = false)
    (hclose : closes cfg endTsNs op = false) : Writing c path endTsNs (step cfg a op).1 := by
  have hdump := step_dump_of_active h.synced h.active hreq (by rw [h.endTsNs]; exact hclose)
  have hsynced := step_synced cfg h.synced op
  cases hacc : acceptedFor cfg c op with
  | none =>
      rw [hacc] at hdump
      exact ⟨hsynced, by rw [hdump]; exact h.active, by rw [hdump]; exact h.endTsNs,
        by rw [hdump]; exact h.file, by rw [hdump]; exact h.failbit⟩
  | some ev =>
      simp only [hacc] at hdump
      have hwrite := write_of_file h.failbit h.file a.files
        (makeTraceRecord ev (a.dump c).prevTsNs).encode
      refine ⟨hsynced, ?_, ?_, ?_, ?_⟩
      · rw [hdump]
        exact h.active
      · rw [hdump]
        exact h.endTsNs
      · rw [hdump, Dump.record, hwrite]
        exact h.file
      · rw [hdump, Dump.record, hwrite]
        exact h.failbit

theorem Writing.run (h : Writing c path endTsNs a) {ops : List Op}
    (hquiet : ∀ op ∈ ops, quiet cfg c endTsNs op = true) :
    Writing c path endTsNs (after cfg a ops) := by
  refine finalState_invariant (I := Writing c path endTsNs)
    (P := fun op => quiet cfg c endTsNs op = true) (fun s op hop hs => ?_) h hquiet
  obtain ⟨hreq, hclose⟩ := quiet_iff.1 hop
  exact hs.next hreq hclose

/-- While the dump is open every event of the container is written. -/
theorem Writing.written (h : Writing c path endTsNs a) {ev : SyscallEvent}
    (hacc : acceptedFor cfg c op = some ev) (hts : ev.tsNs < endTsNs) :
    Written cfg c path a op ev := by
  rcases step_cases cfg op with ⟨k, d, env, rfl⟩ | ⟨hnone, -⟩ | ⟨net, k, ev', hev', hstep⟩
  · simp [acceptedFor, accepted] at hacc
  · simp [acceptedFor, hnone] at hacc
  · obtain ⟨rfl, rfl⟩ : k = c ∧ ev' = ev := by
      simpa [acceptedFor, hev'] using hacc
    have hclose : closes cfg endTsNs op = false := by
      simpa [closes, hev'] using hts
    have hreq : requests k op = false := by
      cases op with
      | event evt name net => rfl
      | request k d env => cases hev'
    have hdump := step_dump_of_active h.synced h.active hreq (by rw [h.endTsNs]; exact hclose)
    have hwrite := write_of_file h.failbit h.file a.files
      (makeTraceRecord ev' (a.dump k).prevTsNs).encode
    -- the event is before the end, so the dump is still open when it is appended
    have hopen : ((a.dump k).active && !(a.dump k).closesAt ev') = true := by
      rw [Dump.closesAt, h.active, h.endTsNs, decide_eq_false (UInt64.not_le.2 hts)]
      rfl
    rw [hacc] at hdump
    refine ⟨?_, ?_⟩
    · rw [hstep, handleAccepted_files cfg net h.synced k ev', if_pos hopen, Dump.record, hwrite,
        Table.find?_set_self]
    · rw [hdump]
      rfl

/-- An event that finds no open dump, or ends it, is not written. -/
theorem not_written (ha : Synced a) {ev : SyscallEvent} (hacc : acceptedFor cfg c op = some ev)
    (h : (a.dump c).active = false ∨ closes cfg (a.dump c).endTsNs op = true) :
    ¬ Written cfg c path a op ev := by
  intro hwritten
  have hcount := hwritten.count
  have hreq : requests c op = false := by
    cases op with
    | event evt name net => rfl
    | request k d env => simp [acceptedFor, accepted] at hacc
  have hstep := step_dump cfg ha op c hreq
  -- the counter is reset, or it stays as it is
  cases hends : ((a.dump c).active && closes cfg (a.dump c).endTsNs op) with
  | true =>
      rw [hends] at hstep
      rcases hstep with hs | ⟨hs, -⟩
      · rw [hs] at hcount
        cases hcount
      · rw [hs] at hcount
        cases hcount
  | false =>
      have hactive : (a.dump c).active = false := by
        rcases h with h | h
        · exact h
        · rw [h, Bool.and_true] at hends
          exact hends
      rw [hends, hactive, hacc] at hstep
      rcases hstep with hs | ⟨hs, -⟩
      · rw [hs] at hcount
        exact absurd hcount (Nat.ne_of_lt (Nat.lt_succ_self _))
      · rw [hs] at hcount
        cases hcount

end Step

/-! ## The period -/

/-- The event lies in the period of `durationSec` seconds from `nowNs` on. -/
def InPeriod (nowNs : UInt64) (durationSec : Int32) (ev : SyscallEvent) : Prop :=
  nowNs.toNat ≤ ev.tsNs.toNat ∧
    (ev.tsNs.toNat : Int) < nowNs.toNat + durationSec.toInt * 1000000000

/-- Every accepted event of `c` in the period that is processed after the state `a` is written. -/
def CoversPeriod (cfg : Setup) (c path : ByteString) (nowNs : UInt64) (durationSec : Int32)
    (a : AgentState) (post : List Op) : Prop :=
  ∀ before op rest ev, post = before ++ op :: rest → acceptedFor cfg c op = some ev →
    InPeriod nowNs durationSec ev → Written cfg c path (after cfg a before) op ev

/-- The timestamps of the accepted events do not decrease. -/
def TimestampsInOrder (cfg : Setup) (ops : List Op) : Prop :=
  (ops.filterMap (accepted cfg)).Pairwise fun e e' => e.2.tsNs ≤ e'.2.tsNs

instance (cfg : Setup) (ops : List Op) : Decidable (TimestampsInOrder cfg ops) :=
  inferInstanceAs (Decidable (List.Pairwise _ _))

section Run

variable {cfg : Setup} {c path : ByteString} {endTsNs : UInt64}

theorem accepted_of_acceptedFor {op : Op} {ev : SyscallEvent}
    (h : acceptedFor cfg c op = some ev) : accepted cfg op = some (c, ev) := by
  obtain ⟨⟨k, ev'⟩, hk, hc⟩ := Option.bind_eq_some_iff.1 h
  split at hc
  · rename_i hkc
    rw [hk, ← Option.some.inj hc]
    exact congrArg (fun k => some (k, ev')) hkc
  · cases hc

/-- Nothing before an event in order ends a dump that the event does not end. -/
theorem not_closes_before {before rest : List Op} {op : Op} {ev : SyscallEvent}
    (horder : TimestampsInOrder cfg (before ++ op :: rest))
    (hacc : acceptedFor cfg c op = some ev) (hts : ev.tsNs < endTsNs) {op' : Op}
    (hop' : op' ∈ before) : closes cfg endTsNs op' = false := by
  rw [closes]
  cases hacc' : accepted cfg op' with
  | none => rfl
  | some e =>
      refine decide_eq_false fun hend => ?_
      rw [TimestampsInOrder, List.filterMap_append, List.pairwise_append] at horder
      have hle : e.2.tsNs ≤ ev.tsNs := by
        refine horder.2.2 e (List.mem_filterMap.2 ⟨op', hop', hacc'⟩) (c, ev) ?_
        exact List.mem_filterMap.2 ⟨op, List.mem_cons_self, accepted_of_acceptedFor hacc⟩
      exact absurd (UInt64.le_trans hend hle) (UInt64.not_le.2 hts)

/-- After a run without requests the dump is open until its end, or it is closed. -/
theorem Writing.run_cases {a : AgentState} (h : Writing c path endTsNs a) {ops : List Op}
    (hreq : ∀ op ∈ ops, requests c op = false) :
    Writing c path endTsNs (after cfg a ops) ∨ ((after cfg a ops).dump c).active = false := by
  refine finalState_invariant (P := fun op => requests c op = false)
    (I := fun s => Synced s ∧ (Writing c path endTsNs s ∨ (s.dump c).active = false))
    (fun s op hop hs => ?_) ⟨h.synced, .inl h⟩ hreq |>.2
  obtain ⟨hsynced, hs⟩ := hs
  refine ⟨step_synced cfg hsynced op, ?_⟩
  rcases hs with hs | hs
  · cases hclose : closes cfg endTsNs op with
    | false => exact .inl (hs.next hop hclose)
    | true =>
        refine .inr (step_inactive hsynced hop (.inr ?_))
        rw [hs.endTsNs]
        exact hclose
  · exact .inr (step_inactive hsynced hop (.inl hs))

/-- Of the events that follow the request, in order, those before the end of the dump are written. -/
theorem Writing.written_iff {a : AgentState} (h : Writing c path endTsNs a)
    {before rest : List Op} {op : Op} {ev : SyscallEvent}
    (hreq : ∀ op' ∈ before, requests c op' = false)
    (horder : TimestampsInOrder cfg (before ++ op :: rest))
    (hacc : acceptedFor cfg c op = some ev) :
    Written cfg c path (after cfg a before) op ev ↔ ev.tsNs < endTsNs := by
  constructor
  · intro hwritten
    by_contra hend
    refine not_written (synced_run cfg h.synced before) hacc ?_ hwritten
    rcases h.run_cases hreq with hopen | hclosed
    · refine .inr ?_
      rw [hopen.endTsNs, closes, accepted_of_acceptedFor hacc]
      exact decide_eq_true (UInt64.not_lt.1 hend)
    · exact .inl hclosed
  · intro hts
    refine (h.run fun op' hop' => ?_).written hacc hts
    exact quiet_iff.2 ⟨hreq op' hop', not_closes_before horder hacc hts hop'⟩

end Run

/-- A successful request opens the dump. -/
theorem writing_request {cfg : Setup} {a : AgentState} (ha : Synced a) {c : ByteString}
    (d : Int32) {env : DumpEnv} (hopens : requestOpens cfg a c env = true) :
    Writing c (dumpFilePath cfg c env.timestamp) (dumpEnd (a.requestStart c env) d)
      (step cfg a (.request c d env)).1 := by
  obtain ⟨-, -, hdump⟩ := requestLongDump_of_opens cfg a c d env hopens
  have hstep : (step cfg a (.request c d env)).1.dump c = _ := hdump
  exact ⟨step_synced cfg ha _, by rw [hstep]; rfl, by rw [hstep]; rfl, by rw [hstep]; rfl,
    by rw [hstep]; rfl⟩

/-- A dump covers the period that was asked for exactly if no event of the period comes after the end
that the agent counts from the last event before the request. -/
theorem dump_covers_period_iff (cfg : Setup) (files : FileSystem) (pre post : List Op)
    (c : ByteString) (d : Int32) (env : DumpEnv)
    (hopens : requestOpens cfg (after cfg (.init files) pre) c env = true)
    (hreq : ∀ op ∈ post, requests c op = false) (horder : TimestampsInOrder cfg post) :
    CoversPeriod cfg c (dumpFilePath cfg c env.timestamp) env.monotonicNowNs d
        (after cfg (.init files) (pre ++ [.request c d env])) post ↔
      ∀ ev ∈ acceptedOf cfg c post, InPeriod env.monotonicNowNs d ev →
        ev.tsNs < dumpEnd ((after cfg (.init files) pre).requestStart c env) d := by
  have hwriting := writing_request (synced_run cfg (synced_init files) pre) d hopens
  rw [after_concat]
  constructor
  · -- an event of the run is the event of one of its calls
    intro hcovers ev hev hperiod
    obtain ⟨op, hop, hacc⟩ := List.mem_filterMap.1 hev
    obtain ⟨before, rest, rfl⟩ := List.append_of_mem hop
    exact (hwriting.written_iff (fun op' hop' => hreq op' (List.mem_append_left _ hop')) horder
      hacc).1 (hcovers before op rest ev rfl hacc hperiod)
  · intro hbefore before op rest ev hpost hacc hperiod
    subst hpost
    refine (hwriting.written_iff (fun op' hop' => hreq op' (List.mem_append_left _ hop')) horder
      hacc).2 (hbefore ev ?_ hperiod)
    exact List.mem_filterMap.2 ⟨op, List.mem_append_right _ List.mem_cons_self, hacc⟩

/-! ## A silent container -/

/-- A request for ten seconds, at the time of a hundred seconds. -/
def requestEnvAt100 : DumpEnv where
  timestamp := ascii "20250101-000000"
  canOpen := true
  monotonicNowNs := 100000000000

/-- One event at one second, a dump of ten seconds requested at a hundred seconds, and an event one
second later: the dump has ended at eleven seconds. -/
theorem silent_container_not_covered :
    requestOpens defaultSetup (after defaultSetup (.init Table.empty) [eventAt 1000000000])
        (ascii "a") requestEnvAt100 = true ∧
      TimestampsInOrder defaultSetup ([eventAt 1000000000] ++ [eventAt 101000000000]) ∧
      ¬ CoversPeriod defaultSetup (ascii "a")
        (dumpFilePath defaultSetup (ascii "a") requestEnvAt100.timestamp)
        requestEnvAt100.monotonicNowNs 10
        (after defaultSetup (.init Table.empty)
          ([eventAt 1000000000] ++ [.request (ascii "a") 10 requestEnvAt100]))
        [eventAt 101000000000] := by
  have hopens : requestOpens defaultSetup
      (after defaultSetup (.init Table.empty) [eventAt 1000000000]) (ascii "a") requestEnvAt100 =
        true := by decide
  refine ⟨hopens, by decide, fun hcovers => ?_⟩
  rw [after_concat] at hcovers
  have hwritten := hcovers [] (eventAt 101000000000) [] (mapEvent (kernelEventAt 101000000000)) rfl
    rfl ⟨by decide, by decide⟩
  have hwriting := writing_request (synced_run defaultSetup (synced_init Table.empty) _) 10 hopens
  have horder : TimestampsInOrder defaultSetup ([] ++ eventAt 101000000000 :: []) := by decide
  have hts := (hwriting.written_iff (List.forall_mem_nil _) horder rfl).1 hwritten
  revert hts
  decide

/-- A container without events: the period begins with the request. -/
theorem fresh_container_covered :
    CoversPeriod defaultSetup (ascii "a")
      (dumpFilePath defaultSetup (ascii "a") requestEnvAt100.timestamp)
      requestEnvAt100.monotonicNowNs 10
      (after defaultSetup (.init Table.empty) ([] ++ [.request (ascii "a") 10 requestEnvAt100]))
      [eventAt 101000000000] := by
  refine (dump_covers_period_iff defaultSetup Table.empty [] [eventAt 101000000000] (ascii "a") 10
    requestEnvAt100 (by decide) (by decide) (by decide)).2 fun ev hev _ => ?_
  have hevents : acceptedOf defaultSetup (ascii "a") [eventAt 101000000000] =
      [mapEvent (kernelEventAt 101000000000)] := rfl
  rw [hevents, List.mem_singleton] at hev
  rw [hev]
  decide

/-! ## Expired dumps -/

/-- No buffer has an active dump that ends at the given time or before. -/
def NoneExpired (nowNs : UInt64) (a : AgentState) : Prop :=
  ∀ c b, a.buffers.find? c = some b → ¬ (b.isLongDumpActive = true ∧ b.longDumpEndTsNs ≤ nowNs)

/-- The sweep leaves no active dump that has expired. -/
theorem not_expired_expire (nowNs : UInt64) (b : ContainerBuffer) :
    ¬ ((expire nowNs b).isLongDumpActive = true ∧ (expire nowNs b).longDumpEndTsNs ≤ nowNs) := by
  rintro ⟨hactive, hend⟩
  rw [expire] at hactive hend
  split_ifs at hactive hend with hexpired
  · cases hactive
  · rw [isExpired, hactive, Bool.true_and, decide_eq_true_iff] at hexpired
    exact hexpired hend

theorem noneExpired_handleAccepted (cfg : Setup) (net : Net) (a : AgentState) (k : ByteString)
    (ev : SyscallEvent) : NoneExpired ev.tsNs (handleAccepted cfg net a k ev).1 := by
  intro c b hb
  rw [find?_handleAccepted] at hb
  obtain ⟨hmap, -⟩ := Option.filter_eq_some_iff.1 hb
  obtain ⟨swept, -, rfl⟩ := Option.map_eq_some_iff.1 hmap
  exact not_expired_expire ev.tsNs swept

/-- After an event no dump that has expired at its timestamp is active, exactly when the event passes
the filter or there was none before. -/
theorem expired_dumps_closed_iff (cfg : Setup) (files : FileSystem) (ops : List Op)
    (evt : KernelSyscallEvent) (containerName : ByteString) (net : Net) :
    NoneExpired evt.tsNs
        (handleEvent cfg net (after cfg (.init files) ops) evt containerName).1 ↔
      passesFilter cfg (mapContainerId containerName (mapEvent evt).cgroupId) = true ∨
        NoneExpired evt.tsNs (after cfg (.init files) ops) := by
  rw [handleEvent]
  cases hpass : passesFilter cfg (mapContainerId containerName (mapEvent evt).cgroupId) with
  | true =>
      rw [if_pos rfl]
      exact iff_of_true (noneExpired_handleAccepted cfg net _ _ (mapEvent evt)) (.inl rfl)
  | false =>
      -- the early return: the sweep does not run
      rw [if_neg Bool.false_ne_true]
      exact ⟨.inr, fun h => h.resolve_left Bool.false_ne_true⟩

/-- An agent that only watches containers with `web` in their names. -/
def webSetup : Setup where
  containerFilterRegex := ascii "web"
  regexSearch := fun pattern text => some (decide (pattern <:+: text))

/-- A dump of `web` from 100 to 110 seconds, and an event of `db` at 111 seconds: the dump goes on. -/
theorem filtered_event_keeps_dump :
    ¬ NoneExpired 111000000000 (handleEvent webSetup (fun _ _ _ => true)
      (after webSetup (.init Table.empty) [.request (ascii "web") 10 requestEnvAt100])
      (kernelEventAt 111000000000) (ascii "db")).1 := by
  intro h
  have hweb := h (ascii "web") _ rfl
  revert hweb
  decide

end DeepKernel.Agent
