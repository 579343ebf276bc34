import DeepKernel.Agent.Core

/-!
# The dump of one container, call by call

What each call into the agent does to the dump of one container: its part of the container's buffer
(`Dump`), the completion requests sent for the container (`completionsOf`) and the files.

A dump is closed on two paths, by a late event of its own container or by the sweep after any
event. `handleAccepted_dump` and `completionsOf_handleAccepted` describe both paths at once: the
first accepted event of any container at or after the end closes the dump and sends one completion.
This rests on the invariant `Synced`: a dump is active exactly while its stream is open.
-/

set_option autoImplicit false

namespace DeepKernel.Agent

open DeepKernel.Lib

/-! ## Dump part of a buffer -/

/-- The fields of a buffer that the dump methods use. -/
structure Dump where
  active : Bool := false
  startTsNs : UInt64 := 0
  endTsNs : UInt64 := 0
  lastTsNs : UInt64 := 0
  stream : OfStream := {}
  filePath : ByteString := []
  recordCount : Nat := 0
  durationSec : Int32 := 0

/-- The dump part of a buffer. -/
def ContainerBuffer.dump (b : ContainerBuffer) : Dump where
  active := b.isLongDumpActive
  startTsNs := b.longDumpStartTsNs
  endTsNs := b.longDumpEndTsNs
  lastTsNs := b.lastDumpTsNs
  stream := b.longDumpStream
  filePath := b.longDumpFilePath
  recordCount := b.longDumpRecordCount
  durationSec := b.longDumpDurationSec

/-- The dump of a container. -/
def AgentState.dump (a : AgentState) (c : ByteString) : Dump := (a.buffer c).dump

/-- An event ends a dump. -/
def Dump.closesAt (d : Dump) (ev : SyscallEvent) : Bool := d.active && d.endTsNs ≤ ev.tsNs

/-- The reference timestamp of the next record. -/
def Dump.prevTsNs (d : Dump) : UInt64 := if d.lastTsNs = 0 then d.startTsNs else d.lastTsNs

/-- A closed dump. -/
def Dump.finish (d : Dump) : Dump :=
  { d with active := false, stream := d.stream.close, filePath := [], recordCount := 0,
           durationSec := 0 }

/-- Append the record of an event: the files and the dump after it. -/
def Dump.record (d : Dump) (files : FileSystem) (ev : SyscallEvent) : FileSystem × Dump :=
  let written := d.stream.write files (makeTraceRecord ev d.prevTsNs).encode
  (written.1,
    { d with stream := written.2, lastTsNs := ev.tsNs, recordCount := d.recordCount + 1 })

/-- What a completion request says about a dump. -/
structure Completion where
  dumpPath : ByteString
  startTsNs : UInt64
  durationSec : Int32
  recordCount : Nat
  deriving DecidableEq

/-- The completion that ends a dump. -/
def Dump.completion (d : Dump) : Completion where
  dumpPath := d.filePath
  startTsNs := d.startTsNs
  durationSec := d.durationSec
  recordCount := d.recordCount

/-- The completion that a post carries for a container. -/
def sentCompletion (c : ByteString) (p : Post) : Option Completion :=
  match p.payload with
  | .window _ _ _ _ => none
  | .dumpComplete _ c' path start duration count =>
      if c' = c then some ⟨path, start, duration, count⟩ else none

/-- The completions sent for a container. -/
def completionsOf (c : ByteString) (ps : List Post) : List Completion :=
  ps.filterMap (sentCompletion c)

theorem completionsOf_append (c : ByteString) (ps qs : List Post) :
    completionsOf c (ps ++ qs) = completionsOf c ps ++ completionsOf c qs :=
  List.filterMap_append

theorem completionsOf_dumpCompletePost (cfg : Setup) (net : Net) (b : ContainerBuffer)
    (c : ByteString) :
    completionsOf c [dumpCompletePost cfg net b] =
      if b.containerId = c then [b.dump.completion] else [] := by
  by_cases h : b.containerId = c
  · simp [completionsOf, sentCompletion, dumpCompletePost, postJsonWithRetry, Dump.completion,
      ContainerBuffer.dump, h]
  · simp [completionsOf, sentCompletion, dumpCompletePost, postJsonWithRetry, h]

/-! ## Methods on one buffer -/

section Buffer

variable (cfg : Setup) (net : Net) (files : FileSystem) (b : ContainerBuffer) (ev : SyscallEvent)

theorem dump_pushEvent (k : ByteString) : (pushEvent b k ev).dump = b.dump := rfl

theorem processShortWindow_dump :
    (processShortWindow cfg net b).1.dump = b.dump ∧
      (processShortWindow cfg net b).1.containerId = b.containerId ∧
      ∀ c, completionsOf c (processShortWindow cfg net b).2 = [] := by
  unfold processShortWindow
  split
  · exact ⟨rfl, rfl, fun c => rfl⟩
  · exact ⟨rfl, rfl, fun c => rfl⟩

theorem isExpired_eq_closesAt : isExpired ev.tsNs b = b.dump.closesAt ev := rfl

theorem expire_dump :
    (expire ev.tsNs b).dump = (if b.dump.closesAt ev then b.dump.finish else b.dump) ∧
      (expire ev.tsNs b).containerId = b.containerId := by
  rw [expire, isExpired_eq_closesAt]
  cases b.dump.closesAt ev with
  | true => exact ⟨rfl, rfl⟩
  | false => exact ⟨rfl, rfl⟩

/-- `appendLongDump` on a dump whose stream is open exactly while it is active. -/
theorem appendLongDump_dump (hsync : b.dump.active = b.dump.stream.isOpen) :
    (appendLongDump cfg net files b ev).1 =
        (if b.dump.active && !b.dump.closesAt ev then (b.dump.record files ev).1 else files) ∧
      (appendLongDump cfg net files b ev).2.1.dump =
        (if b.dump.closesAt ev then b.dump.finish
          else if b.dump.active then (b.dump.record files ev).2 else b.dump) ∧
      (appendLongDump cfg net files b ev).2.1.containerId = b.containerId ∧
      (appendLongDump cfg net files b ev).2.2 =
        if b.dump.closesAt ev then [dumpCompletePost cfg net b] else [] := by
  -- the test of the code asks for both the flag and the stream
  have hopen : (b.isLongDumpActive && b.longDumpStream.isOpen) = b.dump.active := by
    change (b.dump.active && b.dump.stream.isOpen) = b.dump.active
    rw [← hsync, Bool.and_self]
  unfold appendLongDump
  rw [hopen]
  cases hactive : b.dump.active with
  | false => simp [Dump.closesAt, hactive]
  | true =>
      have hclose : b.dump.closesAt ev = decide (b.longDumpEndTsNs ≤ ev.tsNs) := by
        rw [Dump.closesAt, hactive, Bool.true_and]
        rfl
      rw [hclose]
      by_cases hend : b.longDumpEndTsNs ≤ ev.tsNs
      · rw [if_pos rfl, if_pos hend, decide_eq_true hend]
        exact ⟨rfl, rfl, rfl, rfl⟩
      · rw [if_pos rfl, if_neg hend, decide_eq_false hend]
        exact ⟨rfl, rfl, rfl, rfl⟩

/-- The window part of `handleOwn` leaves the dump alone. -/
theorem closeWindow_dump :
    (if windowComplete cfg b ev then processShortWindow cfg net b else (b, [])).1.dump = b.dump ∧
      (if windowComplete cfg b ev then processShortWindow cfg net b
        else (b, [])).1.containerId = b.containerId ∧
      ∀ c, completionsOf c
        (if windowComplete cfg b ev then processShortWindow cfg net b else (b, [])).2 = [] := by
  cases windowComplete cfg b ev with
  | false =>
      simp only [Bool.false_eq_true, if_false]
      exact ⟨trivial, trivial, fun c => rfl⟩
  | true =>
      simp only [if_true]
      exact processShortWindow_dump cfg net b

/-- `handleOwn` with its two parts in the order of the source. -/
theorem handleOwn_eq (k : ByteString) :
    handleOwn cfg net files b k ev =
      ((appendLongDump cfg net files (pushEvent b k ev) ev).1,
        (if windowComplete cfg (appendLongDump cfg net files (pushEvent b k ev) ev).2.1 ev then
            processShortWindow cfg net (appendLongDump cfg net files (pushEvent b k ev) ev).2.1
          else ((appendLongDump cfg net files (pushEvent b k ev) ev).2.1, [])).1,
        (appendLongDump cfg net files (pushEvent b k ev) ev).2.2 ++
          (if windowComplete cfg (appendLongDump cfg net files (pushEvent b k ev) ev).2.1 ev then
            processShortWindow cfg net (appendLongDump cfg net files (pushEvent b k ev) ev).2.1
          else ((appendLongDump cfg net files (pushEvent b k ev) ev).2.1, [])).2) := rfl

/-- What the event's own container does to its dump before the sweeps. -/
structure OwnDump (d : Dump) (k : ByteString) (r : FileSystem × ContainerBuffer × List Post) :
    Prop where
  files_eq : r.1 = if d.active && !d.closesAt ev then (d.record files ev).1 else files
  dump_eq : r.2.1.dump =
    if d.closesAt ev then d.finish else if d.active then (d.record files ev).2 else d
  containerId_eq : r.2.1.containerId = k
  completions : ∀ c, completionsOf c r.2.2 =
    if d.closesAt ev then (if k = c then [d.completion] else []) else []

theorem appendLongDump_ownDump (hsync : b.dump.active = b.dump.stream.isOpen) (k : ByteString) :
    OwnDump files ev b.dump k (appendLongDump cfg net files (pushEvent b k ev) ev) := by
  have hpush : (pushEvent b k ev).dump.active = (pushEvent b k ev).dump.stream.isOpen := by
    rw [dump_pushEvent, hsync]
  obtain ⟨hfiles, hdump, hid, hposts⟩ :=
    appendLongDump_dump cfg net files (pushEvent b k ev) ev hpush
  rw [dump_pushEvent] at hfiles hdump hposts
  refine ⟨hfiles, hdump, hid, fun c => ?_⟩
  have hk : (pushEvent b k ev).containerId = k := rfl
  rw [hposts]
  cases b.dump.closesAt ev with
  | false => rfl
  | true => rw [if_pos rfl, if_pos rfl, completionsOf_dumpCompletePost, dump_pushEvent, hk]

theorem OwnDump.of_cut {d : Dump} {k : ByteString} {r : FileSystem × ContainerBuffer × List Post}
    (h : OwnDump files ev d k r) {cut : ContainerBuffer × List Post}
    (hdump : cut.1.dump = r.2.1.dump) (hid : cut.1.containerId = r.2.1.containerId)
    (hnone : ∀ c, completionsOf c cut.2 = []) :
    OwnDump files ev d k (r.1, cut.1, r.2.2 ++ cut.2) := by
  refine ⟨h.files_eq, hdump.trans h.dump_eq, hid.trans h.containerId_eq, fun c => ?_⟩
  rw [completionsOf_append, hnone, List.append_nil]
  exact h.completions c

theorem handleOwn_ownDump (hsync : b.dump.active = b.dump.stream.isOpen) (k : ByteString) :
    OwnDump files ev b.dump k (handleOwn cfg net files b k ev) := by
  obtain ⟨hdump, hid, hnone⟩ :=
    closeWindow_dump cfg net (appendLongDump cfg net files (pushEvent b k ev) ev).2.1 ev
  rw [handleOwn_eq]
  exact (appendLongDump_ownDump cfg net files b ev hsync k).of_cut files ev hdump hid hnone

end Buffer

/-! ## Accepted events -/

/-- The invariant of the buffers: each carries its own key, and a dump is active exactly while its
stream is open. -/
structure Synced (a : AgentState) : Prop where
  ids : ∀ k b, a.buffers.find? k = some b → b.containerId = k
  sync : ∀ k, (a.dump k).active = (a.dump k).stream.isOpen

theorem synced_init (files : FileSystem) : Synced (.init files) where
  ids := fun _ _ h => absurd h (by simp [AgentState.init])
  sync := fun _ => rfl

/-- The dump of a container after an accepted event; `own` says whether the event is the
container's. -/
def Dump.next (d : Dump) (files : FileSystem) (own : Bool) (ev : SyscallEvent) : Dump :=
  if d.closesAt ev then d.finish else if own && d.active then (d.record files ev).2 else d

/-- Two dumps are equal, or the first is that of an erased buffer and the second is inactive. -/
def Dump.SameOrErased (d e : Dump) : Prop := d = e ∨ d = {} ∧ e.active = false

theorem closesAt_finish (d : Dump) (ev : SyscallEvent) : d.finish.closesAt ev = false := rfl

theorem record_facts (d : Dump) (files : FileSystem) (ev : SyscallEvent) :
    (d.record files ev).2.active = d.active ∧
      (d.record files ev).2.closesAt ev = d.closesAt ev ∧
      (d.record files ev).2.stream.file = d.stream.file :=
  ⟨rfl, rfl, OfStream.file_write _ _ _⟩

theorem record_files_of_ne {d : Dump} {q : ByteString} (hfile : d.stream.file ≠ some q)
    (files : FileSystem) (ev : SyscallEvent) :
    (d.record files ev).1.find? q = files.find? q :=
  OfStream.write_files_of_ne _ _ _ hfile

theorem next_sync {d : Dump} (h : d.active = d.stream.isOpen) (files : FileSystem) (own : Bool)
    (ev : SyscallEvent) :
    (d.next files own ev).active = (d.next files own ev).stream.isOpen := by
  unfold Dump.next
  split
  · rfl
  · split
    · obtain ⟨hactive, -, hfile⟩ := record_facts d files ev
      rw [hactive, OfStream.isOpen, hfile, h, OfStream.isOpen]
    · exact h

theorem closesAt_next (d : Dump) (files : FileSystem) (own : Bool) (ev : SyscallEvent) :
    (d.next files own ev).closesAt ev = false := by
  unfold Dump.next
  cases hclose : d.closesAt ev with
  | true => rw [if_pos rfl, closesAt_finish]
  | false =>
      rw [if_neg Bool.false_ne_true]
      split
      · rw [(record_facts d files ev).2.1, hclose]
      · exact hclose

/-- The sweeps after an event close an expired dump and erase inactive buffers only. -/
theorem swept_dump (a : AgentState) (ev : SyscallEvent) (o : Option ContainerBuffer) :
    (((o.map (expire ev.tsNs)).filter (survives a ev.tsNs)).getD {}).dump.SameOrErased
      (if (o.getD {}).dump.closesAt ev then (o.getD {}).dump.finish else (o.getD {}).dump) := by
  cases o with
  | none => exact Or.inl rfl
  | some b =>
      rw [Option.map_some, Option.filter_some, Option.getD_some, ← (expire_dump b ev).1]
      generalize expire ev.tsNs b = b'
      cases hs : survives a ev.tsNs b' with
      | true => exact Or.inl rfl
      | false =>
          -- only a buffer without an active dump is erased
          simp only [survives, isInactive, Bool.or_eq_false_iff, Bool.not_eq_false',
            Bool.and_eq_true, Bool.not_eq_true'] at hs
          exact Or.inr ⟨rfl, hs.2.1.2⟩

section Accepted

variable (cfg : Setup) (net : Net) {a : AgentState} (ha : Synced a) (k : ByteString)
  (ev : SyscallEvent)

include ha

theorem handleAccepted_dump (c : ByteString) :
    ((handleAccepted cfg net a k ev).1.dump c).SameOrErased
      ((a.dump c).next a.files (decide (k = c)) ev) := by
  have hown := handleOwn_ownDump cfg net a.files (a.buffer k) ev (ha.sync k) k
  rw [AgentState.dump, buffer_handleAccepted]
  generalize handleOwn cfg net a.files (a.buffer k) k ev = own at hown
  have hswept := swept_dump a ev (if c = k then some own.2.1 else a.buffers.find? c)
  by_cases hc : c = k
  -- the own container has closed its dump already, so the sweep leaves it as it is
  · subst hc
    have hnext : own.2.1.dump = (a.dump c).next a.files (decide (c = c)) ev := by
      rw [hown.dump_eq, Dump.next, decide_eq_true rfl, Bool.true_and, AgentState.dump]
    rw [if_pos rfl, Option.getD_some, hnext, closesAt_next, if_neg Bool.false_ne_true] at hswept
    rw [if_pos rfl]
    exact hswept
  · rw [if_neg hc] at hswept ⊢
    rw [Dump.next, decide_eq_false (Ne.symm hc), Bool.false_and]
    exact hswept

theorem handleAccepted_files :
    (handleAccepted cfg net a k ev).1.files =
      if (a.dump k).active && !(a.dump k).closesAt ev then ((a.dump k).record a.files ev).1
      else a.files := by
  rw [files_handleAccepted]
  exact (handleOwn_ownDump cfg net a.files (a.buffer k) ev (ha.sync k) k).files_eq

/-- The sweep sends the completion of a container whose dump has expired and is not closed yet. -/
theorem completionsOf_sweep {own : ContainerBuffer} (hid : own.containerId = k) (c : ByteString) :
    completionsOf c ((a.buffers.set k own).entries.flatMap
        fun e => if isExpired ev.tsNs e.2 then [dumpCompletePost cfg net e.2] else []) =
      if (if c = k then own.dump else a.dump c).closesAt ev then
        [(if c = k then own.dump else a.dump c).completion] else [] := by
  have hids : ∀ k' b, (a.buffers.set k own).find? k' = some b → b.containerId = k' := by
    intro k' b hb
    rw [Table.find?_set] at hb
    split at hb
    · rename_i hk
      rw [hk, ← Option.some.inj hb, hid]
    · exact ha.ids k' b hb
  -- what the buffer of a container sends, seen from the container `c`
  have hsent : ∀ k' b, b.containerId = k' →
      (if isExpired ev.tsNs b then [dumpCompletePost cfg net b] else []).filterMap
        (sentCompletion c) =
      if b.dump.closesAt ev then (if k' = c then [b.dump.completion] else []) else [] := by
    intro k' b hb
    rw [isExpired_eq_closesAt]
    cases b.dump.closesAt ev with
    | false => rfl
    | true =>
        rw [if_pos rfl, if_pos rfl, ← hb]
        exact completionsOf_dumpCompletePost cfg net b c
  rw [completionsOf, Table.filterMap_flatMap_entries (a.buffers.set k own)
    (fun _ b => if isExpired ev.tsNs b then [dumpCompletePost cfg net b] else [])
    (sentCompletion c) c ?others]
  case others =>
    intro k' b hb hne
    rw [hsent k' b (hids k' b hb), if_neg hne, ite_self]
  -- only the entry of `c` is left
  have hbuffer : ((a.buffers.set k own).find? c).getD {} =
      if c = k then own else a.buffer c := by
    rw [Table.find?_set]
    split <;> rfl
  have hdump : (if c = k then own.dump else a.dump c) =
      (((a.buffers.set k own).find? c).getD {}).dump := by
    rw [hbuffer]
    split <;> rfl
  rw [hdump]
  cases hfind : (a.buffers.set k own).find? c with
  | none => rfl
  | some b =>
      rw [Option.map_some, Option.getD_some, Option.getD_some, hsent c b (hids c b hfind),
        if_pos rfl]

theorem completionsOf_handleAccepted (c : ByteString) :
    completionsOf c (handleAccepted cfg net a k ev).2 =
      if (a.dump c).closesAt ev then [(a.dump c).completion] else [] := by
  have hown := handleOwn_ownDump cfg net a.files (a.buffer k) ev (ha.sync k) k
  rw [posts_handleAccepted, completionsOf_append]
  generalize handleOwn cfg net a.files (a.buffer k) k ev = own at hown
  rw [hown.completions, completionsOf_sweep cfg net ha k ev hown.containerId_eq]
  by_cases hc : c = k
  -- a completion of the own container was sent by `appendLongDump`; the sweep sends none after it
  · subst hc
    have hnext : own.2.1.dump = (a.dump c).next a.files true ev := by
      rw [hown.dump_eq, Dump.next, Bool.true_and, AgentState.dump]
    rw [if_pos rfl, if_pos rfl, hnext, closesAt_next, if_neg Bool.false_ne_true, List.append_nil]
    rfl
  · rw [if_neg hc, if_neg (Ne.symm hc), ite_self, List.nil_append]

theorem handleAccepted_synced : Synced (handleAccepted cfg net a k ev).1 where
  ids := by
    intro c b hb
    have hown := handleOwn_ownDump cfg net a.files (a.buffer k) ev (ha.sync k) k
    rw [find?_handleAccepted] at hb
    generalize handleOwn cfg net a.files (a.buffer k) k ev = own at hown hb
    -- a buffer that the sweep left over was there before it
    obtain ⟨hmap, -⟩ := Option.filter_eq_some_iff.1 hb
    obtain ⟨b', hb', rfl⟩ := Option.map_eq_some_iff.1 hmap
    rw [(expire_dump b' ev).2]
    split at hb'
    · rename_i hc
      rw [← Option.some.inj hb', hown.containerId_eq, hc]
    · exact ha.ids c b' hb'
  sync := by
    intro c
    rcases handleAccepted_dump cfg net ha k ev c with h | ⟨h, -⟩
    · rw [h]
      exact next_sync (ha.sync c) _ _ _
    · rw [h]
      rfl

end Accepted

/-! ## Dump requests -/

/-- The dump that a request sets up on a stream. -/
def Dump.started (d : Dump) (path : ByteString) (startTsNs : UInt64) (durationSec : Int32)
    (stream : OfStream) : Dump :=
  { d with
    active := true
    startTsNs := startTsNs
    endTsNs := dumpEnd startTsNs durationSec
    lastTsNs := 0
    stream := stream
    filePath := path
    recordCount := 0
    durationSec := durationSec }

/-- The start of the dump that a request sets up. -/
def AgentState.requestStart (a : AgentState) (c : ByteString) (env : DumpEnv) : UInt64 :=
  dumpStart (a.buffer c) env

/-- A request succeeds: its `open` does. -/
def requestOpens (cfg : Setup) (a : AgentState) (c : ByteString) (env : DumpEnv) : Bool :=
  !((a.dump c).stream.openFile a.files (dumpFilePath cfg c env.timestamp) env.canOpen).2.failbit

theorem requestOpens_iff {cfg : Setup} {a : AgentState} {c : ByteString} {env : DumpEnv} :
    requestOpens cfg a c env = true ↔ (a.dump c).stream.isOpen = false ∧ env.canOpen = true := by
  unfold requestOpens OfStream.openFile
  cases (a.dump c).stream.isOpen <;> cases env.canOpen <;> simp

theorem dump_mk_set (buffers : Table ByteString ContainerBuffer) (k : ByteString)
    (b : ContainerBuffer) (last : UInt64) (files : FileSystem) :
    (AgentState.mk (buffers.set k b) last files).dump k = b.dump := by
  rw [AgentState.dump, AgentState.buffer, Table.find?_set_self, Option.getD_some]

section Request

variable (cfg : Setup) (a : AgentState) (k : ByteString) (d : Int32) (env : DumpEnv)

theorem find?_requestLongDump_of_ne {c : ByteString} (hc : c ≠ k) :
    (requestLongDump cfg a k d env).buffers.find? c = a.buffers.find? c := by
  unfold requestLongDump
  dsimp only
  split
  · exact Table.find?_set_of_ne _ _ hc
  · exact Table.find?_set_of_ne _ _ hc

theorem dump_requestLongDump_of_ne {c : ByteString} (hc : c ≠ k) :
    (requestLongDump cfg a k d env).dump c = a.dump c := by
  rw [AgentState.dump, AgentState.buffer, find?_requestLongDump_of_ne cfg a k d env hc]
  rfl

theorem requestLongDump_ids :
    ∃ b, (requestLongDump cfg a k d env).buffers.find? k = some b ∧ b.containerId = k := by
  unfold requestLongDump
  dsimp only
  split
  · exact ⟨_, Table.find?_set_self _ _ _, rfl⟩
  · exact ⟨_, Table.find?_set_self _ _ _, rfl⟩

/-- The files and the dump after a request, from the outcome of its `open`. -/
theorem requestLongDump_of_openFile {opened : FileSystem × OfStream}
    (hopened : (a.dump k).stream.openFile a.files (dumpFilePath cfg k env.timestamp) env.canOpen =
      opened) :
    (requestLongDump cfg a k d env).files =
        (if opened.2.isOpen then
          (opened.2.write opened.1 (dumpHeader cfg k (a.requestStart k env)).encode).1
          else opened.1) ∧
      (requestLongDump cfg a k d env).dump k =
        if opened.2.isOpen then
          (a.dump k).started (dumpFilePath cfg k env.timestamp) (a.requestStart k env) d
            (opened.2.write opened.1 (dumpHeader cfg k (a.requestStart k env)).encode).2
        else { a.dump k with stream := opened.2 } := by
  subst hopened
  unfold requestLongDump
  dsimp only
  split
  · rename_i hopen
    rw [dump_mk_set, if_pos (by exact hopen), if_pos (by exact hopen)]
    exact ⟨rfl, rfl⟩
  · rename_i hopen
    rw [dump_mk_set, if_neg (by exact hopen), if_neg (by exact hopen)]
    exact ⟨rfl, rfl⟩

/-- A request on an open stream: the `open` fails, the header is discarded, and the fields of the
dump are set all the same. -/
theorem requestLongDump_of_isOpen (hopen : (a.dump k).stream.isOpen = true) :
    (requestLongDump cfg a k d env).files = a.files ∧
      (requestLongDump cfg a k d env).dump k =
        (a.dump k).started (dumpFilePath cfg k env.timestamp) (a.requestStart k env) d
          { (a.dump k).stream with failbit := true } := by
  obtain ⟨hfiles, hdump⟩ := requestLongDump_of_openFile cfg a k d env
    (OfStream.openFile_of_isOpen hopen _ _ _)
  rw [OfStream.write_of_failbit rfl, ite_self] at hfiles
  rw [OfStream.write_of_failbit rfl, if_pos (by exact hopen)] at hdump
  exact ⟨hfiles, hdump⟩

/-- A successful request truncates the file and writes the header. -/
theorem requestLongDump_of_opens (hopens : requestOpens cfg a k env = true) :
    (requestLongDump cfg a k d env).files.find? (dumpFilePath cfg k env.timestamp) =
        some (dumpHeader cfg k (a.requestStart k env)).encode ∧
      (∀ q, q ≠ dumpFilePath cfg k env.timestamp →
        (requestLongDump cfg a k d env).files.find? q = a.files.find? q) ∧
      (requestLongDump cfg a k d env).dump k =
        (a.dump k).started (dumpFilePath cfg k env.timestamp) (a.requestStart k env) d
          { file := some (dumpFilePath cfg k env.timestamp), pos := 80, failbit := false } := by
  obtain ⟨hclosed, hcan⟩ := requestOpens_iff.1 hopens
  have hopen := OfStream.openFile_of_closed hclosed a.files (dumpFilePath cfg k env.timestamp)
  rw [← hcan] at hopen
  obtain ⟨hfiles, hdump⟩ := requestLongDump_of_openFile cfg a k d env hopen
  -- the header goes into the file that the open has emptied
  have hwrite : OfStream.write { file := some (dumpFilePath cfg k env.timestamp) }
      (a.files.set (dumpFilePath cfg k env.timestamp) [])
      (dumpHeader cfg k (a.requestStart k env)).encode = _ :=
    OfStream.write_of_good rfl rfl rfl (Table.find?_set_self _ _ _) _
  rw [List.nil_append, TraceHeader.length_encode] at hwrite
  rw [hwrite, if_pos (by rfl)] at hfiles hdump
  refine ⟨?_, fun q hq => ?_, hdump⟩
  · rw [hfiles, Table.find?_set_self]
  · rw [hfiles, Table.find?_set_of_ne _ _ hq, Table.find?_set_of_ne _ _ hq]

/-- A request whose `open` fails on a closed stream only sets the failbit. -/
theorem requestLongDump_of_not_opens (hclosed : (a.dump k).stream.isOpen = false)
    (hcan : env.canOpen = false) :
    (requestLongDump cfg a k d env).files = a.files ∧
      (requestLongDump cfg a k d env).dump k =
        { a.dump k with stream := { (a.dump k).stream with failbit := true } } := by
  have hopen : (a.dump k).stream.openFile a.files (dumpFilePath cfg k env.timestamp) env.canOpen =
      (a.files, { (a.dump k).stream with failbit := true }) := by
    simp [OfStream.openFile, hclosed, hcan]
  have hstill : ({ (a.dump k).stream with failbit := true } : OfStream).isOpen ≠ true := by
    change (a.dump k).stream.isOpen ≠ true
    rw [hclosed]
    exact Bool.false_ne_true
  obtain ⟨hfiles, hdump⟩ := requestLongDump_of_openFile cfg a k d env hopen
  rw [if_neg hstill] at hfiles hdump
  exact ⟨hfiles, hdump⟩

/-- The three outcomes of a request. -/
theorem request_cases :
    (a.dump k).stream.isOpen = true ∨ requestOpens cfg a k env = true ∨
      (a.dump k).stream.isOpen = false ∧ env.canOpen = false := by
  rw [requestOpens_iff]
  cases (a.dump k).stream.isOpen <;> cases env.canOpen <;> simp

end Request

/-! ## Any call -/

/-- The call is a dump request for the container. -/
def requests (c : ByteString) : Op → Bool
  | .request k _ _ => decide (k = c)
  | .event _ _ _ => false

/-- The call is an accepted event, of any container, at or after a point in time. -/
def closes (cfg : Setup) (endTsNs : UInt64) (op : Op) : Bool :=
  match accepted cfg op with
  | some (_, ev) => decide (endTsNs ≤ ev.tsNs)
  | none => false

/-- The call is a request that opens the file at a path. -/
def opens (cfg : Setup) (a : AgentState) (path : ByteString) : Op → Bool
  | .request k _ env => requestOpens cfg a k env && decide (dumpFilePath cfg k env.timestamp = path)
  | .event _ _ _ => false

section Step

variable (cfg : Setup) {a : AgentState} (ha : Synced a) (op : Op) (c : ByteString)

theorem requestLongDump_sync (k : ByteString) (d : Int32) (env : DumpEnv)
    (hsync : (a.dump k).active = (a.dump k).stream.isOpen) :
    ((requestLongDump cfg a k d env).dump k).active =
      ((requestLongDump cfg a k d env).dump k).stream.isOpen := by
  rcases request_cases cfg a k env with hopen | hopens | ⟨hclosed, hcan⟩
  · rw [(requestLongDump_of_isOpen cfg a k d env hopen).2]
    exact hopen.symm
  · rw [(requestLongDump_of_opens cfg a k d env hopens).2.2]
    rfl
  · rw [(requestLongDump_of_not_opens cfg a k d env hclosed hcan).2]
    exact hsync

include ha

theorem step_synced : Synced (step cfg a op).1 := by
  rcases step_cases cfg op with ⟨k, d, env, rfl⟩ | ⟨-, hstep⟩ | ⟨net, k, ev, -, hstep⟩
  · refine ⟨fun k' b hb => ?_, fun k' => ?_⟩
    · by_cases hk : k' = k
      · subst hk
        obtain ⟨b', hb', hid⟩ := requestLongDump_ids cfg a k' d env
        rw [step, hb'] at hb
        rw [← Option.some.inj hb, hid]
      · rw [step, find?_requestLongDump_of_ne cfg a k d env hk] at hb
        exact ha.ids k' b hb
    · by_cases hk : k' = k
      · subst hk
        exact requestLongDump_sync cfg k' d env (ha.sync k')
      · rw [step, dump_requestLongDump_of_ne cfg a k d env hk]
        exact ha.sync k'
  · rw [hstep]
    exact ha
  · rw [hstep]
    exact handleAccepted_synced cfg net ha k ev

theorem completionsOf_step :
    completionsOf c (step cfg a op).2 =
      if (a.dump c).active && closes cfg (a.dump c).endTsNs op then [(a.dump c).completion]
      else [] := by
  rcases step_cases cfg op with ⟨k, d, env, rfl⟩ | ⟨hacc, hstep⟩ | ⟨net, k, ev, hacc, hstep⟩
  · simp only [step, closes, accepted, Bool.and_false, Bool.false_eq_true, if_false]
    rfl
  · simp only [hstep, closes, hacc, Bool.and_false, Bool.false_eq_true, if_false]
    rfl
  · simp only [hstep, closes, hacc]
    exact completionsOf_handleAccepted cfg net ha k ev c

/-- The dump of a container after a call that is no request for it. -/
theorem step_dump (hop : requests c op = false) :
    ((step cfg a op).1.dump c).SameOrErased
      (if (a.dump c).active && closes cfg (a.dump c).endTsNs op then (a.dump c).finish
        else match acceptedFor cfg c op with
          | some ev => if (a.dump c).active then ((a.dump c).record a.files ev).2 else a.dump c
          | none => a.dump c) := by
  rcases step_cases cfg op with ⟨k, d, env, rfl⟩ | ⟨hacc, hstep⟩ | ⟨net, k, ev, hacc, hstep⟩
  · -- a request of another container
    have hne : c ≠ k := fun h => by simp [requests, h] at hop
    left
    simp only [step, closes, accepted, acceptedFor, Option.bind_none, Bool.and_false,
      Bool.false_eq_true, if_false]
    exact dump_requestLongDump_of_ne cfg a k d env hne
  · left
    simp only [hstep, closes, acceptedFor, hacc, Option.bind_none, Bool.and_false,
      Bool.false_eq_true, if_false]
  · have hnext := handleAccepted_dump cfg net ha k ev c
    rw [hstep]
    simp only [closes, acceptedFor, hacc, Option.bind_some]
    by_cases hk : k = c
    · simpa only [Dump.next, Dump.closesAt, hk, decide_true, Bool.true_and, if_true] using hnext
    · simpa only [Dump.next, Dump.closesAt, hk, decide_false, Bool.false_and, Bool.false_eq_true,
        if_false] using hnext

/-- A stream gets onto a file only through a request that opens it. -/
theorem step_stream_file {q : ByteString} (hopens : opens cfg a q op = false)
    (hfile : (a.dump c).stream.file ≠ some q) :
    ((step cfg a op).1.dump c).stream.file ≠ some q := by
  rcases step_cases cfg op with ⟨k, d, env, rfl⟩ | ⟨-, hstep⟩ | ⟨net, k, ev, -, hstep⟩
  · by_cases hc : c = k
    · subst hc
      change ((requestLongDump cfg a c d env).dump c).stream.file ≠ some q
      rcases request_cases cfg a c env with hopen | hsucc | ⟨hclosed, hcan⟩
      · rw [(requestLongDump_of_isOpen cfg a c d env hopen).2]
        exact hfile
      · rw [(requestLongDump_of_opens cfg a c d env hsucc).2.2]
        intro hq
        simp [opens, hsucc, Option.some.inj hq] at hopens
      · rw [(requestLongDump_of_not_opens cfg a c d env hclosed hcan).2]
        exact hfile
    · rw [step, dump_requestLongDump_of_ne cfg a k d env hc]
      exact hfile
  · rw [hstep]
    exact hfile
  · rw [hstep]
    rcases handleAccepted_dump cfg net ha k ev c with h | ⟨h, -⟩
    · rw [h, Dump.next]
      split
      -- a finished dump has closed its stream
      · exact Option.some_ne_none q ∘ Eq.symm
      · split
        · rw [(record_facts (a.dump c) a.files ev).2.2]
          exact hfile
        · exact hfile
    -- an erased buffer comes back with a stream that was never opened
    · rw [h]
      exact Option.some_ne_none q ∘ Eq.symm

/-- If no other container has a file open and the call does not open it, the call changes the file
as the container's own record does. -/
theorem step_files {q : ByteString} (hopens : opens cfg a q op = false)
    (hothers : ∀ k, k ≠ c → (a.dump k).stream.file ≠ some q) :
    (step cfg a op).1.files.find? q =
      match acceptedFor cfg c op with
      | some ev =>
          if (a.dump c).active && !closes cfg (a.dump c).endTsNs op then
            ((a.dump c).record a.files ev).1.find? q
          else a.files.find? q
      | none => a.files.find? q := by
  rcases step_cases cfg op with ⟨k, d, env, rfl⟩ | ⟨hacc, hstep⟩ | ⟨net, k, ev, hacc, hstep⟩
  · -- a request: a file changes only if it is opened
    change (requestLongDump cfg a k d env).files.find? q = a.files.find? q
    rcases request_cases cfg a k env with hopen | hsucc | ⟨hclosed, hcan⟩
    · rw [(requestLongDump_of_isOpen cfg a k d env hopen).1]
    · refine (requestLongDump_of_opens cfg a k d env hsucc).2.1 q fun hq => ?_
      simp [opens, hsucc, hq] at hopens
    · rw [(requestLongDump_of_not_opens cfg a k d env hclosed hcan).1]
  · -- an event that the filter drops
    simp only [hstep, acceptedFor, hacc, Option.bind_none]
  · -- an accepted event: its container writes to its own file
    have hfiles := handleAccepted_files cfg net ha k ev
    rw [hstep, hfiles]
    simp only [acceptedFor, closes, hacc, Option.bind_some]
    by_cases hk : k = c
    · subst hk
      have htest : ((a.dump k).active && !(a.dump k).closesAt ev) =
          ((a.dump k).active && !decide ((a.dump k).endTsNs ≤ ev.tsNs)) := by
        rw [Dump.closesAt]
        cases (a.dump k).active <;> rfl
      rw [if_pos rfl, htest]
      exact apply_ite (fun fs : FileSystem => fs.find? q) _ _ _
    · rw [if_neg hk]
      split
      · exact record_files_of_ne (hothers k hk) a.files ev
      · rfl

end Step

theorem synced_run (cfg : Setup) {a : AgentState} (ha : Synced a) (ops : List Op) :
    Synced (after cfg a ops) :=
  finalState_invariant (I := Synced) (P := fun _ => True) (fun _ op _ hs => step_synced cfg hs op)
    ha fun _ _ => trivial

end DeepKernel.Agent
