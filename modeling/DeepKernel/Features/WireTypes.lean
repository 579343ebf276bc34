import DeepKernel.Agent.Windowing
import DeepKernel.Features.Timing

/-!
# Windows on the wire

The agent prints the start of a window as an unsigned number of 64 bits and its deltas as unsigned
64-bit microseconds. The server reads the start as a `long` and a delta as an `int`, and rejects a
number out of range. A delta is out of range when a window has been open for more than `2 ^ 31`
microseconds, which the agent does not prevent: a window waits for its minimum number of events
however long that takes.
-/

set_option autoImplicit false

namespace DeepKernel.Features

open DeepKernel.Lib
open DeepKernel.Agent (Setup AgentState Op SyscallEvent nsToUs acceptedFor acceptedOf
  cutsWindow windowsOf posts after)

/-! ## Reading a window -/

/-- A JSON number read into a `long`. -/
def decodeLong (n : Nat) : Option Int64 := if n < 2 ^ 63 then some (Int64.ofNat n) else none

/-- A JSON number read into an `int`. -/
def decodeInt (n : Nat) : Option Int32 := if n < 2 ^ 31 then some (Int32.ofNat n) else none

/-- The numbers that `windowRecordJson` prints, read into a `TraceRecord`. -/
def decodeRecord (windowStartTsNs : UInt64) (ev : SyscallEvent) : Option Server.TraceRecord := do
  let deltaTsUs ← decodeInt (nsToUs (ev.tsNs - windowStartTsNs)).toNat
  let syscallId ← decodeInt ev.syscallId.toNat
  let argClass ← decodeInt ev.argClass.toNat
  let argBucket ← decodeInt ev.argBucket.toNat
  return { deltaTsUs, syscallId, argClass, argBucket }

/-- The numbers that `buildWindowJson` prints, read into a `ShortWindowPayload`. -/
def decodeWindow (agentId containerId : String) (windowStartTsNs : UInt64)
    (events : List SyscallEvent) : Option Server.ShortWindowPayload := do
  let version ← decodeInt 1
  let start ← decodeLong windowStartTsNs.toNat
  let records ← events.mapM (decodeRecord windowStartTsNs)
  return { version, agentId, containerId, windowStartTsNs := start, records := some records }

/-- The time that `extract` gives a record, in nanoseconds. -/
def recordTs (payload : Server.ShortWindowPayload) (r : Server.TraceRecord) : Int64 :=
  payload.windowStartTsNs + r.deltaTsUs.toInt64 * 1000

/-- The window can be read, and the time of every record is that of its event up to a microsecond. -/
def FitsWire (agentId containerId : String) (window : UInt64 × List SyscallEvent) : Prop :=
  ∃ payload records, decodeWindow agentId containerId window.1 window.2 = some payload ∧
    payload.records = some records ∧
    List.Forall₂ (fun (ev : SyscallEvent) r =>
      |(recordTs payload r).toInt - ev.tsNs.toNat| ≤ 1000) window.2 records

/-! ## Which windows can be read -/

theorem decodeInt_of_lt {n : Nat} (h : n < 2 ^ 31) : decodeInt n = some (Int32.ofNat n) :=
  if_pos h

theorem decodeRecord_of_lt {start : UInt64} {ev : SyscallEvent}
    (h : (nsToUs (ev.tsNs - start)).toNat < 2 ^ 31) :
    decodeRecord start ev = some (windowRecord start ev) := by
  have hid := ev.syscallId.toNat_lt
  have hclass := ev.argClass.toNat_lt
  have hbucket := ev.argBucket.toNat_lt
  rw [decodeRecord, decodeInt_of_lt h, decodeInt_of_lt (by omega), decodeInt_of_lt (by omega),
    decodeInt_of_lt (by omega)]
  rfl

theorem decodeRecord_of_not_lt {start : UInt64} {ev : SyscallEvent}
    (h : ¬ (nsToUs (ev.tsNs - start)).toNat < 2 ^ 31) : decodeRecord start ev = none := by
  rw [decodeRecord, decodeInt, if_neg h]
  rfl

theorem mapM_decodeRecord_of_lt {start : UInt64} {events : List SyscallEvent}
    (h : ∀ ev ∈ events, (nsToUs (ev.tsNs - start)).toNat < 2 ^ 31) :
    events.mapM (decodeRecord start) = some (events.map (windowRecord start)) := by
  induction events with
  | nil => rfl
  | cons ev events ih =>
      rw [List.mapM_cons, decodeRecord_of_lt (h ev List.mem_cons_self),
        ih fun e he => h e (List.mem_cons_of_mem _ he)]
      rfl

theorem mapM_decodeRecord_eq_none {start : UInt64} {events : List SyscallEvent} {ev : SyscallEvent}
    (hev : ev ∈ events) (h : ¬ (nsToUs (ev.tsNs - start)).toNat < 2 ^ 31) :
    events.mapM (decodeRecord start) = none := by
  induction events with
  | nil => cases hev
  | cons e events ih =>
      rw [List.mapM_cons]
      rcases List.mem_cons.1 hev with rfl | hev
      · rw [decodeRecord_of_not_lt h]
        rfl
      · rw [ih hev]
        cases decodeRecord start e with
        | none => rfl
        | some r => rfl

/-- The span of a window in microseconds. -/
def windowSpanUs (w : List SyscallEvent) : Nat :=
  match w.head?, w.getLast? with
  | some first, some last => (last.tsNs.toNat - first.tsNs.toNat) / 1000
  | _, _ => 0

/-- In a window in order the delta of an event is exact and at most the span. -/
theorem delta_le_span {w : List SyscallEvent} (h : InOrder w) {first ev : SyscallEvent}
    (hfirst : w.head? = some first) (hev : ev ∈ w) :
    first.tsNs.toNat ≤ ev.tsNs.toNat ∧
      (nsToUs (ev.tsNs - first.tsNs)).toNat = (ev.tsNs.toNat - first.tsNs.toNat) / 1000 ∧
      (ev.tsNs.toNat - first.tsNs.toNat) / 1000 ≤ windowSpanUs w := by
  obtain ⟨tail, rfl⟩ : ∃ tail, w = first :: tail := by
    cases w with
    | nil => cases hfirst
    | cons e tail => exact ⟨tail, by rw [Option.some.inj hfirst]⟩
  have hge : first.tsNs.toNat ≤ ev.tsNs.toNat := by
    rcases List.mem_cons.1 hev with rfl | hev
    · exact le_refl _
    · exact UInt64.le_iff_toNat_le.1 ((List.pairwise_cons.1 h).1 ev hev)
  -- an event is the last one, or before it
  have hle : ev.tsNs.toNat ≤ ((first :: tail).getLast (List.cons_ne_nil _ _)).tsNs.toNat := by
    rcases List.eq_nil_or_concat' (first :: tail) with hnil | ⟨init, last, hlast⟩
    · cases hnil
    · simp only [hlast, List.getLast_append_singleton]
      rw [InOrder, hlast] at h
      rw [hlast] at hev
      rcases List.mem_append.1 hev with hev | hev
      · exact UInt64.le_iff_toNat_le.1
          ((List.pairwise_append.1 h).2.2 ev hev last (List.mem_singleton_self _))
      · rw [List.mem_singleton.1 hev]
  have hsub : (ev.tsNs - first.tsNs).toNat = ev.tsNs.toNat - first.tsNs.toNat :=
    UInt64.toNat_sub_of_le _ _ (UInt64.le_iff_toNat_le.2 hge)
  have hthousand : (1000 : UInt64).toNat = 1000 := rfl
  refine ⟨hge, ?_, ?_⟩
  · rw [nsToUs, UInt64.toNat_div, hsub, hthousand]
  · rw [windowSpanUs, List.head?_cons, List.getLast?_eq_some_getLast (List.cons_ne_nil _ _)]
    exact Nat.div_le_div_right (Nat.sub_le_sub_right hle _)

/-- The time that the server gives a record. -/
theorem recordTs_windowRecord {agentId containerId : String} {start : UInt64} {ev : SyscallEvent}
    {records : List Server.TraceRecord} (hle : start.toNat ≤ ev.tsNs.toNat)
    (hdelta : (nsToUs (ev.tsNs - start)).toNat = (ev.tsNs.toNat - start.toNat) / 1000)
    (hlt : (ev.tsNs.toNat - start.toNat) / 1000 < 2 ^ 31) (hts : ev.tsNs.toNat < 2 ^ 63) :
    |(recordTs ⟨1, agentId, containerId, Int64.ofNat start.toNat, some records⟩
      (windowRecord start ev)).toInt - ev.tsNs.toNat| ≤ 1000 := by
  have hstart : (Int64.ofNat start.toNat).toInt = start.toNat :=
    Int64.toInt_ofNat_of_lt (by omega)
  have hfit : (Int32.ofNat ((ev.tsNs.toNat - start.toNat) / 1000)).toInt =
      ((ev.tsNs.toNat - start.toNat) / 1000 : Nat) := Int32.toInt_ofNat_of_lt hlt
  have hthousand : (1000 : Int64).toInt = 1000 := rfl
  have hmul : ((windowRecord start ev).deltaTsUs.toInt64 * 1000).toInt =
      ((ev.tsNs.toNat - start.toNat) / 1000 : Nat) * 1000 := by
    rw [windowRecord, hdelta, Int64.toInt_mul, Int32.toInt_toInt64, hfit, hthousand,
      Int.bmod_eq_of_le]
    · omega
    · omega
  rw [recordTs, Int64.toInt_add, hstart, hmul, Int.bmod_eq_of_le, abs_le]
  · omega
  · omega
  · omega

/-- A window in order can be read exactly if its span is below `2 ^ 31` microseconds. -/
theorem fitsWire_iff (agentId containerId : String) {w : List SyscallEvent} (h : InOrder w)
    (hts : ∀ ev ∈ w, ev.tsNs.toNat < 2 ^ 63) {first : SyscallEvent}
    (hfirst : w.head? = some first) :
    FitsWire agentId containerId (first.tsNs, w) ↔ windowSpanUs w < 2 ^ 31 := by
  have hmem : first ∈ w := List.mem_of_mem_head? hfirst
  constructor
  · rintro ⟨payload, records, hdecode, -, -⟩
    by_contra hspan
    -- the last event cannot be read
    obtain ⟨last, hlast⟩ : ∃ last, w.getLast? = some last :=
      ⟨_, List.getLast?_eq_some_getLast (List.ne_nil_of_mem hmem)⟩
    have hlastmem : last ∈ w := List.mem_of_getLast? hlast
    obtain ⟨-, hdelta, -⟩ := delta_le_span h hfirst hlastmem
    simp only [windowSpanUs, hfirst, hlast, ← hdelta] at hspan
    have hstart : decodeLong first.tsNs.toNat = some (Int64.ofNat first.tsNs.toNat) :=
      if_pos (hts first hmem)
    rw [decodeWindow, hstart, mapM_decodeRecord_eq_none hlastmem hspan] at hdecode
    cases hdecode
  · intro hspan
    have hdeltas : ∀ ev ∈ w, (nsToUs (ev.tsNs - first.tsNs)).toNat < 2 ^ 31 := by
      intro ev hev
      obtain ⟨-, hdelta, hle⟩ := delta_le_span h hfirst hev
      rw [hdelta]
      exact Nat.lt_of_le_of_lt hle hspan
    have hstart : decodeLong first.tsNs.toNat = some (Int64.ofNat first.tsNs.toNat) :=
      if_pos (hts first hmem)
    refine ⟨⟨1, agentId, containerId, Int64.ofNat first.tsNs.toNat,
      some (w.map (windowRecord first.tsNs))⟩, w.map (windowRecord first.tsNs), ?_, rfl, ?_⟩
    · rw [decodeWindow, hstart, mapM_decodeRecord_of_lt hdeltas]
      rfl
    · refine List.forall₂_map_right_iff.2 (List.forall₂_same.2 fun ev hev => ?_)
      obtain ⟨hge, hdelta, hle⟩ := delta_le_span h hfirst hev
      exact recordTs_windowRecord hge hdelta (Nat.lt_of_le_of_lt hle hspan) (hts ev hev)

/-! ## Every window of a run -/

/-- Every window that a run sends for a container can be read exactly if, whenever an event completes
a window, less than `2 ^ 31` microseconds have passed since the first event of the window. -/
theorem windows_fit_wire_iff (cfg : Setup) (files : FileSystem) (ops : List Op) (c : ByteString)
    (agentId containerId : String) (horder : InOrder (acceptedOf cfg c ops))
    (hts : ∀ ev ∈ acceptedOf cfg c ops, ev.tsNs.toNat < 2 ^ 63) :
    (∀ window ∈ windowsOf c (posts cfg (.init files) ops), FitsWire agentId containerId window) ↔
      ∀ pre op post, ops = pre ++ op :: post → ∀ ev, acceptedFor cfg c op = some ev →
        cutsWindow cfg ((after cfg (.init files) pre).openWindow c ++ [ev]) = true →
          windowSpanUs ((after cfg (.init files) pre).openWindow c ++ [ev]) < 2 ^ 31 := by
  have hinit := Agent.startsMatch_init files
  obtain ⟨hrun, hheads⟩ := Agent.windows_eq_segmentFrom cfg hinit ops c
  have hempty : (AgentState.init files).openWindow c = [] := rfl
  rw [hempty] at hrun
  have hwindows : (windowsOf c (posts cfg (.init files) ops)).map Prod.snd =
      (segmentFrom (cutsWindow cfg) [] (acceptedOf cfg c ops)).1 := congrArg Prod.fst hrun
  -- every window sent is a part of the events of the container
  have hpart : ∀ w ∈ (segmentFrom (cutsWindow cfg) [] (acceptedOf cfg c ops)).1,
      w.Sublist (acceptedOf cfg c ops) := by
    intro w hw
    have hflat := flatten_segmentFrom (cutsWindow cfg) [] (acceptedOf cfg c ops)
    rw [List.nil_append] at hflat
    have hsub := (List.sublist_flatten_of_mem hw).trans
      (List.sublist_append_left _ (segmentFrom (cutsWindow cfg) [] (acceptedOf cfg c ops)).2)
    rwa [hflat] at hsub
  have hfits : ∀ window ∈ windowsOf c (posts cfg (.init files) ops),
      (FitsWire agentId containerId window ↔ windowSpanUs window.2 < 2 ^ 31) := by
    intro window hwindow
    obtain ⟨start, w⟩ := window
    have hw : w ∈ (segmentFrom (cutsWindow cfg) [] (acceptedOf cfg c ops)).1 := by
      rw [← hwindows]
      exact List.mem_map.2 ⟨(start, w), hwindow, rfl⟩
    obtain ⟨first, hfirst, hstart⟩ := Option.map_eq_some_iff.1 (hheads (start, w) hwindow)
    have hstart' : first.tsNs = start := hstart
    rw [← hstart']
    exact fitsWire_iff agentId containerId (horder.sublist (hpart w hw))
      (fun ev hev => hts ev ((hpart w hw).subset hev)) hfirst
  have hexamined := Agent.forall_examined_iff cfg hinit ops c
    fun w => cutsWindow cfg w = true → windowSpanUs w < 2 ^ 31
  rw [hempty] at hexamined
  rw [← hexamined]
  calc (∀ window ∈ windowsOf c (posts cfg (.init files) ops),
          FitsWire agentId containerId window)
      ↔ ∀ window ∈ windowsOf c (posts cfg (.init files) ops),
          windowSpanUs window.2 < 2 ^ 31 :=
        forall₂_congr hfits
    _ ↔ ∀ w ∈ (windowsOf c (posts cfg (.init files) ops)).map Prod.snd,
          windowSpanUs w < 2 ^ 31 := by
        rw [List.forall_mem_map]
    _ ↔ ∀ w ∈ examined (cutsWindow cfg) [] (acceptedOf cfg c ops),
          cutsWindow cfg w = true → windowSpanUs w < 2 ^ 31 := by
        rw [hwindows, segmentFrom_fst_eq_filter]
        simp only [List.mem_filter, and_imp]

/-! ## A quiet container -/

/-- Nineteen events of container `a` in its first nanosecond, and one at a given time. -/
def twentyEvents (lastTsNs : UInt64) : List Op :=
  List.replicate 19 (Agent.eventAt 1) ++ [Agent.eventAt lastTsNs]

/-- The twentieth event comes after forty minutes and completes a window whose last delta is no
`int`. -/
theorem quiet_container_window_rejected :
    InOrder (acceptedOf Agent.defaultSetup (Agent.ascii "a") (twentyEvents 2400000000001)) ∧
      (∀ ev ∈ acceptedOf Agent.defaultSetup (Agent.ascii "a") (twentyEvents 2400000000001),
        ev.tsNs.toNat < 2 ^ 63) ∧
      ¬ ∀ window ∈ windowsOf (Agent.ascii "a")
          (posts Agent.defaultSetup (.init Table.empty) (twentyEvents 2400000000001)),
        FitsWire "node-1" "a" window := by
  have horder : InOrder
      (acceptedOf Agent.defaultSetup (Agent.ascii "a") (twentyEvents 2400000000001)) := by decide
  have hts : ∀ ev ∈ acceptedOf Agent.defaultSetup (Agent.ascii "a") (twentyEvents 2400000000001),
      ev.tsNs.toNat < 2 ^ 63 := List.all_iff_forall_prop.mp (by decide)
  obtain ⟨hrun, hheads⟩ := Agent.windows_eq_segmentFrom Agent.defaultSetup
    (Agent.startsMatch_init Table.empty) (twentyEvents 2400000000001) (Agent.ascii "a")
  have hone : (windowsOf (Agent.ascii "a")
      (posts Agent.defaultSetup (.init Table.empty) (twentyEvents 2400000000001))).map Prod.snd =
        [acceptedOf Agent.defaultSetup (Agent.ascii "a") (twentyEvents 2400000000001)] :=
    (congrArg Prod.fst hrun).trans (by decide)
  refine ⟨horder, hts, fun hfits => ?_⟩
  obtain ⟨⟨start, w⟩, hwindow, rfl⟩ := List.mem_map.1 (hone ▸ List.mem_singleton_self _)
  obtain ⟨first, hfirst, hstart⟩ := Option.map_eq_some_iff.1 (hheads _ hwindow)
  have hfit := hfits _ hwindow
  have hstart' : first.tsNs = start := hstart
  rw [← hstart', fitsWire_iff "node-1" "a" horder hts hfirst] at hfit
  revert hfit
  decide

/-- The twentieth event comes after six seconds. -/
theorem busy_container_windows_fit :
    InOrder (acceptedOf Agent.defaultSetup (Agent.ascii "a") (twentyEvents 6000000000)) ∧
      ∀ window ∈ windowsOf (Agent.ascii "a")
          (posts Agent.defaultSetup (.init Table.empty) (twentyEvents 6000000000)),
        FitsWire "node-1" "a" window := by
  have horder : InOrder
      (acceptedOf Agent.defaultSetup (Agent.ascii "a") (twentyEvents 6000000000)) := by decide
  have hts : ∀ ev ∈ acceptedOf Agent.defaultSetup (Agent.ascii "a") (twentyEvents 6000000000),
      ev.tsNs.toNat < 2 ^ 63 := List.all_iff_forall_prop.mp (by decide)
  refine ⟨horder, (windows_fit_wire_iff Agent.defaultSetup Table.empty (twentyEvents 6000000000)
    (Agent.ascii "a") "node-1" "a" horder hts).2 ?_⟩
  refine (Agent.forall_examined_iff Agent.defaultSetup (Agent.startsMatch_init Table.empty)
    (twentyEvents 6000000000) (Agent.ascii "a")
    fun w => cutsWindow Agent.defaultSetup w = true → windowSpanUs w < 2 ^ 31).1 ?_
  exact List.all_iff_forall_prop.mp (by decide)

end DeepKernel.Features
