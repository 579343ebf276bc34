import DeepKernel.Agent.DumpRecords
import DeepKernel.Agent.Windowing
import DeepKernel.Features.Timing
import DeepKernel.Ml.SplitWindows

/-!
# The time in a dump

Each delta of a dump is rounded down to microseconds and cut to 32 bits. The sums of the deltas, from
which the training tool gets its time slots, fall behind the real time by less than a microsecond for
each record (`drift_dumpRecords`). That needs events that are not older than the start of the dump: the
difference to an older one is almost `2 ^ 64` nanoseconds, of whose microseconds 32 bits are kept.
-/

set_option autoImplicit false

namespace DeepKernel.System

open DeepKernel.Lib DeepKernel.Agent DeepKernel.Features DeepKernel.Ml

/-! ## Deltas -/

/-- The delta to a timestamp that is not later, in whole microseconds and 32 bits. -/
theorem deltaTsUs_makeTraceRecord {ev : SyscallEvent} {prevTsNs : UInt64} (h : prevTsNs ≤ ev.tsNs) :
    (makeTraceRecord ev prevTsNs).deltaTsUs.toNat =
      (ev.tsNs.toNat - prevTsNs.toNat) / 1000 % 2 ^ 32 := by
  have hle := UInt64.le_iff_toNat_le.1 h
  have hlt := ev.tsNs.toNat_lt
  have hsub : (((ev.tsNs.toNat : Int) - prevTsNs.toNat) % 2 ^ 64).toNat =
      ev.tsNs.toNat - prevTsNs.toNat := by omega
  rw [makeTraceRecord_eq, hsub]
  exact UInt32.toNat_ofNat'

/-- From the start of a dump on, no timestamp is taken for none. -/
theorem writtenRecords_eq_dumpRecords {startTsNs : UInt64} {evs : List SyscallEvent}
    (h : ∀ ev ∈ evs, startTsNs ≤ ev.tsNs) (lastTsNs : UInt64) :
    writtenRecords startTsNs lastTsNs evs =
      dumpRecords (if lastTsNs = 0 then startTsNs else lastTsNs) evs := by
  induction evs generalizing lastTsNs with
  | nil => rfl
  | cons ev evs ih =>
      -- an event at zero is at the start itself
      have hprev : (if ev.tsNs = 0 then startTsNs else ev.tsNs) = ev.tsNs := by
        split_ifs with hzero
        · have hle := UInt64.le_iff_toNat_le.1 (h ev List.mem_cons_self)
          rw [hzero] at hle ⊢
          exact UInt64.toNat_inj.1 (Nat.le_zero.1 hle)
        · rfl
      rw [writtenRecords, dumpRecords, ih fun e he => h e (List.mem_cons_of_mem _ he), hprev]

/-- The sum of the deltas of some records. -/
def deltaSum (recs : List Agent.TraceRecord) : Nat := (recs.map fun r => r.deltaTsUs.toNat).sum

/-- The deltas add up to at most the time from the reference to the last event. -/
theorem deltaSum_dumpRecords_le {prevTsNs endTsNs : UInt64} {evs : List SyscallEvent}
    (horder : InOrder evs) (hprev : ∀ ev ∈ evs, prevTsNs ≤ ev.tsNs)
    (hend : ∀ ev ∈ evs, ev.tsNs < endTsNs) :
    1000 * deltaSum (dumpRecords prevTsNs evs) ≤ endTsNs.toNat - prevTsNs.toNat := by
  induction evs generalizing prevTsNs with
  | nil => exact Nat.zero_le _
  | cons ev evs ih =>
      obtain ⟨hfirst, hrest⟩ := List.pairwise_cons.1 horder
      have hle := UInt64.le_iff_toNat_le.1 (hprev ev List.mem_cons_self)
      have hlt := UInt64.lt_iff_toNat_lt.1 (hend ev List.mem_cons_self)
      have htail := ih hrest hfirst fun e he => hend e (List.mem_cons_of_mem _ he)
      have hdelta := deltaTsUs_makeTraceRecord (hprev ev List.mem_cons_self)
      have hcut := Nat.mod_le ((ev.tsNs.toNat - prevTsNs.toNat) / 1000) (2 ^ 32)
      have hsum : deltaSum (dumpRecords prevTsNs (ev :: evs)) =
          (makeTraceRecord ev prevTsNs).deltaTsUs.toNat + deltaSum (dumpRecords ev.tsNs evs) := by
        rw [dumpRecords, deltaSum, List.map_cons, List.sum_cons, deltaSum]
      rw [hsum]
      omega

/-- Where no gap fills 32 bits, the sum of the first deltas falls behind the time of the last of them
by less than a microsecond for each. -/
theorem drift_dumpRecords {prevTsNs : UInt64} {evs : List SyscallEvent} (horder : InOrder evs)
    (hprev : ∀ ev ∈ evs, prevTsNs ≤ ev.tsNs)
    (hgap : ∀ ev ∈ evs, (ev.tsNs.toNat - prevTsNs.toNat) / 1000 < 2 ^ 32) {n : Nat}
    {ev : SyscallEvent} (hev : evs[n]? = some ev) :
    1000 * deltaSum ((dumpRecords prevTsNs evs).take (n + 1)) ≤ ev.tsNs.toNat - prevTsNs.toNat ∧
      ev.tsNs.toNat - prevTsNs.toNat <
        1000 * deltaSum ((dumpRecords prevTsNs evs).take (n + 1)) + 1000 * (n + 1) := by
  induction evs generalizing prevTsNs n with
  | nil => cases hev
  | cons first evs ih =>
      obtain ⟨hfirst, hrest⟩ := List.pairwise_cons.1 horder
      have hle := UInt64.le_iff_toNat_le.1 (hprev first List.mem_cons_self)
      have hdelta := deltaTsUs_makeTraceRecord (hprev first List.mem_cons_self)
      rw [Nat.mod_eq_of_lt (hgap first List.mem_cons_self)] at hdelta
      -- the first delta is of the first event, and the others refer to it
      have hsum : ∀ k, deltaSum ((dumpRecords prevTsNs (first :: evs)).take (k + 1)) =
          (makeTraceRecord first prevTsNs).deltaTsUs.toNat +
            deltaSum ((dumpRecords first.tsNs evs).take k) := by
        intro k
        rw [dumpRecords, List.take_succ_cons, deltaSum, List.map_cons, List.sum_cons, deltaSum]
      cases n with
      | zero =>
          obtain rfl := Option.some.inj hev
          have hnil : deltaSum ((dumpRecords first.tsNs evs).take 0) = 0 := rfl
          rw [hsum, hnil, hdelta]
          omega
      | succ n =>
          rw [List.getElem?_cons_succ] at hev
          have hmem : ev ∈ evs := List.mem_of_getElem? hev
          have hlater := UInt64.le_iff_toNat_le.1 (hfirst ev hmem)
          have htail := ih hrest hfirst (fun e he => ?_) hev
          · rw [hsum, hdelta]
            omega
          · -- the gap to a later reference is smaller
            have hsmall := hgap e (List.mem_cons_of_mem _ he)
            have hmono : (e.tsNs.toNat - first.tsNs.toNat) / 1000 ≤
                (e.tsNs.toNat - prevTsNs.toNat) / 1000 := Nat.div_le_div_right (by omega)
            omega

/-! ## Slots -/

theorem length_writtenRecords (startTsNs lastTsNs : UInt64) (evs : List SyscallEvent) :
    (writtenRecords startTsNs lastTsNs evs).length = evs.length := by
  induction evs generalizing lastTsNs with
  | nil => rfl
  | cons ev evs ih => rw [writtenRecords, List.length_cons, ih, List.length_cons]

/-- A time that falls behind by less than `n` microseconds is in the true slot or at most
`⌈n / w⌉` slots before it. -/
theorem slot_bounds {elapsed sum w : Int} {n : Nat} (hw : 1 ≤ w)
    (hlow : 0 ≤ elapsed - 1000 * sum) (hhigh : elapsed - 1000 * sum < 1000 * n) :
    sum / w ≤ elapsed / (1000 * w) ∧ elapsed / (1000 * w) ≤ sum / w + (n + w - 1) / w := by
  have hpos : 0 < w := by omega
  have hslot : elapsed / (1000 * w) = elapsed / 1000 / w :=
    (Int.ediv_ediv_of_nonneg (by decide)).symm
  have hrem := Int.emod_lt_of_pos sum hpos
  have hsplit := Int.mul_ediv_add_emod sum w
  rw [hslot]
  constructor
  · exact Int.ediv_le_ediv hpos (by omega)
  · calc elapsed / 1000 / w ≤ (n + w - 1 + w * (sum / w)) / w :=
          Int.ediv_le_ediv hpos (by omega)
      _ = (n + w - 1) / w + sum / w := Int.add_mul_ediv_left _ _ (by omega)
      _ = sum / w + (n + w - 1) / w := add_comm _ _

/-- The deltas that the training tool reads add up to those that were written. -/
theorem sum_deltaTsUs_ofAgent (recs : List Agent.TraceRecord) :
    ((recs.map Ml.TraceRecord.ofAgent).map Ml.TraceRecord.deltaTsUs).sum = deltaSum recs := by
  induction recs with
  | nil => rfl
  | cons r recs ih =>
      rw [List.map_cons, List.map_cons, List.sum_cons, ih, deltaSum, deltaSum, List.map_cons,
        List.sum_cons, Nat.cast_add]
      rfl

/-- Time from the deltas of a dump: for a dump of at most 4294 seconds whose events are in order and
not before its start, the sum of the first `n` deltas that the training tool reads falls behind the
time of the `n`-th event by less than `n` microseconds, and its slot is not later than the true one and
at most `⌈n / w⌉` slots before it. -/
theorem dump_time_drift {τ : Type} (decode : ByteString → τ) (h : Agent.TraceHeader)
    (evs : List SyscallEvent) (durationSec : Int32) (hduration : durationSec.toInt ≤ 4294)
    (horder : InOrder evs)
    (hrange : ∀ ev ∈ evs, h.startTsNs.toNat ≤ ev.tsNs.toNat ∧
      (ev.tsNs.toNat : Int) < h.startTsNs.toNat + durationSec.toInt * 10 ^ 9) :
    ∃ header records,
      parseDumpFile decode (encodeDump h (writtenRecords h.startTsNs 0 evs)) =
        .ok (header, records) ∧
      header.startTsNs = h.startTsNs.toNat ∧ records.length = evs.length ∧
      ∀ n : Nat, 1 ≤ n → ∀ ev, evs[n - 1]? = some ev → ∀ elapsed sum : Int,
        elapsed = ev.tsNs.toNat - h.startTsNs.toNat →
        sum = ((records.take n).map Ml.TraceRecord.deltaTsUs).sum →
        (0 ≤ elapsed - 1000 * sum ∧ elapsed - 1000 * sum < 1000 * n) ∧
        ∀ w : Int, 1 ≤ w →
          (∃ r, (stamp w 0 records)[n - 1]? = some (r, sum / w)) ∧
          sum / w ≤ elapsed / (1000 * w) ∧ elapsed / (1000 * w) ≤ sum / w + (n + w - 1) / w := by
  have hparse := parseDumpFile_encodeDump decode h (writtenRecords h.startTsNs 0 evs)
  have hstart : ∀ ev ∈ evs, h.startTsNs ≤ ev.tsNs :=
    fun ev hev => UInt64.le_iff_toNat_le.2 (hrange ev hev).1
  -- 4294 seconds of microseconds fit in 32 bits
  have hgap : ∀ ev ∈ evs, (ev.tsNs.toNat - h.startTsNs.toNat) / 1000 < 2 ^ 32 := by
    intro ev hev
    have hrange := hrange ev hev
    omega
  refine ⟨_, _, hparse, rfl, by rw [List.length_map, length_writtenRecords], ?_⟩
  rw [writtenRecords_eq_dumpRecords hstart, if_pos rfl]
  rintro n hn ev hev elapsed sum rfl rfl
  obtain ⟨n, rfl⟩ : ∃ m, n = m + 1 := ⟨n - 1, by omega⟩
  rw [Nat.add_sub_cancel] at hev ⊢
  obtain ⟨hlow, hhigh⟩ := drift_dumpRecords horder hstart hgap hev
  have hle := (hrange ev (List.mem_of_getElem? hev)).1
  have hsum : ((((dumpRecords h.startTsNs evs).map Ml.TraceRecord.ofAgent).take (n + 1)).map
      Ml.TraceRecord.deltaTsUs).sum = deltaSum ((dumpRecords h.startTsNs evs).take (n + 1)) := by
    rw [← List.map_take, sum_deltaTsUs_ofAgent]
  rw [hsum]
  have hdrift : 0 ≤ (ev.tsNs.toNat - h.startTsNs.toNat : Int) -
        1000 * deltaSum ((dumpRecords h.startTsNs evs).take (n + 1)) ∧
      (ev.tsNs.toNat - h.startTsNs.toNat : Int) -
        1000 * deltaSum ((dumpRecords h.startTsNs evs).take (n + 1)) < 1000 * (n + 1 : Nat) := by
    omega
  refine ⟨hdrift, fun w hw => ⟨?_, slot_bounds hw hdrift.1 hdrift.2⟩⟩
  -- the stamp of the `n`-th record is the slot of the sum
  have hindex : n < (dumpRecords h.startTsNs evs).length := by
    rw [length_dumpRecords]
    exact (List.getElem?_eq_some_iff.1 hev).1
  rw [getElem?_stamp, hsum, List.getElem?_map, List.getElem?_eq_getElem hindex, zero_add]
  exact ⟨_, rfl⟩

/-- Two events of a dump, the second one 1.5 microseconds after the first. -/
theorem two_events_drift :
    InOrder [timedEvent 5000000700, timedEvent 5000002200] ∧
      ∃ header records,
        parseDumpFile id (encodeDump (makeTraceHeader 1 256 (ascii "web") 5000000000)
          (writtenRecords 5000000000 0 [timedEvent 5000000700, timedEvent 5000002200])) =
            .ok (header, records) ∧ header.startTsNs = 5000000000 ∧ records.length = 2 := by
  refine ⟨by decide, ?_⟩
  obtain ⟨header, records, hparse, hstart, hlen, -⟩ := dump_time_drift id
    (makeTraceHeader 1 256 (ascii "web") 5000000000)
    [timedEvent 5000000700, timedEvent 5000002200] 10 (by decide) (by decide) (by decide)
  exact ⟨header, records, hparse, hstart, hlen⟩

/-! ## What a dump claims -/

theorem inOrder_acceptedOf {cfg : Setup} {ops : List Agent.Op} (h : TimestampsInOrder cfg ops)
    (c : ByteString) : InOrder (acceptedOf cfg c ops) := by
  have hsplit : acceptedOf cfg c ops = (ops.filterMap (accepted cfg)).filterMap
      fun e => if e.1 = c then some e.2 else none := by
    rw [List.filterMap_filterMap]
    rfl
  rw [hsplit]
  refine List.Pairwise.filterMap _ (fun e e' hle ev hev ev' hev' => ?_) h
  split_ifs at hev hev'
  rw [← Option.some.inj hev, ← Option.some.inj hev']
  exact hle

/-- The end of a dump, if the counter does not wrap, and else less. -/
theorem toNat_dumpEnd_le (startTsNs : UInt64) {durationSec : Int32} (h : 0 ≤ durationSec.toInt) :
    ((dumpEnd startTsNs durationSec).toNat : Int) ≤
      startTsNs.toNat + durationSec.toInt * 10 ^ 9 := by
  have hseconds := toNat_seconds (Int32.le_iff_toInt_le.2 h)
  rw [dumpEnd, UInt64.toNat_add]
  omega

/-- What a dump records is before its end. -/
theorem tsNs_lt_of_openPart {cfg : Setup} {c : ByteString} {endTsNs : UInt64} {ops : List Agent.Op}
    {ev : SyscallEvent} (h : ev ∈ acceptedOf cfg c (openPart cfg endTsNs ops)) :
    ev.tsNs < endTsNs := by
  obtain ⟨op, hop, hacc⟩ := List.mem_filterMap.1 h
  have hcloses := openPart_not_closes hop
  rw [closes, accepted_of_acceptedFor hacc] at hcloses
  exact UInt64.not_le.1 (of_decide_eq_false hcloses)

/-- What a dump records is not before its start: the start is the timestamp of an event that was
delivered earlier, or a reading of the clock that no such event precedes. -/
theorem requestStart_le_of_openPart {cfg : Setup} {files : FileSystem} {pre post : List Agent.Op}
    {c : ByteString} {d : Int32} {env : DumpEnv}
    (hacross : ∀ e ∈ pre.filterMap (accepted cfg), ∀ e' ∈ post.filterMap (accepted cfg),
      e.2.tsNs ≤ e'.2.tsNs)
    (hclock : ((after cfg (.init files) pre).buffer c).lastEventTsNs ≠ 0 ∨
      ∀ ev ∈ acceptedOf cfg c (openPart cfg (dumpEnd env.monotonicNowNs d) post),
        env.monotonicNowNs ≤ ev.tsNs) {ev : SyscallEvent}
    (hev : ev ∈ acceptedOf cfg c (openPart cfg
      (dumpEnd ((after cfg (.init files) pre).requestStart c env) d) post)) :
    (after cfg (.init files) pre).requestStart c env ≤ ev.tsNs := by
  rcases requestStart_cases cfg files pre c env with ⟨hzero, hnow⟩ | ⟨ev₀, hev₀, hts⟩
  · -- the request takes the clock, which no event of the dump is behind
    rw [hnow] at hev ⊢
    rcases hclock with hlast | hclock
    · exact absurd hzero hlast
    · exact hclock ev hev
  · -- the request takes the timestamp of an earlier event
    obtain ⟨op₀, hop₀, hacc₀⟩ := List.mem_filterMap.1 hev₀
    obtain ⟨op, hop, hacc⟩ := List.mem_filterMap.1 hev
    rw [← hts]
    exact hacross (c, ev₀)
      (List.mem_filterMap.2 ⟨op₀, hop₀, accepted_of_acceptedFor hacc₀⟩) (c, ev)
      (List.mem_filterMap.2 ⟨op, (List.takeWhile_subset _) hop, accepted_of_acceptedFor hacc⟩)

/-- A dump does not claim more time than it lasted, if its start is the timestamp of an event of the
container or no event that is recorded is older than the clock was: the deltas that the calls of any
run write add up to at most the duration. -/
theorem dump_sum_le_duration (cfg : Setup) (files : FileSystem) (pre post : List Agent.Op)
    (c : ByteString) (d : Int32) (env : DumpEnv) (hd : 0 ≤ d.toInt)
    (hopens : requestOpens cfg (after cfg (.init files) pre) c env = true)
    (hreq : ∀ op ∈ post, requests c op = false)
    (horder : TimestampsInOrder cfg (pre ++ .request c d env :: post))
    (hclock : ((after cfg (.init files) pre).buffer c).lastEventTsNs ≠ 0 ∨
      ∀ ev ∈ acceptedOf cfg c (openPart cfg (dumpEnd env.monotonicNowNs d) post),
        env.monotonicNowNs ≤ ev.tsNs) :
    (deltaSum (recordsOf cfg c (after cfg (.init files) (pre ++ [.request c d env])) post) : Int) ≤
      d.toInt * 10 ^ 6 := by
  have hsynced := synced_run cfg (synced_init files) pre
  obtain ⟨-, -, hdump⟩ := requestLongDump_of_opens cfg (after cfg (.init files) pre) c d env hopens
  change (step cfg (after cfg (.init files) pre) (.request c d env)).1.dump c = _ at hdump
  have hrecords := recordsOf_eq_writtenRecords cfg
    (step_synced cfg hsynced (.request c d env)) (by rw [hdump]; rfl) hreq
  rw [hdump] at hrecords
  rw [after_concat, hrecords]
  simp only [Dump.started]
  -- the events before and after the request are in order, and across it
  have hnone : accepted cfg (.request c d env) = none := rfl
  rw [TimestampsInOrder, List.filterMap_append, List.filterMap_cons_none hnone,
    List.pairwise_append] at horder
  obtain ⟨-, hpost, hacross⟩ := horder
  have hstart : ∀ ev ∈ acceptedOf cfg c (openPart cfg
      (dumpEnd ((after cfg (.init files) pre).requestStart c env) d) post),
      (after cfg (.init files) pre).requestStart c env ≤ ev.tsNs :=
    fun ev hev => requestStart_le_of_openPart hacross hclock hev
  have hinOrder : InOrder (acceptedOf cfg c (openPart cfg
      (dumpEnd ((after cfg (.init files) pre).requestStart c env) d) post)) := by
    refine (inOrder_acceptedOf hpost c).sublist ?_
    exact (List.takeWhile_sublist _).filterMap _
  rw [writtenRecords_eq_dumpRecords hstart, if_pos rfl]
  -- the deltas add up to at most the time between the start and the end
  have hsum := deltaSum_dumpRecords_le hinOrder hstart fun ev hev => tsNs_lt_of_openPart hev
  have hduration := toNat_dumpEnd_le ((after cfg (.init files) pre).requestStart c env) hd
  omega

/-- The clock at five seconds. -/
def requestEnvAt5 : DumpEnv where
  timestamp := ascii "20250101-000000"
  canOpen := true
  monotonicNowNs := 5000000000

/-- A dump of ten seconds for a container that has not been seen yet, while an event of it that was
captured a microsecond before is still queued: a single record claims more than twenty minutes. -/
theorem queued_event_overclaims :
    requestOpens defaultSetup (after defaultSetup (.init Table.empty) []) (ascii "a")
        requestEnvAt5 = true ∧
      TimestampsInOrder defaultSetup
        ([] ++ .request (ascii "a") 10 requestEnvAt5 ::
          [eventAt 4999999000, eventAt 15000000000]) ∧
      (∀ op ∈ [eventAt 4999999000, eventAt 15000000000], requests (ascii "a") op = false) ∧
      completionsOf (ascii "a") (posts defaultSetup
        (after defaultSetup (.init Table.empty) ([] ++ [.request (ascii "a") 10 requestEnvAt5]))
        [eventAt 4999999000, eventAt 15000000000]) ≠ [] ∧
      ¬ (deltaSum (recordsOf defaultSetup (ascii "a")
        (after defaultSetup (.init Table.empty) ([] ++ [.request (ascii "a") 10 requestEnvAt5]))
        [eventAt 4999999000, eventAt 15000000000]) : Int) ≤ (10 : Int32).toInt * 10 ^ 6 := by
  refine ⟨by decide, by decide, by decide, by decide, by decide⟩

/-- The same dump without the queued event. -/
theorem fresh_dump_sum_le :
    requestOpens defaultSetup (after defaultSetup (.init Table.empty) []) (ascii "a")
        requestEnvAt5 = true ∧
      (deltaSum (recordsOf defaultSetup (ascii "a")
        (after defaultSetup (.init Table.empty) ([] ++ [.request (ascii "a") 10 requestEnvAt5]))
        [eventAt 6000000000, eventAt 15000000000]) : Int) ≤ (10 : Int32).toInt * 10 ^ 6 :=
  ⟨by decide, dump_sum_le_duration defaultSetup Table.empty []
    [eventAt 6000000000, eventAt 15000000000] (ascii "a") 10 requestEnvAt5 (by decide) (by decide)
    (by decide) (by decide) (.inr (by decide))⟩

end DeepKernel.System
