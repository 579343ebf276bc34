import DeepKernel.Agent.Serialization
import DeepKernel.Ml.FeatureExtraction
import DeepKernel.Server.FeatureExtractor
import Mathlib.Analysis.SpecialFunctions.Log.Basic

/-!
# Timing features in training and in scoring

The same events leave the agent on two paths. In a short window a delta counts from the start of
the window; in a dump it counts from the event before. `extract` and `extract_features` both take
the delta of the last record for the duration. The server so sees the whole span of the window and
the training tool the gap between the last two events; the two durations are close only if that gap
is nearly all of the span.
-/

set_option autoImplicit false

namespace DeepKernel.Features

open DeepKernel.Lib
open DeepKernel.Agent (SyscallEvent makeTraceRecord nsToUs)

/-! ## The two paths -/

/-- The record that the server reads for an event of a window: the numbers that `windowRecordJson`
prints. -/
def windowRecord (windowStartTsNs : UInt64) (ev : SyscallEvent) : Server.TraceRecord where
  deltaTsUs := Int32.ofNat (nsToUs (ev.tsNs - windowStartTsNs)).toNat
  syscallId := Int32.ofNat ev.syscallId.toNat
  argClass := Int32.ofNat ev.argClass.toNat
  argBucket := Int32.ofNat ev.argBucket.toNat

/-- The window that the agent posts for a list of events that starts with `first`. -/
def postedWindow (agentId containerId : String) (first : SyscallEvent)
    (rest : List SyscallEvent) : Server.ShortWindowPayload where
  version := 1
  agentId := agentId
  containerId := containerId
  windowStartTsNs := first.tsNs.toInt64
  records := some ((first :: rest).map (windowRecord first.tsNs))

/-- The records that a running dump appends for a list of events, after an event at `prevTsNs`. -/
def dumpRecords (prevTsNs : UInt64) : List SyscallEvent → List Agent.TraceRecord
  | [] => []
  | ev :: evs => makeTraceRecord ev prevTsNs :: dumpRecords ev.tsNs evs

/-- The gap before the last event, in microseconds as a dump holds it. -/
def lastGapUs (prevTsNs : UInt64) : List SyscallEvent → Nat
  | [] => 0
  | [ev] => (((ev.tsNs.toNat : Int) - prevTsNs.toNat) % 2 ^ 64).toNat / 1000 % 2 ^ 32
  | ev :: ev' :: evs => lastGapUs ev.tsNs (ev' :: evs)

/-- The span from the first to the last event, in microseconds. -/
def spanUs (first : SyscallEvent) (rest : List SyscallEvent) : Nat :=
  (((first :: rest).getLast (List.cons_ne_nil _ _)).tsNs.toNat - first.tsNs.toNat) / 1000

theorem length_dumpRecords (prevTsNs : UInt64) (evs : List SyscallEvent) :
    (dumpRecords prevTsNs evs).length = evs.length := by
  induction evs generalizing prevTsNs with
  | nil => rfl
  | cons ev evs ih => rw [dumpRecords, List.length_cons, ih, List.length_cons]

/-- The last record of the dump holds the last gap. -/
theorem getLast?_dumpRecords (prevTsNs : UInt64) {evs : List SyscallEvent} (hne : evs ≠ []) :
    ∃ r, (dumpRecords prevTsNs evs).getLast? = some r ∧
      r.deltaTsUs.toNat = lastGapUs prevTsNs evs := by
  induction evs generalizing prevTsNs with
  | nil => exact absurd rfl hne
  | cons ev evs ih =>
      cases evs with
      | nil =>
          refine ⟨makeTraceRecord ev prevTsNs, rfl, ?_⟩
          rw [Agent.makeTraceRecord_eq, lastGapUs]
          exact UInt32.toNat_ofNat'
      | cons ev' evs =>
          obtain ⟨r, hr, hgap⟩ := ih ev.tsNs (List.cons_ne_nil _ _)
          refine ⟨r, ?_, hgap⟩
          rw [dumpRecords, dumpRecords, List.getLast?_cons_cons]
          exact hr

/-- Timestamps that do not decrease. -/
def InOrder (evs : List SyscallEvent) : Prop := evs.Pairwise fun a b => a.tsNs ≤ b.tsNs

instance (evs : List SyscallEvent) : Decidable (InOrder evs) :=
  inferInstanceAs (Decidable (evs.Pairwise fun a b => a.tsNs ≤ b.tsNs))

theorem le_getLast_of_inOrder {first : SyscallEvent} {rest : List SyscallEvent}
    (h : InOrder (first :: rest)) :
    first.tsNs ≤ ((first :: rest).getLast (List.cons_ne_nil _ _)).tsNs := by
  cases rest with
  | nil => exact UInt64.le_refl _
  | cons ev rest =>
      rw [List.getLast_cons_cons]
      exact (List.pairwise_cons.1 h).1 _ (List.getLast_mem _)

/-- In a list of two or more events the last gap is part of the span. -/
theorem lastGapUs_le_spanUs {first ev : SyscallEvent} {rest : List SyscallEvent}
    (h : InOrder (first :: ev :: rest)) :
    lastGapUs first.tsNs (ev :: rest) ≤ spanUs first (ev :: rest) := by
  have hle : first.tsNs.toNat ≤ ev.tsNs.toNat :=
    UInt64.le_iff_toNat_le.1 ((List.pairwise_cons.1 h).1 ev List.mem_cons_self)
  induction rest generalizing first ev with
  | nil =>
      have hlt := ev.tsNs.toNat_lt
      have hgap : (((ev.tsNs.toNat : Int) - first.tsNs.toNat) % 2 ^ 64).toNat =
          ev.tsNs.toNat - first.tsNs.toNat := by omega
      rw [lastGapUs, hgap]
      exact Nat.mod_le _ _
  | cons ev' rest ih =>
      have htail : InOrder (ev :: ev' :: rest) := (List.pairwise_cons.1 h).2
      have hle' : ev.tsNs.toNat ≤ ev'.tsNs.toNat :=
        UInt64.le_iff_toNat_le.1 ((List.pairwise_cons.1 htail).1 ev' List.mem_cons_self)
      have hspan : spanUs ev (ev' :: rest) ≤ spanUs first (ev :: ev' :: rest) :=
        Nat.div_le_div_right (Nat.sub_le_sub_left hle _)
      exact (ih htail hle').trans hspan

/-! ## The two durations -/

section Durations

variable {R : Type} [Field R] [LinearOrder R]

/-- The timing features of the posted window: its span, and the span divided by its size. -/
theorem server_timing [IsStrictOrderedRing R] (log : R → R) (agentId containerId : String)
    (first : SyscallEvent) (rest : List SyscallEvent) (horder : InOrder (first :: rest))
    (hspan : spanUs first rest < 2 ^ 31) :
    (Server.extract log (postedWindow agentId containerId first rest))[580]? =
        some ((spanUs first rest : R) / 10 ^ 6) ∧
      (Server.extract log (postedWindow agentId containerId first rest))[581]? =
        some ((spanUs first rest : R) / 10 ^ 6 / ((rest.length + 1 : Nat) : R)) := by
  have hle := UInt64.le_iff_toNat_le.1 (le_getLast_of_inOrder horder)
  have hlast : ((first :: rest).map (windowRecord first.tsNs)).getLast? =
      some (windowRecord first.tsNs ((first :: rest).getLast (List.cons_ne_nil _ _))) := by
    rw [List.getLast?_map, List.getLast?_eq_getLast_of_ne_nil (List.cons_ne_nil _ _)]
    rfl
  have hdelta : (windowRecord first.tsNs
      ((first :: rest).getLast (List.cons_ne_nil _ _))).deltaTsUs.toInt = spanUs first rest := by
    -- the events are in order, so neither the subtraction nor the field of 32 bits wraps
    have hus : (nsToUs (((first :: rest).getLast (List.cons_ne_nil _ _)).tsNs -
        first.tsNs)).toNat = spanUs first rest := by
      rw [nsToUs, UInt64.toNat_div, UInt64.toNat_sub_of_le _ _ (UInt64.le_iff_toNat_le.2 hle)]
      rfl
    rw [windowRecord, hus]
    exact Int32.toInt_ofNat_of_lt hspan
  have hlastTs := Server.scanWindow_lastTs (R := R) first.tsNs.toInt64 _ hlast
  rw [Server.extract_of_ne_nil log
    (show (postedWindow agentId containerId first rest).records = _ from rfl) (by simp)]
  obtain ⟨-, -, hduration, hmean⟩ := Server.vector_ratios (Server.scanWindow first.tsNs.toInt64
    ((first :: rest).map (windowRecord first.tsNs)) : Server.Scan R) log first.tsNs.toInt64
    (Nat.succ_pos rest.length)
  have hmicro : (((spanUs first rest : Int) * 1000 : Int) : R) / 10 ^ 9 =
      (spanUs first rest : R) / 10 ^ 6 := by
    push_cast
    field_simp
    ring
  rw [hlastTs, Server.timestamp_sub_start, hdelta, hmicro] at hduration hmean
  rw [List.length_map, List.length_cons]
  exact ⟨hduration, hmean⟩

/-- The timing features of the dumped records: the last gap, and the gap divided by their number. -/
theorem ml_timing (log : R → R) (prevTsNs : UInt64) {evs : List SyscallEvent} (hne : evs ≠ []) :
    (Ml.extractFeatures log ((dumpRecords prevTsNs evs).map Ml.TraceRecord.ofAgent) 0)[580]? =
        some ((lastGapUs prevTsNs evs : R) / 10 ^ 6) ∧
      (Ml.extractFeatures log ((dumpRecords prevTsNs evs).map Ml.TraceRecord.ofAgent) 0)[581]? =
        some ((lastGapUs prevTsNs evs : R) / 10 ^ 6 / (evs.length : R)) := by
  obtain ⟨r, hlast, hgap⟩ := getLast?_dumpRecords prevTsNs hne
  have hlen : ((dumpRecords prevTsNs evs).map Ml.TraceRecord.ofAgent).length = evs.length := by
    rw [List.length_map, length_dumpRecords]
  have hmap : (dumpRecords prevTsNs evs).map Ml.TraceRecord.ofAgent ≠ [] := by
    intro hnil
    rw [hnil, List.length_nil] at hlen
    exact hne (List.length_eq_zero_iff.1 hlen.symm)
  have hlastTs := Ml.scanWindow_lastTs (R := R) 0
    ((dumpRecords prevTsNs evs).map Ml.TraceRecord.ofAgent) (r := .ofAgent r)
    (by rw [List.getLast?_map, hlast]; rfl)
  rw [Ml.extractFeatures_of_ne_nil log hmap, hlen]
  obtain ⟨-, -, hduration, hmean⟩ := Ml.vector_ratios (Ml.scanWindow 0
    ((dumpRecords prevTsNs evs).map Ml.TraceRecord.ofAgent) : Ml.Scan R) log 0
    (List.length_pos_iff.2 hne)
  have hdelta : (0 + (Ml.TraceRecord.ofAgent r).deltaTsUs - 0 : Int) =
      (lastGapUs prevTsNs evs : Int) := by
    rw [Int.zero_add, Int.sub_zero, ← hgap]
    rfl
  rw [hlastTs, hdelta, Int.cast_natCast] at hduration hmean
  exact ⟨hduration, hmean⟩

/-- Training and scoring see the same timing: the durations differ by at most `n` microseconds and
the mean inter-arrival times by at most one. -/
def TimingAgrees (n : Nat) (server ml : List R) : Prop :=
  ∃ durationSec durationSec' meanInterArrival meanInterArrival' : R,
    server[580]? = some durationSec ∧ ml[580]? = some durationSec' ∧
      server[581]? = some meanInterArrival ∧ ml[581]? = some meanInterArrival' ∧
      |durationSec' - durationSec| ≤ (n : R) / 10 ^ 6 ∧
      |meanInterArrival' - meanInterArrival| ≤ 1 / 10 ^ 6

/-- On features in microseconds both bounds say the same. -/
theorem timingAgrees_iff [IsStrictOrderedRing R] {n span gap : Nat} (hn : 0 < n)
    {server ml : List R}
    (hserver : server[580]? = some ((span : R) / 10 ^ 6) ∧
      server[581]? = some ((span : R) / 10 ^ 6 / (n : R)))
    (hml : ml[580]? = some ((gap : R) / 10 ^ 6) ∧
      ml[581]? = some ((gap : R) / 10 ^ 6 / (n : R))) :
    TimingAgrees n server ml ↔ span ≤ gap + n ∧ gap ≤ span + n := by
  have hpos : (0 : R) < n := Nat.cast_pos.2 hn
  have hcast : |(gap : R) - span| ≤ n ↔ span ≤ gap + n ∧ gap ≤ span + n := by
    rw [abs_le, neg_le_sub_iff_le_add, sub_le_iff_le_add']
    norm_cast
  -- in microseconds both bounds become the same one
  have hduration : |(gap : R) / 10 ^ 6 - span / 10 ^ 6| ≤ (n : R) / 10 ^ 6 ↔
      |(gap : R) - span| ≤ n := by
    rw [← sub_div, abs_div, abs_of_pos (by positivity : (0 : R) < 10 ^ 6)]
    exact div_le_div_iff_of_pos_right (by positivity)
  have hmean : |(gap : R) / 10 ^ 6 / n - span / 10 ^ 6 / n| ≤ 1 / 10 ^ 6 ↔
      |(gap : R) - span| ≤ n := by
    rw [← sub_div, ← sub_div, abs_div, abs_div, abs_of_pos hpos,
      abs_of_pos (by positivity : (0 : R) < 10 ^ 6), div_right_comm,
      div_le_div_iff_of_pos_right (by positivity), div_le_one hpos]
  rw [← hcast]
  constructor
  · rintro ⟨d, d', m, m', h1, h2, h3, h4, hd, hm⟩
    rw [hserver.1, Option.some.injEq] at h1
    rw [hml.1, Option.some.injEq] at h2
    rw [← h1, ← h2] at hd
    exact hduration.1 hd
  · intro h
    exact ⟨_, _, _, _, hserver.1, hml.1, hserver.2, hml.2, hduration.2 h, hmean.2 h⟩

/-- The last gap is close enough to the span: of a single event, the gap to the event before it is
at most one microsecond; of `n` events, the span exceeds the last gap by at most `n`. -/
def GapCoversSpan (prevTsNs : UInt64) (first : SyscallEvent) (rest : List SyscallEvent) : Prop :=
  if rest = [] then lastGapUs prevTsNs [first] ≤ 1
  else spanUs first rest ≤ lastGapUs first.tsNs rest + (rest.length + 1)

instance (prevTsNs : UInt64) (first : SyscallEvent) (rest : List SyscallEvent) :
    Decidable (GapCoversSpan prevTsNs first rest) :=
  inferInstanceAs (Decidable (if rest = [] then lastGapUs prevTsNs [first] ≤ 1
    else spanUs first rest ≤ lastGapUs first.tsNs rest + (rest.length + 1)))

end Durations

/-- An event at a given time. -/
def timedEvent (tsNs : UInt64) : SyscallEvent where
  tsNs := tsNs
  pid := 1
  tid := 1
  cgroupId := 1
  syscallId := 0
  argClass := 1
  argBucket := 0

end DeepKernel.Features
