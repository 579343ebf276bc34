import DeepKernel.Agent.DumpRecords
import DeepKernel.Agent.SecondRequest

/-!
# The life cycle of a dump

A dump begins with a request that opens its file and ends with one completion, whichever of
`appendLongDump` and `stopExpiredLongDumps` comes first. In between a buffer has its dump active exactly
while its stream is open (`Synced`), which is what the other two parts rest on: the erase loop spares
the buffer, and no second completion follows without a request that opens a file again.
-/

set_option autoImplicit false

namespace DeepKernel.Agent

open DeepKernel.Lib

/-! ## Requests that open a file -/

/-- The run has a request for the container whose `open` succeeds. -/
def HasOpening (cfg : Setup) (c : ByteString) (a : AgentState) (ops : List Op) : Prop :=
  ∃ pre d env post, ops = pre ++ .request c d env :: post ∧
    requestOpens cfg (after cfg a pre) c env = true

/-- The call sends a completion for the container. -/
def Notifies (cfg : Setup) (c : ByteString) (a : AgentState) (op : Op) : Prop :=
  completionsOf c (step cfg a op).2 ≠ []

section Openings

variable {cfg : Setup} {c : ByteString} {a : AgentState}

/-- A call that activates a dump is a request that opens its file. -/
theorem opening_of_activation (ha : Synced a) {op : Op} (hbefore : ¬ (a.dump c).active = true)
    (hafter : ((step cfg a op).1.dump c).active = true) :
    ∃ d env, op = .request c d env ∧ requestOpens cfg a c env = true := by
  have hidle : (a.dump c).active = false := Bool.eq_false_iff.2 hbefore
  cases hreq : requests c op with
  | false =>
      have hstill : ((step cfg a op).1.dump c).active = false :=
        step_inactive ha hreq (Or.inl hidle)
      exact absurd (hafter.symm.trans hstill) (by decide)
  | true =>
      cases op with
      | event evt name net => exact absurd hreq (by simp [requests])
      | request k d env =>
          obtain rfl : k = c := by simpa [requests] using hreq
          refine ⟨d, env, rfl, ?_⟩
          rcases request_cases cfg a k env with hopen | hopens | ⟨hclosed, hcan⟩
          · -- the stream of an inactive dump is closed
            exact absurd (hopen.symm.trans ((ha.sync k).symm.trans hidle)) (by decide)
          · exact hopens
          · have hdump := (requestLongDump_of_not_opens cfg a k d env hclosed hcan).2
            have hstill := (congrArg Dump.active hdump).trans hidle
            exact absurd (hafter.symm.trans hstill) (by decide)

theorem hasOpening_of_active (ha : Synced a) (hbefore : (a.dump c).active = false) {ops : List Op}
    (hafter : ((after cfg a ops).dump c).active = true) : HasOpening cfg c a ops := by
  obtain ⟨pre, op, post, rfl, hidle, hactive⟩ :=
    exists_step_of_finalState (Q := fun s : AgentState => (s.dump c).active = true)
      (by rw [hbefore]; exact Bool.false_ne_true) hafter
  obtain ⟨d, env, rfl, hopens⟩ := opening_of_activation (synced_run cfg ha pre) hidle hactive
  exact ⟨pre, d, env, post, rfl, hopens⟩

/-- A completion ends an active dump. -/
theorem Notifies.ends (ha : Synced a) {op : Op} (h : Notifies cfg c a op) :
    (a.dump c).active = true ∧ ((step cfg a op).1.dump c).active = false := by
  obtain ⟨m, hm⟩ := List.exists_mem_of_ne_nil _ h
  obtain ⟨hactive, hclose⟩ := active_of_mem_completions ha hm
  exact ⟨hactive, step_inactive ha (requests_of_closes hclose c) (Or.inr hclose)⟩

theorem length_completions_le_one (ha : Synced a) (op : Op) :
    (completionsOf c (step cfg a op).2).length ≤ 1 := by
  rw [completionsOf_step cfg ha op c]
  split_ifs
  · exact le_refl 1
  · exact Nat.zero_le 1

end Openings

/-! ## The erase loop -/

/-- The state in which the erase loop of a call starts; after a request and after an event that is
filtered out there is none. -/
def beforeErase (cfg : Setup) (a : AgentState) : Op → AgentState
  | .event evt containerName net =>
      let mapped := mapEvent evt
      let containerId := mapContainerId containerName mapped.cgroupId
      if passesFilter cfg containerId then
        let own := handleOwn cfg net a.files (a.buffer containerId) containerId mapped
        (stopExpiredLongDumps cfg net mapped.tsNs
          { a with files := own.1, buffers := a.buffers.set containerId own.2.1 }).1
      else a
  | .request containerId durationSec env => requestLongDump cfg a containerId durationSec env

/-- What is left of a call is the erase loop. -/
theorem step_eq_erase (cfg : Setup) (a : AgentState) (op : Op) :
    (step cfg a op).1 = beforeErase cfg a op ∨
      ∃ nowNs, (step cfg a op).1 = cleanupInactiveBuffers nowNs (beforeErase cfg a op) := by
  cases op with
  | request containerId durationSec env => exact Or.inl rfl
  | event evt containerName net =>
      rw [step, handleEvent, beforeErase]
      dsimp only
      split_ifs
      · exact Or.inr ⟨_, rfl⟩
      · exact Or.inl rfl

/-- The loop spares the buffers with an active dump and those with events in their window. -/
theorem find?_cleanup_of_busy {a : AgentState} {k : ByteString} {b : ContainerBuffer}
    (hb : a.buffers.find? k = some b)
    (hbusy : b.isLongDumpActive = true ∨ b.currentShortWindow ≠ []) (nowNs : UInt64) :
    (cleanupInactiveBuffers nowNs a).buffers.find? k = some b := by
  have hsurvives : survives a nowNs b = true := by
    rw [survives, isInactive, Bool.or_eq_true, Bool.not_eq_true', Bool.and_eq_false_iff,
      Bool.and_eq_false_iff]
    rcases hbusy with hactive | hwindow
    · exact Or.inr (Or.inl (Or.inr (by rw [hactive]; rfl)))
    · exact Or.inr (Or.inr (List.isEmpty_eq_false_iff.2 hwindow))
  rw [find?_cleanupInactiveBuffers, hb, Option.filter_some, if_pos hsurvives]

/-- A buffer is not silent at the time of an event of its own. -/
theorem survives_own (cfg : Setup) (net : Net) (a : AgentState) (k : ByteString)
    (ev : SyscallEvent) :
    survives a ev.tsNs (expire ev.tsNs (handleOwn cfg net a.files (a.buffer k) k ev).2.1) = true := by
  rw [survives, isInactive, lastEventTsNs_expire, lastEventTsNs_handleOwn, UInt64.sub_self]
  have hfresh : decide (kInactiveThresholdNs < 0) = false := by decide
  rw [hfresh, Bool.false_and, Bool.false_and, Bool.not_false, Bool.or_true]

/-- A swept buffer that is erased has an empty window, and its dump was ended by the sweep if it was
active. -/
theorem expired_of_not_survives {a : AgentState} {nowNs : UInt64} {b : ContainerBuffer}
    (h : ¬ survives a nowNs (expire nowNs b) = true) :
    b.currentShortWindow = [] ∧ (b.isLongDumpActive = true → isExpired nowNs b = true) := by
  simp only [survives, Bool.or_eq_true, Bool.not_eq_true', not_or, Bool.not_eq_false,
    isInactive, Bool.and_eq_true, List.isEmpty_iff] at h
  obtain ⟨-, ⟨-, hended⟩, hwindow⟩ := h
  have hsame : (expire nowNs b).currentShortWindow = b.currentShortWindow := by
    rw [expire]
    split_ifs
    · rfl
    · rfl
  refine ⟨hsame.symm.trans hwindow, fun hactive => ?_⟩
  by_contra hnot
  rw [expire, if_neg hnot, hactive] at hended
  cases hended

/-- A call that removes the buffer of a container has found its window empty, and has ended its dump
before if it was active. -/
theorem erased_after_end {cfg : Setup} {a : AgentState} (ha : Synced a) {op : Op} {k : ByteString}
    {b : ContainerBuffer} (hb : a.buffers.find? k = some b)
    (herased : (step cfg a op).1.buffers.find? k = none) :
    b.currentShortWindow = [] ∧ (b.isLongDumpActive = true → Notifies cfg k a op) := by
  have hbuffer : a.buffer k = b := by rw [AgentState.buffer, hb, Option.getD_some]
  rcases step_cases cfg op with ⟨k', d, env, rfl⟩ | ⟨-, hstep⟩ | ⟨net, k', ev, hacc, hstep⟩
  · -- a request removes nothing
    by_cases hk : k = k'
    · subst hk
      obtain ⟨b', hb', -⟩ := requestLongDump_ids cfg a k d env
      exact absurd (hb'.symm.trans herased) (by simp)
    · rw [step, find?_requestLongDump_of_ne cfg a k' d env hk, hb] at herased
      cases herased
  · rw [hstep, hb] at herased
    cases herased
  · rw [hstep, find?_handleAccepted] at herased
    by_cases hk : k = k'
    · rw [if_pos hk, Option.map_some, Option.filter_some, survives_own, if_pos rfl] at herased
      cases herased
    · rw [if_neg hk, hb, Option.map_some, Option.filter_some] at herased
      split_ifs at herased with hsurvives
      obtain ⟨hwindow, hexpired⟩ := expired_of_not_survives hsurvives
      refine ⟨hwindow, fun hactive => ?_⟩
      have hclose : (a.dump k).closesAt ev = true := by
        rw [AgentState.dump, hbuffer]
        exact hexpired hactive
      rw [Notifies, hstep, completionsOf_handleAccepted cfg net ha k' ev k, if_pos hclose]
      exact List.cons_ne_nil _ _

/-! ## Runs -/

/-- The life cycle of the dumps of an agent that starts with some files, over all of its runs. -/
structure DumpLifeCycle (cfg : Setup) (files : FileSystem) : Prop where
  -- A dump is active exactly while its stream is open.
  active_iff : ∀ ops k b, (after cfg (.init files) ops).buffers.find? k = some b →
    (b.isLongDumpActive = true ↔ b.longDumpStream.isOpen = true)
  -- The erase loop of a call keeps the buffers with an active dump or a window.
  kept : ∀ ops op k b, (beforeErase cfg (after cfg (.init files) ops) op).buffers.find? k = some b →
    b.isLongDumpActive = true ∨ b.currentShortWindow ≠ [] →
      (after cfg (.init files) (ops ++ [op])).buffers.find? k = some b
  -- A buffer that a call removes had no window before the call, and no dump that the call has not
  -- ended.
  removed : ∀ ops op k b, (after cfg (.init files) ops).buffers.find? k = some b →
    (after cfg (.init files) (ops ++ [op])).buffers.find? k = none →
      b.currentShortWindow = [] ∧
        (b.isLongDumpActive = true → Notifies cfg k (after cfg (.init files) ops) op)
  -- A call sends at most one completion for a container.
  once : ∀ ops op c, (completionsOf c (step cfg (after cfg (.init files) ops) op).2).length ≤ 1
  -- There is no completion before a request has opened a file.
  first : ∀ ops op c, Notifies cfg c (after cfg (.init files) ops) op →
    HasOpening cfg c (.init files) ops
  -- Between two completions a request opens a file.
  between : ∀ ops op mid op' c, Notifies cfg c (after cfg (.init files) ops) op →
    Notifies cfg c (after cfg (.init files) (ops ++ op :: mid)) op' →
      HasOpening cfg c (after cfg (.init files) (ops ++ [op])) mid

theorem dump_life_cycle (cfg : Setup) (files : FileSystem) : DumpLifeCycle cfg files := by
  have hsynced : ∀ ops, Synced (after cfg (.init files) ops) := synced_run cfg (synced_init files)
  refine ⟨fun ops k b hb => ?_, fun ops op k b hb hbusy => ?_, fun ops op k b hb herased => ?_,
    fun ops op c => ?_, fun ops op c h => ?_, fun ops op mid op' c h h' => ?_⟩
  · have hsync := (hsynced ops).sync k
    rw [AgentState.dump, AgentState.buffer, hb, Option.getD_some] at hsync
    exact Bool.eq_iff_iff.1 hsync
  · rw [after_concat]
    rcases step_eq_erase cfg (after cfg (.init files) ops) op with hstep | ⟨nowNs, hstep⟩
    · rw [hstep]
      exact hb
    · rw [hstep]
      exact find?_cleanup_of_busy hb hbusy nowNs
  · rw [after_concat] at herased
    exact erased_after_end (hsynced ops) hb herased
  · exact length_completions_le_one (hsynced ops) op
  · exact hasOpening_of_active (synced_init files) rfl (h.ends (hsynced ops)).1
  · -- the first completion leaves the dump inactive, the second one needs it active
    have hsplit : ops ++ op :: mid = (ops ++ [op]) ++ mid := by simp
    have hidle := (h.ends (hsynced ops)).2
    have hactive := (h'.ends (hsynced (ops ++ op :: mid))).1
    rw [hsplit, after_append] at hactive
    rw [← after_concat] at hidle
    exact hasOpening_of_active (hsynced (ops ++ [op])) hidle hactive

end DeepKernel.Agent
