import DeepKernel.Agent.Core
import DeepKernel.Lib.Segmentation

/-!
# Short windows of the agent

The windows that the agent sends for one container, followed by its open window, are a greedy
segmentation of the accepted events of that container (`windows_eq_segmentFrom`); the calls for
other containers, the dumps and the cleanup do not take part in it.

`handleEvent` compares the size of a window after a cast to `int`. The segmentation is the intended
one, at the size itself, exactly as long as that cast never turns the comparison around. It does for
a window of `2 ^ 31` events.
-/

set_option autoImplicit false

namespace DeepKernel.Agent

open DeepKernel.Lib

/-! ## Windows of one container -/

/-- The window that a post carries for a container: the start sent with it and its events. -/
def sentWindow (c : ByteString) (p : Post) : Option (UInt64 × List SyscallEvent) :=
  match p.payload with
  | .window _ c' start events => if c' = c then some (start, events) else none
  | .dumpComplete _ _ _ _ _ _ => none

/-- The windows sent for a container. -/
def windowsOf (c : ByteString) (ps : List Post) : List (UInt64 × List SyscallEvent) :=
  ps.filterMap (sentWindow c)

/-- The window of a container that has not been sent yet. -/
def AgentState.openWindow (a : AgentState) (c : ByteString) : List SyscallEvent :=
  (a.buffer c).currentShortWindow

/-- The test of `handleEvent` on a window, read off the window itself. -/
def cutsWindow (cfg : Setup) (w : List SyscallEvent) : Bool :=
  match w.head?, w.getLast? with
  | some first, some last =>
      decide (cfg.shortWindowSec.toInt64.toUInt64 * 1000000000 ≤ last.tsNs - first.tsNs) &&
        decide (cfg.minEventsPerWindow ≤ Int32.ofNat w.length)
  | _, _ => false

/-! ## One call -/

theorem windowsOf_append (c : ByteString) (ps qs : List Post) :
    windowsOf c (ps ++ qs) = windowsOf c ps ++ windowsOf c qs :=
  List.filterMap_append

theorem sentWindow_dumpCompletePost (cfg : Setup) (net : Net) (b : ContainerBuffer)
    (c : ByteString) : sentWindow c (dumpCompletePost cfg net b) = none := rfl

/-- `appendLongDump` leaves the window alone and sends no window. -/
theorem appendLongDump_window (cfg : Setup) (net : Net) (files : FileSystem) (b : ContainerBuffer)
    (evt : SyscallEvent) :
    (appendLongDump cfg net files b evt).2.1.currentShortWindow = b.currentShortWindow ∧
      (appendLongDump cfg net files b evt).2.1.windowStartTsNs = b.windowStartTsNs ∧
      (appendLongDump cfg net files b evt).2.1.containerId = b.containerId ∧
      ∀ c, windowsOf c (appendLongDump cfg net files b evt).2.2 = [] := by
  unfold appendLongDump
  split
  · split
    · exact ⟨rfl, rfl, rfl, fun c => by simp [windowsOf, sentWindow_dumpCompletePost]⟩
    · exact ⟨rfl, rfl, rfl, fun c => rfl⟩
  · exact ⟨rfl, rfl, rfl, fun c => rfl⟩

/-- The start kept with a window is the timestamp of its first event. -/
def StartMatches (b : ContainerBuffer) : Prop :=
  ∀ first, b.currentShortWindow.head? = some first → b.windowStartTsNs = first.tsNs

theorem startMatches_default : StartMatches {} := by
  intro first h
  simp at h

theorem windowStart_pushEvent {b : ContainerBuffer} (hb : StartMatches b) (k : ByteString)
    (ev first : SyscallEvent) (hfirst : (b.currentShortWindow ++ [ev]).head? = some first) :
    (pushEvent b k ev).windowStartTsNs = first.tsNs := by
  cases hw : b.currentShortWindow with
  -- an empty window takes its start from the event, any other keeps the start it has
  | nil =>
      rw [hw] at hfirst
      cases hfirst
      simp [pushEvent, hw]
  | cons x xs =>
      rw [hw] at hfirst
      cases hfirst
      simpa [pushEvent, hw] using hb first (by simp [hw])

theorem head?_concat_exists (w : List SyscallEvent) (ev : SyscallEvent) :
    ∃ first, (w ++ [ev]).head? = some first := by
  cases w with
  | nil => exact ⟨ev, rfl⟩
  | cons x xs => exact ⟨x, rfl⟩

/-- The test of `handleEvent` on the buffer is the test on the window. -/
theorem windowComplete_eq (cfg : Setup) (net : Net) (files : FileSystem) {b : ContainerBuffer}
    (hb : StartMatches b) (k : ByteString) (ev : SyscallEvent) :
    windowComplete cfg (appendLongDump cfg net files (pushEvent b k ev) ev).2.1 ev =
      cutsWindow cfg (b.currentShortWindow ++ [ev]) := by
  obtain ⟨hwin, hstart, -, -⟩ := appendLongDump_window cfg net files (pushEvent b k ev) ev
  obtain ⟨first, hfirst⟩ := head?_concat_exists b.currentShortWindow ev
  have hlast : (b.currentShortWindow ++ [ev]).getLast? = some ev := by simp
  rw [windowComplete, cutsWindow, hfirst, hlast, hwin, hstart,
    windowStart_pushEvent hb k ev first hfirst]
  rfl

/-- `processShortWindow` sends a non-empty window with the start kept for it. -/
theorem processShortWindow_window (cfg : Setup) (net : Net) {b : ContainerBuffer}
    (hne : b.currentShortWindow ≠ []) :
    (processShortWindow cfg net b).1.currentShortWindow = [] ∧
      ∀ c, windowsOf c (processShortWindow cfg net b).2 =
        if b.containerId = c then [(b.windowStartTsNs, b.currentShortWindow)] else [] := by
  have hempty : b.currentShortWindow.isEmpty = false := by simpa using hne
  unfold processShortWindow
  rw [if_neg (by simp [hempty])]
  refine ⟨rfl, fun c => ?_⟩
  by_cases hc : b.containerId = c
  · simp [windowsOf, sentWindow, postJsonWithRetry, hc]
  · simp [windowsOf, sentWindow, postJsonWithRetry, hc]

/-- What the event's own container does to its window. -/
theorem handleOwn_window (cfg : Setup) (net : Net) (files : FileSystem) {b : ContainerBuffer}
    (hb : StartMatches b) (k : ByteString) (ev : SyscallEvent) :
    StartMatches (handleOwn cfg net files b k ev).2.1 ∧
      (handleOwn cfg net files b k ev).2.1.currentShortWindow =
        (segmentFrom (cutsWindow cfg) b.currentShortWindow [ev]).2 ∧
      (windowsOf k (handleOwn cfg net files b k ev).2.2).map Prod.snd =
        (segmentFrom (cutsWindow cfg) b.currentShortWindow [ev]).1 ∧
      (∀ sw ∈ windowsOf k (handleOwn cfg net files b k ev).2.2,
        sw.2.head?.map (·.tsNs) = some sw.1) ∧
      ∀ c, c ≠ k → windowsOf c (handleOwn cfg net files b k ev).2.2 = [] := by
  obtain ⟨hwin, hstart, hid, hnone⟩ := appendLongDump_window cfg net files (pushEvent b k ev) ev
  have hcut := windowComplete_eq cfg net files hb k ev
  obtain ⟨first, hfirst⟩ := head?_concat_exists b.currentShortWindow ev
  rw [windowStart_pushEvent hb k ev first hfirst] at hstart
  simp only [handleOwn, windowsOf_append, hnone, List.nil_append, hcut]
  -- from here only the four facts about the appended buffer matter
  generalize appendLongDump cfg net files (pushEvent b k ev) ev = r at hwin hstart hid
  have hw : r.2.1.currentShortWindow = b.currentShortWindow ++ [ev] := hwin
  have hk : r.2.1.containerId = k := hid
  cases h : cutsWindow cfg (b.currentShortWindow ++ [ev]) with
  | false =>
      rw [segmentFrom_cons_of_not_cut h, segmentFrom_nil]
      refine ⟨fun x hx => ?_, hw, rfl, fun sw hsw => absurd hsw List.not_mem_nil, fun c _ => rfl⟩
      rw [if_neg Bool.false_ne_true, hw, hfirst] at hx
      rw [if_neg Bool.false_ne_true, hstart, Option.some.inj hx]
  | true =>
      obtain ⟨hreset, hsent⟩ := processShortWindow_window cfg net (b := r.2.1) (by simp [hw])
      rw [segmentFrom_cons_of_cut h, segmentFrom_nil, if_pos rfl]
      refine ⟨fun x hx => ?_, hreset, ?_, ?_, ?_⟩
      · rw [hreset] at hx
        exact absurd hx (by simp)
      · rw [hsent, if_pos hk, hw]
        rfl
      · intro sw hsw
        rw [hsent, if_pos hk, List.mem_singleton] at hsw
        rw [hsw, hw, hfirst, hstart]
        rfl
      · intro c hc
        rw [hsent, hk, if_neg (Ne.symm hc)]

theorem expire_window (nowNs : UInt64) (b : ContainerBuffer) :
    (expire nowNs b).currentShortWindow = b.currentShortWindow ∧
      (expire nowNs b).windowStartTsNs = b.windowStartTsNs := by
  unfold expire
  split
  · exact ⟨rfl, rfl⟩
  · exact ⟨rfl, rfl⟩

/-- The sweeps after an event leave every window alone: a buffer that the cleanup erases has an
empty window, as the buffer that replaces it later. -/
theorem swept_some_window (a : AgentState) (nowNs : UInt64) {b : ContainerBuffer}
    (hb : StartMatches b) :
    ((((some b).map (expire nowNs)).filter (survives a nowNs)).getD {}).currentShortWindow =
        b.currentShortWindow ∧
      StartMatches ((((some b).map (expire nowNs)).filter (survives a nowNs)).getD {}) := by
  obtain ⟨hwin, hstart⟩ := expire_window nowNs b
  rw [Option.map_some, Option.filter_some]
  cases hs : survives a nowNs (expire nowNs b) with
  | true =>
      rw [if_pos rfl, Option.getD_some]
      refine ⟨hwin, fun first hfirst => ?_⟩
      rw [hwin] at hfirst
      rw [hstart]
      exact hb first hfirst
  | false =>
      -- only a buffer without a window is erased
      have hempty : b.currentShortWindow = [] := by
        simp only [survives, isInactive, Bool.or_eq_false_iff, Bool.not_eq_false',
          Bool.and_eq_true, List.isEmpty_iff] at hs
        rw [← hwin]
        exact hs.2.2
      rw [if_neg Bool.false_ne_true, Option.getD_none, hempty]
      exact ⟨rfl, startMatches_default⟩

theorem swept_find?_window (a : AgentState) (nowNs : UInt64) {c : ByteString}
    (hb : StartMatches (a.buffer c)) :
    ((((a.buffers.find? c).map (expire nowNs)).filter (survives a nowNs)).getD
        {}).currentShortWindow = (a.buffer c).currentShortWindow ∧
      StartMatches
        ((((a.buffers.find? c).map (expire nowNs)).filter (survives a nowNs)).getD {}) := by
  unfold AgentState.buffer at hb ⊢
  cases h : a.buffers.find? c with
  | none => exact ⟨rfl, startMatches_default⟩
  | some b =>
      rw [h, Option.getD_some] at hb
      exact swept_some_window a nowNs hb

/-- The windows and starts of all containers. -/
def StartsMatch (a : AgentState) : Prop := ∀ c, StartMatches (a.buffer c)

theorem startsMatch_init (files : FileSystem) : StartsMatch (AgentState.init files) :=
  fun _ => startMatches_default

theorem windowsOf_expired (cfg : Setup) (net : Net) (nowNs : UInt64) (c : ByteString)
    (es : List (ByteString × ContainerBuffer)) :
    windowsOf c (es.flatMap fun e =>
      if isExpired nowNs e.2 then [dumpCompletePost cfg net e.2] else []) = [] := by
  simp only [windowsOf, List.filterMap_eq_nil_iff, List.mem_flatMap]
  rintro p ⟨e, -, hp⟩
  split at hp
  · rw [List.mem_singleton] at hp
    subst hp
    exact sentWindow_dumpCompletePost cfg net e.2 c
  · exact absurd hp List.not_mem_nil

theorem windowsOf_handleAccepted (cfg : Setup) (net : Net) (a : AgentState) (k : ByteString)
    (ev : SyscallEvent) (c : ByteString) :
    windowsOf c (handleAccepted cfg net a k ev).2 =
      windowsOf c (handleOwn cfg net a.files (a.buffer k) k ev).2.2 := by
  rw [posts_handleAccepted, windowsOf_append, windowsOf_expired, List.append_nil]

/-- The windows of one container across an accepted event. -/
theorem handleAccepted_window (cfg : Setup) (net : Net) {a : AgentState} (ha : StartsMatch a)
    (k : ByteString) (ev : SyscallEvent) (c : ByteString) :
    StartMatches ((handleAccepted cfg net a k ev).1.buffer c) ∧
      (handleAccepted cfg net a k ev).1.openWindow c =
        (segmentFrom (cutsWindow cfg) (a.openWindow c) (if k = c then [ev] else [])).2 ∧
      (windowsOf c (handleAccepted cfg net a k ev).2).map Prod.snd =
        (segmentFrom (cutsWindow cfg) (a.openWindow c) (if k = c then [ev] else [])).1 ∧
      ∀ sw ∈ windowsOf c (handleAccepted cfg net a k ev).2, sw.2.head?.map (·.tsNs) = some sw.1 := by
  obtain ⟨hstart, hwin, hsent, hheads, hothers⟩ :=
    handleOwn_window cfg net a.files (ha k) k ev
  -- unfolding first keeps the kernel from evaluating the two segmentations against each other
  unfold AgentState.openWindow
  rw [windowsOf_handleAccepted, buffer_handleAccepted]
  generalize handleOwn cfg net a.files (a.buffer k) k ev = own at hstart hwin hsent hheads hothers
  by_cases hc : c = k
  -- the loop moves on the event for its own container and rests for every other one
  · subst hc
    obtain ⟨hswept, hmatch⟩ := swept_some_window a ev.tsNs hstart
    rw [if_pos rfl, if_pos rfl]
    exact ⟨hmatch, hswept.trans hwin, hsent, hheads⟩
  · obtain ⟨hswept, hmatch⟩ := swept_find?_window a ev.tsNs (ha c)
    rw [if_neg hc, if_neg (Ne.symm hc), segmentFrom_nil, hothers c hc]
    exact ⟨hmatch, hswept, rfl, fun sw hsw => absurd hsw List.not_mem_nil⟩

theorem requestLongDump_window (cfg : Setup) {a : AgentState} (ha : StartsMatch a)
    (k : ByteString) (d : Int32) (env : DumpEnv) (c : ByteString) :
    StartMatches ((requestLongDump cfg a k d env).buffer c) ∧
      (requestLongDump cfg a k d env).openWindow c = a.openWindow c := by
  by_cases hc : c = k
  · subst hc
    unfold requestLongDump AgentState.openWindow
    dsimp only
    split
    · simp only [AgentState.buffer, Table.find?_set_self, Option.getD_some]
      exact ⟨ha c, rfl⟩
    · simp only [AgentState.buffer, Table.find?_set_self, Option.getD_some]
      exact ⟨ha c, trivial⟩
  · have hfind : (requestLongDump cfg a k d env).buffers.find? c = a.buffers.find? c := by
      unfold requestLongDump
      dsimp only
      split <;> exact Table.find?_set_of_ne _ _ hc
    simp only [AgentState.openWindow, AgentState.buffer, hfind]
    exact ⟨ha c, trivial⟩

/-- One call moves the windows of a container as the segmentation loop moves on the accepted event
of the call, if it belongs to the container. -/
theorem step_window (cfg : Setup) {a : AgentState} (ha : StartsMatch a) (op : Op)
    (c : ByteString) :
    StartMatches ((step cfg a op).1.buffer c) ∧
      (step cfg a op).1.openWindow c =
        (segmentFrom (cutsWindow cfg) (a.openWindow c) (acceptedFor cfg c op).toList).2 ∧
      (windowsOf c (step cfg a op).2).map Prod.snd =
        (segmentFrom (cutsWindow cfg) (a.openWindow c) (acceptedFor cfg c op).toList).1 ∧
      ∀ sw ∈ windowsOf c (step cfg a op).2, sw.2.head?.map (·.tsNs) = some sw.1 := by
  rcases step_cases cfg op with ⟨k, d, env, rfl⟩ | ⟨hacc, hstep⟩ | ⟨net, k, ev, hacc, hstep⟩
  · obtain ⟨hmatch, hopen⟩ := requestLongDump_window cfg ha k d env c
    exact ⟨hmatch, hopen, rfl, fun sw hsw => absurd hsw List.not_mem_nil⟩
  · simp only [hstep, acceptedFor, hacc, Option.bind_none, Option.toList_none, segmentFrom_nil]
    exact ⟨ha c, trivial, rfl, fun sw hsw => absurd hsw List.not_mem_nil⟩
  · rw [hstep, acceptedFor_toList hacc]
    exact handleAccepted_window cfg net ha k ev c

/-! ## Whole runs -/

/-- The windows of a run are the segmentation of the container's accepted events, whatever the run
does for other containers. -/
theorem windows_eq_segmentFrom (cfg : Setup) {a : AgentState} (ha : StartsMatch a)
    (ops : List Op) (c : ByteString) :
    ((windowsOf c (posts cfg a ops)).map Prod.snd, (after cfg a ops).openWindow c) =
        segmentFrom (cutsWindow cfg) (a.openWindow c) (acceptedOf cfg c ops) ∧
      ∀ sw ∈ windowsOf c (posts cfg a ops), sw.2.head?.map (·.tsNs) = some sw.1 := by
  induction ops generalizing a with
  | nil => exact ⟨rfl, fun sw hsw => absurd hsw List.not_mem_nil⟩
  | cons op ops ih =>
      have hstep := fun c => step_window cfg ha op c
      obtain ⟨-, hopen, hsent, hheads⟩ := hstep c
      obtain ⟨hrun, hruns⟩ := ih fun c => (hstep c).1
      simp only [posts, after, outputs_cons, finalState_cons, windowsOf_append] at hrun hruns ⊢
      constructor
      · rw [acceptedOf_cons, segmentFrom_append, List.map_append, ← hsent, ← hopen, ← hrun]
      · intro sw hsw
        rcases List.mem_append.1 hsw with h | h
        · exact hheads sw h
        · exact hruns sw h

/-! ## The intended segmentation -/

/-- A window is old enough: from its first to its last event, as unsigned 64-bit numbers, at least
`shortWindowSec` seconds pass. -/
def WindowAged (cfg : Setup) (w : List SyscallEvent) : Prop :=
  ∃ first last, w.head? = some first ∧ w.getLast? = some last ∧
    cfg.shortWindowSec.toInt * 10 ^ 9 ≤ ((last.tsNs.toNat : Int) - first.tsNs.toNat) % 2 ^ 64

/-- A window is due: old enough and of the configured size. -/
def WindowDue (cfg : Setup) (w : List SyscallEvent) : Prop :=
  WindowAged cfg w ∧ cfg.minEventsPerWindow.toInt ≤ w.length

/-- The windows of a container are what they are meant to be after a run: each is sent with the
timestamp of its first event, and together with the open window they are the greedy segmentation of
the accepted events of the container. -/
structure WindowsGreedy (cfg : Setup) (files : FileSystem) (ops : List Op) (c : ByteString) :
    Prop where
  starts : ∀ sw ∈ windowsOf c (posts cfg (.init files) ops),
    sw.2.head?.map (·.tsNs) = some sw.1
  greedy : IsGreedy (WindowDue cfg) (acceptedOf cfg c ops)
    ((windowsOf c (posts cfg (.init files) ops)).map Prod.snd)
    ((after cfg (.init files) ops).openWindow c)

/-- The comparison of a window's size survives the cast to `int`: either the size is below
`2 ^ 31`, or the wrapped size still reaches the minimum. -/
def SizeFits (cfg : Setup) (w : List SyscallEvent) : Prop :=
  w.length < 2 ^ 31 ∨ cfg.minEventsPerWindow ≤ Int32.ofNat w.length

/-- The size comparison of a call is made on a size that fits, if the window is old enough for the
comparison to matter. -/
def FitsAt (cfg : Setup) (c : ByteString) (a : AgentState) (op : Op) : Prop :=
  ∀ ev, acceptedFor cfg c op = some ev → WindowAged cfg (a.openWindow c ++ [ev]) →
    SizeFits cfg (a.openWindow c ++ [ev])

theorem toNat_seconds {s : Int32} (h : 0 ≤ s) :
    ((s.toInt64.toUInt64 * 1000000000).toNat : Int) = s.toInt * 10 ^ 9 := by
  have h0 : 0 ≤ s.toInt := by simpa [Int32.le_iff_toInt_le] using h
  have hlt := s.toInt_lt
  have h64 : (0 : Int64) ≤ s.toInt64 := by simpa [Int64.le_iff_toInt_le] using h0
  have hclamp : s.toInt64.toNatClampNeg = s.toInt.toNat := by simp [Int64.toNatClampNeg]
  have hbillion : (1000000000 : UInt64).toNat = 1000000000 := rfl
  rw [UInt64.toNat_mul, Int64.toNat_toUInt64_of_le h64, hclamp, hbillion]
  omega

theorem cutsWindow_iff {cfg : Setup} (hsec : 0 ≤ cfg.shortWindowSec) (w : List SyscallEvent) :
    cutsWindow cfg w = true ↔
      WindowAged cfg w ∧ cfg.minEventsPerWindow ≤ Int32.ofNat w.length := by
  cases hfirst : w.head? with
  | none => simp [cutsWindow, WindowAged, hfirst]
  | some first =>
      cases hlast : w.getLast? with
      | none => simp [cutsWindow, WindowAged, hlast]
      | some last =>
          have hage : cfg.shortWindowSec.toInt64.toUInt64 * 1000000000 ≤ last.tsNs - first.tsNs ↔
              WindowAged cfg w := by
            rw [UInt64.le_iff_toNat_le, ← Int.ofNat_le, toNat_seconds hsec, toNat_sub_eq_emod]
            simp [WindowAged, hfirst, hlast]
          simp only [cutsWindow, hfirst, hlast, Bool.and_eq_true, decide_eq_true_eq, hage]

/-- On a window the code's test agrees with the intended one exactly when the size fits or the
window is too young for the size to matter. -/
theorem cutsWindow_agrees_iff {cfg : Setup} (hsec : 0 ≤ cfg.shortWindowSec)
    (w : List SyscallEvent) :
    (cutsWindow cfg w = true ↔ WindowDue cfg w) ↔ (WindowAged cfg w → SizeFits cfg w) := by
  have hmin := cfg.minEventsPerWindow.toInt_lt
  rw [cutsWindow_iff hsec, WindowDue, SizeFits]
  by_cases haged : WindowAged cfg w
  · simp only [haged, true_and, true_imp_iff]
    by_cases hlen : w.length < 2 ^ 31
    · have hexact : (Int32.ofNat w.length).toInt = w.length := Int32.toInt_ofNat_of_lt hlen
      rw [Int32.le_iff_toInt_le, hexact]
      exact iff_of_true Iff.rfl (Or.inl hlen)
    · have hreach : cfg.minEventsPerWindow.toInt ≤ w.length := by omega
      simp only [hlen, hreach, iff_true, false_or]
  · simp [haged]

/-- The windows that a run examines for a container are its open windows at the accepted events. -/
theorem forall_examined_iff (cfg : Setup) {a : AgentState} (ha : StartsMatch a) (ops : List Op)
    (c : ByteString) (P : List SyscallEvent → Prop) :
    (∀ v ∈ examined (cutsWindow cfg) (a.openWindow c) (acceptedOf cfg c ops), P v) ↔
      ∀ pre op post, ops = pre ++ op :: post → ∀ ev, acceptedFor cfg c op = some ev →
        P ((after cfg a pre).openWindow c ++ [ev]) := by
  induction ops generalizing a with
  | nil => simp [acceptedOf, examined]
  | cons op ops ih =>
      have hnext : StartsMatch (step cfg a op).1 := fun c => (step_window cfg ha op c).1
      have hopen := (step_window cfg ha op c).2.1
      -- a call of the run is the first one or a later one
      have hsplit : (∀ pre op' post, op :: ops = pre ++ op' :: post → ∀ ev,
            acceptedFor cfg c op' = some ev → P ((after cfg a pre).openWindow c ++ [ev])) ↔
          (∀ ev, acceptedFor cfg c op = some ev → P (a.openWindow c ++ [ev])) ∧
            ∀ pre op' post, ops = pre ++ op' :: post → ∀ ev, acceptedFor cfg c op' = some ev →
              P ((after cfg (step cfg a op).1 pre).openWindow c ++ [ev]) := by
        constructor
        · intro h
          exact ⟨fun ev hev => h [] op ops rfl ev hev,
            fun pre op' post hops => h (op :: pre) op' post (by rw [hops, List.cons_append])⟩
        · rintro ⟨hhead, htail⟩ pre op' post hops
          cases pre with
          | nil =>
              rw [List.nil_append, List.cons.injEq] at hops
              obtain ⟨rfl, -⟩ := hops
              exact hhead
          | cons o pre =>
              rw [List.cons_append, List.cons.injEq] at hops
              obtain ⟨rfl, hops⟩ := hops
              exact htail pre op' post hops
      rw [hsplit, ← ih hnext, acceptedOf_cons]
      cases hacc : acceptedFor cfg c op with
      | none =>
          rw [hacc, Option.toList_none, segmentFrom_nil] at hopen
          simp [hopen]
      | some ev =>
          rw [hacc, Option.toList_some] at hopen
          -- the step cuts the window where the segmentation does
          have hwin : (step cfg a op).1.openWindow c =
              if cutsWindow cfg (a.openWindow c ++ [ev]) then [] else a.openWindow c ++ [ev] := by
            rw [hopen]
            cases hcut : cutsWindow cfg (a.openWindow c ++ [ev]) with
            | true => rw [segmentFrom_cons_of_cut hcut]; rfl
            | false => rw [segmentFrom_cons_of_not_cut hcut]; rfl
          simp only [Option.toList_some, List.cons_append, List.nil_append, examined, List.mem_cons,
            forall_eq_or_imp, hwin, Option.some.injEq, forall_eq']

/-- The windows of a container are the intended ones exactly when, at each of its accepted events
that finds the window old enough, the size of the window survives the cast to `int`. -/
theorem windowsGreedy_iff_fitsAt (cfg : Setup) (hsec : 0 ≤ cfg.shortWindowSec) (files : FileSystem)
    (ops : List Op) (c : ByteString) :
    WindowsGreedy cfg files ops c ↔
      ∀ pre op post, ops = pre ++ op :: post → FitsAt cfg c (after cfg (.init files) pre) op := by
  have hinit := startsMatch_init files
  obtain ⟨hrun, hheads⟩ := windows_eq_segmentFrom cfg hinit ops c
  have hempty : (AgentState.init files).openWindow c = [] := rfl
  rw [hempty] at hrun
  have hiff := segmentFrom_isGreedy_iff (cutsWindow cfg) (WindowDue cfg) [] (acceptedOf cfg c ops)
    fun p hp hne => absurd (List.prefix_nil.1 hp) hne
  rw [List.nil_append, ← hrun] at hiff
  have hexam := forall_examined_iff cfg hinit ops c
    fun w => cutsWindow cfg w = true ↔ WindowDue cfg w
  rw [hempty] at hexam
  calc WindowsGreedy cfg files ops c
      ↔ IsGreedy (WindowDue cfg) (acceptedOf cfg c ops)
          ((windowsOf c (posts cfg (.init files) ops)).map Prod.snd)
          ((after cfg (.init files) ops).openWindow c) := ⟨fun h => h.greedy, fun h => ⟨hheads, h⟩⟩
    _ ↔ ∀ v ∈ examined (cutsWindow cfg) [] (acceptedOf cfg c ops),
          (cutsWindow cfg v = true ↔ WindowDue cfg v) := hiff
    _ ↔ _ := hexam
    _ ↔ _ := by
      simp only [cutsWindow_agrees_iff hsec, FitsAt]

/-- In a run, the windows of every container are the greedy segmentation of its accepted events if
and only if no accepted event finds an old enough window whose size the cast to `int` drops below
the minimum. -/
theorem windows_greedy_iff (cfg : Setup) (hsec : 0 ≤ cfg.shortWindowSec) (files : FileSystem)
    (ops : List Op) :
    (∀ c, WindowsGreedy cfg files ops c) ↔
      ∀ pre op post, ops = pre ++ op :: post →
        ∀ c, FitsAt cfg c (after cfg (.init files) pre) op := by
  simp only [windowsGreedy_iff_fitsAt cfg hsec]
  exact ⟨fun h pre op post hops c => h c pre op post hops,
    fun h c pre op post hops => h pre op post hops c⟩

/-- In a run of fewer than `2 ^ 31` calls every size fits. -/
theorem fitsAt_of_length_lt (cfg : Setup) (files : FileSystem) (c : ByteString)
    (pre post : List Op) (op : Op) (hlen : (pre ++ op :: post).length < 2 ^ 31) :
    FitsAt cfg c (after cfg (.init files) pre) op := by
  intro ev _ _
  left
  obtain ⟨hrun, -⟩ := windows_eq_segmentFrom cfg (startsMatch_init files) pre c
  have hopen := (Prod.ext_iff.1 hrun).2
  have hle := length_segmentFrom_le (cutsWindow cfg) [] (acceptedOf cfg c pre)
  have hacc : (acceptedOf cfg c pre).length ≤ pre.length := List.length_filterMap_le _ _
  change (after cfg (.init files) pre).openWindow c =
    (segmentFrom (cutsWindow cfg) [] (acceptedOf cfg c pre)).2 at hopen
  rw [hopen]
  simp only [List.length_append, List.length_cons, List.length_nil] at hlen hle ⊢
  omega

/-! ## A window of `2 ^ 31` events -/

theorem cutsWindow_replicate (ev : SyscallEvent) (n : Nat) :
    cutsWindow defaultSetup (List.replicate n ev) = false := by
  cases n with
  | zero => rfl
  | succ n =>
      have hyoung : ¬ (5 : Int32).toInt64.toUInt64 * 1000000000 ≤ ev.tsNs - ev.tsNs := by
        rw [UInt64.sub_self]
        decide
      have hlast : (List.replicate (n + 1) ev).getLast? = some ev := by
        simp [List.getLast?_replicate]
      rw [cutsWindow, List.replicate_succ, List.head?_cons, ← List.replicate_succ, hlast]
      exact Bool.and_eq_false_iff.2 (Or.inl (decide_eq_false hyoung))

/-- Events at one point in time never complete a window of the default configuration. -/
theorem openWindow_replicate (n : Nat) :
    (after defaultSetup (.init Table.empty) (List.replicate n (eventAt 0))).openWindow (ascii "a") =
      List.replicate n (mapEvent (kernelEventAt 0)) := by
  have hlist : acceptedOf defaultSetup (ascii "a") (List.replicate n (eventAt 0)) =
      List.replicate n (mapEvent (kernelEventAt 0)) := by
    simp only [acceptedOf, List.filterMap_replicate, acceptedFor_eventAt]
  obtain ⟨hrun, -⟩ := windows_eq_segmentFrom defaultSetup (startsMatch_init Table.empty)
    (List.replicate n (eventAt 0)) (ascii "a")
  have hseg := segmentFrom_replicate (cutsWindow defaultSetup) (mapEvent (kernelEventAt 0))
    (cutsWindow_replicate _) 0 n
  have hempty : (AgentState.init Table.empty).openWindow (ascii "a") =
      List.replicate 0 (mapEvent (kernelEventAt 0)) := rfl
  rw [hlist, hempty, hseg, Nat.zero_add] at hrun
  exact (Prod.ext_iff.1 hrun).2

/-- After `n` events at time zero, an event five seconds later does not close a window of
`n + 1 = 2 ^ 31` events. -/
theorem not_windowsGreedy_of_size {n : Nat} (hn : n + 1 = 2 ^ 31) :
    ¬ WindowsGreedy defaultSetup Table.empty
      (List.replicate n (eventAt 0) ++ [eventAt 5000000000]) (ascii "a") := by
  intro h
  have hfit := (windowsGreedy_iff_fitsAt defaultSetup (by decide) Table.empty _ _).1 h
    (List.replicate n (eventAt 0)) (eventAt 5000000000) [] rfl _ (acceptedFor_eventAt 5000000000)
  rw [openWindow_replicate] at hfit
  have hpos : n = (n - 1) + 1 := by omega
  have haged : WindowAged defaultSetup (List.replicate n (mapEvent (kernelEventAt 0)) ++
      [mapEvent (kernelEventAt 5000000000)]) := by
    refine ⟨mapEvent (kernelEventAt 0), mapEvent (kernelEventAt 5000000000), ?_, by simp, by decide⟩
    rw [hpos, List.replicate_succ, List.cons_append, List.head?_cons]
  have hlen : (List.replicate n (mapEvent (kernelEventAt 0)) ++
      [mapEvent (kernelEventAt 5000000000)]).length = 2 ^ 31 := by
    rw [List.length_append, List.length_replicate, List.length_singleton, hn]
  rcases hfit haged with hlt | hmin
  · rw [hlen] at hlt
    exact Nat.lt_irrefl _ hlt
  · rw [hlen] at hmin
    exact absurd hmin (by decide)

/-- The failing run: the window reaches `2 ^ 31` events five seconds after its start and is not
sent. -/
theorem windows_greedy_fails :
    ¬ WindowsGreedy defaultSetup Table.empty
      (List.replicate (2 ^ 31 - 1) (eventAt 0) ++ [eventAt 5000000000]) (ascii "a") :=
  not_windowsGreedy_of_size (by norm_num)

/-- A run meets the condition in which the third event closes a window and the fourth one opens the
next. -/
theorem windows_greedy_cut :
    WindowsGreedy { minEventsPerWindow := 3 } Table.empty
        [eventAt 1, eventAt 2, eventAt 6000000000, eventAt 7000000000] (ascii "a") ∧
      (windowsOf (ascii "a") (posts { minEventsPerWindow := 3 } (.init Table.empty)
        [eventAt 1, eventAt 2, eventAt 6000000000, eventAt 7000000000])).length = 1 := by
  refine ⟨(windows_greedy_iff { minEventsPerWindow := 3 } (by decide) Table.empty _).2
    (fun pre op post hops c => ?_) (ascii "a"), by decide +kernel⟩
  refine fitsAt_of_length_lt { minEventsPerWindow := 3 } Table.empty c pre post op ?_
  rw [← hops]
  decide

end DeepKernel.Agent
