import DeepKernel.Server.Ingest
import DeepKernel.System.SyscallFeatures

/-!
# From the tracepoint to the stored windows

The texts of the windows reach the server in any order, some of them never and some of them several
times. The server answers a text that it cannot read with 400 and hands the others to
`ingestWindow`. The rows that it stores are exactly the scored arrivals of blocks whose clock fits
(`stored_windows_iff`): every row is the score of consecutive syscalls of its container, and a text
that arrives twice is stored twice.
-/

set_option autoImplicit false

namespace DeepKernel.System

open DeepKernel.Lib DeepKernel.Agent DeepKernel.Kernel DeepKernel.Features

open DeepKernel.Server (Controller IngestEnv ServerState AnomalyWindow saveWindow_of_fresh)

/-- Two lists that are related element by element, at an index. -/
theorem forall₂_getElem? {α β : Type} {r : α → β → Prop} {l : List α} {l' : List β}
    (h : List.Forall₂ r l l') (n : Nat) :
    (l[n]? = none ∧ l'[n]? = none) ∨ ∃ x y, l[n]? = some x ∧ l'[n]? = some y ∧ r x y := by
  by_cases hn : n < l.length
  · have hn' : n < l'.length := h.length_eq ▸ hn
    exact Or.inr ⟨_, _, List.getElem?_eq_getElem hn, List.getElem?_eq_getElem hn', h.get hn hn'⟩
  · have hn' : ¬ n < l'.length := h.length_eq ▸ hn
    exact Or.inl ⟨List.getElem?_eq_none (not_lt.1 hn), List.getElem?_eq_none (not_lt.1 hn')⟩

section Arrivals

variable {R : Type} [Field R] [LinearOrder R]

/-- The text of a window of a container, by its number, reaches the server. -/
structure Arrival (R : Type) where
  containerId : ByteString
  number : Nat
  env : IngestEnv R

/-- What the server does with a text. -/
def receiveWindow (ctl : Controller R) (env : IngestEnv R) (body : ByteString) (s : ServerState R) :
    ServerState R :=
  match readPayload body with
  | none => s
  | some payload => (ctl.ingestWindow env payload s).state

/-- What the server does with an arrival. -/
def receive (ctl : Controller R) (ps : List Post) (s : ServerState R) (a : Arrival R) :
    ServerState R :=
  match (bodiesOf a.containerId ps)[a.number]? with
  | none => s
  | some body => receiveWindow ctl a.env body s

/-- The part of a stored window that is from the scorer. -/
structure ScoredRow (R : Type) where
  id : String
  containerId : String
  windowStart : Int
  mlScore : R
  anomalous : Bool

def scoredRow (w : AnomalyWindow R) : ScoredRow R :=
  ⟨w.id, w.containerId, w.windowStart, w.mlScore, w.anomalous⟩

/-- The row of an arrival: the score of the syscalls of its block, with the time of the first of them
in milliseconds. -/
def Arrival.Row (log : R → R) (blocks : List (List SysEnter)) (name : String) (a : Arrival R)
    (row : ScoredRow R) : Prop :=
  ∃ block first vec score, blocks[a.number]? = some block ∧ block.head? = some first ∧
    ClockFits block ∧ CallFeatures log block vec ∧ a.env.scoreWindow name vec = some score ∧
    row = ⟨a.env.windowId, name, (first.ktimeNs.toNat / 1000000 : Nat), score.score,
      score.anomalous⟩

/-! ## One arrival -/

omit [LinearOrder R] in
theorem Arrival.Row.id_eq {log : R → R} {blocks : List (List SysEnter)} {name : String}
    {a : Arrival R} {row : ScoredRow R} (h : a.Row log blocks name row) :
    row.id = a.env.windowId := by
  obtain ⟨block, first, vec, score, -, -, -, -, -, rfl⟩ := h
  rfl

/-- The start of a stored window is exact. -/
theorem toInt_div_million {t : Int64} {n : Nat} (h : t.toInt = n) :
    (t / 1000000).toInt = (n / 1000000 : Nat) := by
  have hmillion : (1000000 : Int64).toInt = 1000000 := rfl
  rw [Int64.toInt_div_of_ne_right _ _ (by decide), h, hmillion]
  rfl

/-- A request stores the row of its score, or none. -/
theorem rows_ingestWindow (ctl : Controller R) (env : IngestEnv R)
    (payload : Server.ShortWindowPayload) {s : ServerState R}
    (hfresh : ∀ w ∈ s.windows, w.id ≠ env.windowId) :
    (ctl.ingestWindow env payload s).state.windows.map scoredRow =
      s.windows.map scoredRow ++
        ((env.scoreWindow payload.containerId (Server.extract ctl.log payload)).map fun score =>
          ⟨env.windowId, payload.containerId, (payload.windowStartTsNs / 1000000).toInt,
            score.score, score.anomalous⟩).toList := by
  cases hscore : env.scoreWindow payload.containerId (Server.extract ctl.log payload) with
  | none =>
      rw [Controller.ingestWindow_of_no_score hscore, Option.map_none, Option.toList_none,
        List.append_nil, (Controller.ensureContainerRegistered_rows _ _ _).1]
  | some score =>
      cases htriage : ctl.triageWindow env payload
          (Server.pendingWindow payload env.windowId score) with
      | none =>
          rw [(Controller.ingestWindow_of_no_triage hscore htriage).windows,
            saveWindow_of_fresh hfresh, List.map_append]
          rfl
      | some triageResult =>
          rw [(Controller.ingestWindow_of_triage hscore htriage).windows,
            saveWindow_of_fresh hfresh, List.map_append]
          rfl

section Run

variable [IsStrictOrderedRing R] (ctl : Controller R) (cfg : Setup) (files : FileSystem)
  (steps : List CaptureStep) {agentName : String}
  (name : ByteString → String)

/-- An arrival adds its row, if it has one. -/
theorem rows_receive {a : Arrival R}
    (hids : PlainIds cfg.agentId a.containerId agentName (name a.containerId)) {s : ServerState R}
    (hfresh : ∀ w ∈ s.windows, w.id ≠ a.env.windowId) :
    ∃ new : Option (ScoredRow R),
      (receive ctl (capturePosts cfg (.init files) steps) s a).windows.map scoredRow =
          s.windows.map scoredRow ++ new.toList ∧
        ∀ row, new = some row ↔
          a.Row ctl.log (blocksOf cfg a.containerId (handled [] steps)).1 (name a.containerId)
            row := by
  rw [receive]
  have hread := readAs_blocksOf ctl.log cfg files steps hids
  rcases forall₂_getElem? hread a.number with ⟨hbody, hblock⟩ | ⟨body, block, hbody, hblock, h⟩
  · -- there is no such window
    rw [hbody]
    refine ⟨none, by simp, fun row => iff_of_false (by simp) ?_⟩
    rintro ⟨block, -, -, -, hsome, -⟩
    rw [hblock] at hsome
    cases hsome
  rw [hbody]
  simp only [receiveWindow]
  by_cases hfits : ClockFits block
  · obtain ⟨payload, hpayload, hof⟩ := h.read_of_clockFits hfits
    obtain ⟨first, hfirst, hstart⟩ := Option.map_eq_some_iff.1 hof.start_eq
    simp only [hpayload]
    refine ⟨_, rows_ingestWindow ctl a.env payload hfresh, fun row => ?_⟩
    rw [hof.containerId_eq, toInt_div_million hstart.symm, Option.map_eq_some_iff]
    constructor
    · rintro ⟨score, hscore, rfl⟩
      exact ⟨block, first, _, score, hblock, hfirst, hfits, hof.features, hscore, rfl⟩
    · rintro ⟨block', first', vec, score, hblock', hfirst', -, hfeatures, hscore, rfl⟩
      rw [hblock] at hblock'
      obtain rfl := Option.some.inj hblock'
      rw [hfirst] at hfirst'
      obtain rfl := Option.some.inj hfirst'
      rw [hfeatures.unique hof.features] at hscore
      exact ⟨score, hscore, rfl⟩
  · rw [h.rejected_of_not_clockFits hfits]
    refine ⟨none, by simp, fun row => iff_of_false (by simp) ?_⟩
    rintro ⟨block', -, -, -, hblock', -, hfits', -⟩
    rw [hblock] at hblock'
    obtain rfl := Option.some.inj hblock'
    exact hfits hfits'

/-! ## Runs -/

/-- From any state: the ids stay different, and the rows are the old ones and those of the arrivals. -/
theorem rows_arrivals {arrivals : List (Arrival R)}
    (hids : ∀ a ∈ arrivals,
      PlainIds cfg.agentId a.containerId agentName (name a.containerId))
    (hnodup : (arrivals.map fun a => a.env.windowId).Nodup) {s : ServerState R}
    (hstored : (s.windows.map (·.id)).Nodup)
    (hfresh : ∀ w ∈ s.windows, ∀ a ∈ arrivals, w.id ≠ a.env.windowId) :
    ((arrivals.foldl (receive ctl (capturePosts cfg (.init files) steps)) s).windows.map
        (·.id)).Nodup ∧
      ∀ row, row ∈ (arrivals.foldl (receive ctl (capturePosts cfg (.init files) steps))
            s).windows.map scoredRow ↔
          row ∈ s.windows.map scoredRow ∨ ∃ a ∈ arrivals,
            a.Row ctl.log (blocksOf cfg a.containerId (handled [] steps)).1 (name a.containerId)
              row := by
  induction arrivals generalizing s with
  | nil => exact ⟨hstored, fun row => by simp⟩
  | cons a arrivals ih =>
      obtain ⟨new, hrows, hnew⟩ := rows_receive ctl cfg files steps name
        (hids a List.mem_cons_self) fun w hw => hfresh w hw a List.mem_cons_self
      rw [List.map_cons, List.nodup_cons] at hnodup
      obtain ⟨hid, hrest⟩ := hnodup
      have hrowIds : ∀ t : ServerState R, t.windows.map (·.id) =
          (t.windows.map scoredRow).map (·.id) := by
        intro t
        rw [List.map_map]
        rfl
      -- a new row has the id of this arrival, which is not stored yet
      have hnewId : ∀ row ∈ new, row.id = a.env.windowId :=
        fun row hrow => ((hnew row).1 hrow).id_eq
      have hnext : ((receive ctl (capturePosts cfg (.init files) steps) s a).windows.map
          (·.id)).Nodup := by
        rw [hrowIds, hrows, List.map_append, ← hrowIds]
        refine hstored.append ?_ ?_
        · cases new <;> simp
        · intro id hold hadded
          obtain ⟨w, hw, rfl⟩ := List.mem_map.1 hold
          obtain ⟨row, hrow, heq⟩ := List.mem_map.1 hadded
          rw [hnewId row (Option.mem_toList.1 hrow)] at heq
          exact hfresh w hw a List.mem_cons_self heq.symm
      have hfreshNext : ∀ w ∈ (receive ctl (capturePosts cfg (.init files) steps) s a).windows,
          ∀ b ∈ arrivals, w.id ≠ b.env.windowId := by
        intro w hw b hb
        have hrow : scoredRow w ∈ s.windows.map scoredRow ++ new.toList :=
          hrows ▸ List.mem_map_of_mem hw
        rcases List.mem_append.1 hrow with hold | hadded
        · obtain ⟨w', hw', heq⟩ := List.mem_map.1 hold
          have hsame : w'.id = w.id := congrArg ScoredRow.id heq
          rw [← hsame]
          exact hfresh w' hw' b (List.mem_cons_of_mem _ hb)
        · have hwid : w.id = a.env.windowId := hnewId _ (Option.mem_toList.1 hadded)
          rw [hwid]
          exact fun heq => hid (heq ▸ List.mem_map_of_mem hb)
      obtain ⟨hfinal, hmem⟩ :=
        ih (fun b hb => hids b (List.mem_cons_of_mem _ hb)) hrest hnext hfreshNext
      refine ⟨hfinal, fun row => ?_⟩
      rw [List.foldl_cons, hmem, hrows, List.mem_append, Option.mem_toList, hnew, or_assoc]
      simp only [List.mem_cons, exists_eq_or_imp]

/-- Whatever becomes of the texts on their way, the rows of the server are those of the arrivals: the
scores of the blocks whose clock fits, one for each arrival that the scorer answers. -/
theorem stored_windows_iff (arrivals : List (Arrival R))
    (hids : ∀ a ∈ arrivals,
      PlainIds cfg.agentId a.containerId agentName (name a.containerId))
    (hnodup : (arrivals.map fun a => a.env.windowId).Nodup) :
    ((arrivals.foldl (receive ctl (capturePosts cfg (.init files) steps)) .init).windows.map
        (·.id)).Nodup ∧
      ∀ row, row ∈ (arrivals.foldl (receive ctl (capturePosts cfg (.init files) steps))
            .init).windows.map scoredRow ↔
          ∃ a ∈ arrivals,
            a.Row ctl.log (blocksOf cfg a.containerId (handled [] steps)).1 (name a.containerId)
              row := by
  obtain ⟨hfinal, hmem⟩ := rows_arrivals ctl cfg files steps name hids hnodup (s := .init)
    List.nodup_nil fun w hw => absurd hw List.not_mem_nil
  refine ⟨hfinal, fun row => (hmem row).trans (or_iff_right ?_)⟩
  exact List.not_mem_nil

end Run

end Arrivals

/-- Two syscalls of a container, five seconds apart. -/
def slowCalls : List CaptureStep :=
  [.sysEnter ⟨0, 5000, 0, 7⟩ true, .sysEnter ⟨1, 5000005000, 0, 7⟩ true,
    .consume (ascii "web") fun _ _ _ => true, .consume (ascii "web") fun _ _ _ => true]

/-- The text of their window, which arrives with a new id. -/
def arrivalAs (windowId : String) : Arrival ℚ :=
  ⟨ascii "web", 0, Server.exampleEnv ⟨1 / 10, false⟩ windowId "t1" "p1" .exception⟩

theorem row_arrivalAs (windowId : String) :
    (arrivalAs windowId).Row Server.exampleController.log
      (blocksOf pairSetup (ascii "web") (handled [] slowCalls)).1 "web"
      ⟨windowId, "web", 0, 1 / 10, false⟩ := by
  have hblocks : (blocksOf pairSetup (ascii "web") (handled [] slowCalls)).1 =
      [[⟨0, 5000, 0, 7⟩, ⟨1, 5000005000, 0, 7⟩]] := rfl
  have hfits : ClockFits [⟨0, 5000, 0, 7⟩, ⟨1, 5000005000, 0, 7⟩] := by
    intro first hfirst
    obtain rfl := Option.some.inj hfirst
    refine ⟨by decide, fun call hcall => ?_⟩
    rcases List.mem_pair.1 hcall with rfl | rfl
    · decide
    · decide
  rw [hblocks]
  exact ⟨_, _, _, _, rfl, rfl, hfits, callFeatures_extract _ rfl hfits "node-1" "web", rfl, rfl⟩

/-- A text that arrives twice is stored twice. -/
theorem stored_windows_repeated :
    ⟨"w1", "web", 0, 1 / 10, false⟩ ∈
        ([arrivalAs "w1", arrivalAs "w2"].foldl (receive Server.exampleController
          (capturePosts pairSetup (.init Table.empty) slowCalls)) .init).windows.map scoredRow ∧
      ⟨"w2", "web", 0, 1 / 10, false⟩ ∈
        ([arrivalAs "w1", arrivalAs "w2"].foldl (receive Server.exampleController
          (capturePosts pairSetup (.init Table.empty) slowCalls)) .init).windows.map scoredRow := by
  have hids : ∀ a ∈ [arrivalAs "w1", arrivalAs "w2"],
      PlainIds pairSetup.agentId a.containerId "node-1" "web" := by
    intro a ha
    have hcontainer : a.containerId = ascii "web" := by
      rcases List.mem_pair.1 ha with rfl | rfl
      · rfl
      · rfl
    rw [hcontainer]
    exact ⟨List.all_iff_forall_prop.mp (by decide), List.all_iff_forall_prop.mp (by decide),
      by decide +kernel, by decide +kernel⟩
  have hrows := (stored_windows_iff Server.exampleController pairSetup Table.empty slowCalls
    (fun _ => "web") [arrivalAs "w1", arrivalAs "w2"] hids (by decide)).2
  exact ⟨(hrows _).2 ⟨_, List.mem_cons_self, row_arrivalAs "w1"⟩,
    (hrows _).2 ⟨_, List.mem_cons_of_mem _ List.mem_cons_self, row_arrivalAs "w2"⟩⟩

end DeepKernel.System
