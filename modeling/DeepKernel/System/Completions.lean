import DeepKernel.System.TrainingDump

/-!
# Completion messages of training dumps

The training protocol with messages that can be sent several times, delayed and delivered in any
order. A message of the agent carries the container only. For the statement every dump request gets
a number, and a message remembers the number of the dump that produced it; neither program sees
these numbers. A request for a container whose dump is active takes that dump over, so its
completion belongs to the newer request.

A message arrives at `TrainingService.handleDumpComplete`. The question is in which runs the entries
that training starts create become ready only after a message of their own dump
(`ReadyOnlyAfterOwn`).
-/

set_option autoImplicit false

namespace DeepKernel.System

open DeepKernel.Lib DeepKernel.Agent DeepKernel.Server

/-! ## The protocol -/

/-- A completion in flight: the container that the server reads from it, and the dump that
produced it. -/
structure Message where
  containerId : String
  dump : Nat
  deriving DecidableEq

/-- An entry that a training start created: its container, its place in the list of versions, and
the dump that was requested for it. -/
structure Created where
  containerId : String
  index : Nat
  dump : Nat
  deriving DecidableEq

/-- Both programs, the messages in flight and what has happened so far. `dumpOf` is the request
that the dump of a container of the agent belongs to. -/
structure ProtocolState where
  agent : AgentState
  server : TrainingState
  requests : Nat
  dumpOf : Table ByteString Nat
  inFlight : List Message
  received : List Nat
  created : List Created

/-- Both programs have just been started. -/
def ProtocolState.init (files : FileSystem) : ProtocolState where
  agent := .init files
  server := .init
  requests := 0
  dumpOf := Table.empty
  inFlight := []
  received := []
  created := []

/-- A step of the protocol. `env` is `none` if a dump command does not reach the agent. -/
inductive ProtocolOp
  | event (evt : KernelSyscallEvent) (containerName : ByteString) (net : Net)
  | request (containerId : ByteString) (durationSec : Int32) (env : DumpEnv)
  | start (containerId : String) (durationSec : Int32) (remote : Option ModelMeta) (now : Int)
      (env : Option DumpEnv)
  | deliver (index : Nat)
  | getMeta (containerId : String) (remote : Option ModelMeta) (now : Int)
  | sync (answers : List ModelRegistry.SyncAnswer)
  | clear

section Step

variable (cfg : Setup) (wire : Wire)

/-- A request sets up a dump: the stream of the container is open after it. -/
def requestStarts (a : AgentState) (k : ByteString) (env : DumpEnv) : Bool :=
  ((a.buffer k).longDumpStream.openFile a.files (dumpFilePath cfg k env.timestamp)
    env.canOpen).2.isOpen

/-- A dump request at the agent, with the number it gets. -/
def ProtocolState.request (s : ProtocolState) (k : ByteString) (d : Int32) (env : DumpEnv) :
    ProtocolState :=
  { s with
    agent := requestLongDump cfg s.agent k d env
    requests := s.requests + 1
    dumpOf := if requestStarts cfg s.agent k env then s.dumpOf.set k s.requests else s.dumpOf }

/-- The messages of a post: one for every attempt. -/
def messagesOf (dumpOf : Table ByteString Nat) (p : Post) : List Message :=
  match p.payload with
  | .window _ _ _ _ => []
  | .dumpComplete _ k _ _ _ _ =>
      match wire.completion p.payload.body, dumpOf.find? k with
      | some c, some d => List.replicate p.attempts ⟨c, d⟩
      | _, _ => []

/-- One step. -/
def ProtocolState.next (s : ProtocolState) : ProtocolOp → ProtocolState
  | .event evt containerName net =>
      let handled := handleEvent cfg net s.agent evt containerName
      { s with
        agent := handled.1
        inFlight := s.inFlight ++ handled.2.flatMap (messagesOf wire s.dumpOf) }
  | .request k d env => s.request cfg k d env
  | .start c d remote now env =>
      let entry : Created :=
        ⟨c, (s.server.registry.list c ++ s.server.registry.cachedBy c remote now).length,
          s.requests⟩
      let started :=
        { s with
          server := (s.server.startOrchestratedTraining c remote now false).1
          created := s.created ++ [entry] }
      -- the start gets a number also when its command is lost
      match env, wire.command c d with
      | some env, some (k, d') => started.request cfg k d' env
      | _, _ => { started with requests := s.requests + 1 }
  | .deliver index =>
      match s.inFlight[index]? with
      | none => s
      | some m =>
          { s with
            server := s.server.handleDumpComplete m.containerId
            inFlight := s.inFlight.eraseIdx index
            received := m.dump :: s.received }
  | .getMeta c remote now => { s with server := s.server.step (.getMeta c remote now) }
  | .sync answers => { s with server := s.server.step (.sync answers) }
  | .clear => { s with server := s.server.step .clear, created := [] }

end Step

/-! ## The property and its invariant -/

/-- An entry that a training start created is ready only if a message of its dump has been
received. -/
def ReadyOnlyAfterOwn (s : ProtocolState) : Prop :=
  ∀ x ∈ s.created, ∀ e, (s.server.registry.list x.containerId)[x.index]? = some e →
    e.status = .ready → x.dump ∈ s.received

/-- The created entries are in the lists. -/
def CreatedListed (s : ProtocolState) : Prop :=
  ∀ x ∈ s.created, x.index < (s.server.registry.list x.containerId).length

/-- A delivered message that finds a job of its container, the latest entry having the version of
the job, comes from the dump that was requested for that entry, or a message of that dump has been
received before. All other steps are harmless. -/
def OwnMessage (s : ProtocolState) : ProtocolOp → Prop
  | .deliver index =>
      ∀ m, s.inFlight[index]? = some m →
        ∀ e, s.server.registry.latest m.containerId = some e →
          s.server.jobs.find? m.containerId = some e.version →
            ∀ x ∈ s.created, x.containerId = m.containerId →
              x.index + 1 = (s.server.registry.list m.containerId).length →
                x.dump = m.dump ∨ x.dump ∈ s.received
  | _ => True

/-- Lists that only grow keep both properties. -/
theorem keeps_of_prefix {s s' : ProtocolState} (hcreated : s'.created = s.created)
    (hreceived : s'.received = s.received)
    (hlist : ∀ c, s.server.registry.list c <+: s'.server.registry.list c) (h : CreatedListed s) :
    CreatedListed s' ∧ (ReadyOnlyAfterOwn s → ReadyOnlyAfterOwn s') := by
  refine ⟨fun x hx => ?_, fun hready x hx e he hstatus => ?_⟩
  · rw [hcreated] at hx
    exact (h x hx).trans_le (hlist x.containerId).length_le
  · rw [hcreated] at hx
    rw [hreceived]
    refine hready x hx e ?_ hstatus
    obtain ⟨l, hl⟩ := hlist x.containerId
    rwa [← hl, List.getElem?_append_left (h x hx)] at he

/-! ## Steps -/

theorem list_handleDumpComplete_marks {s : TrainingState} {c : String} {e : ModelVersion}
    (hlatest : s.registry.latest c = some e) (hjob : s.jobs.find? c = some e.version) :
    (s.handleDumpComplete c).registry.list c =
      (s.registry.list c).dropLast ++ [{ e with status := .ready }] := by
  have hslot := slot_handleDumpComplete_some s c hjob hlatest
  rw [if_pos rfl] at hslot
  exact congrArg Prod.fst hslot

/-- A completion that does not find the job of the latest entry leaves all lists as they are. -/
theorem list_handleDumpComplete_of_not {s : TrainingState} {k : String} {c : String}
    (h : c = k → ∀ e, s.registry.latest k = some e → s.jobs.find? k ≠ some e.version) :
    (s.handleDumpComplete k).registry.list c = s.registry.list c := by
  by_cases hc : c = k
  · subst hc
    cases hjob : s.jobs.find? c with
    | none => exact congrArg Prod.fst (slot_handleDumpComplete_none s c hjob)
    | some v =>
        cases hlatest : s.registry.latest c with
        | none =>
            simp only [TrainingState.handleDumpComplete, hjob, ModelRegistry.setStatus, hlatest]
        | some e =>
            have hne : e.version ≠ v := by
              intro hv
              exact h rfl e hlatest (by rw [hjob, hv])
            have hslot := slot_handleDumpComplete_some s c hjob hlatest
            rw [if_neg hne, ← ModelRegistry.list_of_latest _ _ hlatest] at hslot
            exact congrArg Prod.fst hslot
  · exact congrArg Prod.fst (slot_handleDumpComplete_of_ne s c hc)

theorem prefix_foldl_syncOne (answers : List ModelRegistry.SyncAnswer) (r : ModelRegistry)
    (c : String) : r.list c <+: (answers.foldl ModelRegistry.syncOne r).list c := by
  induction answers generalizing r with
  | nil => exact List.prefix_rfl
  | cons a answers ih =>
      refine List.IsPrefix.trans ?_ (ih (r.syncOne a))
      rw [ModelRegistry.list_syncOne]
      split
      · exact List.prefix_append _ _
      · exact List.prefix_rfl

section Steps

variable (cfg : Setup) (wire : Wire) {s : ProtocolState} (h : CreatedListed s)

include h

/-- A training start appends an entry that is not ready. -/
theorem keeps_start (c : String) (d : Int32) (remote : Option ModelMeta) (now : Int)
    (env : Option DumpEnv) :
    CreatedListed (s.next cfg wire (.start c d remote now env)) ∧
      (ReadyOnlyAfterOwn s → ReadyOnlyAfterOwn (s.next cfg wire (.start c d remote now env))) := by
  -- What the properties read does not depend on whether the command reaches the agent.
  have hreads : ∃ entry : Created, entry.containerId = c ∧
      entry.index =
        (s.server.registry.list c ++ s.server.registry.cachedBy c remote now).length ∧
      (s.next cfg wire (.start c d remote now env)).created = s.created ++ [entry] ∧
      (s.next cfg wire (.start c d remote now env)).received = s.received ∧
      (s.next cfg wire (.start c d remote now env)).server =
        s.server.beginTraining c remote now := by
    refine ⟨⟨c, _, s.requests⟩, rfl, rfl, ?_⟩
    simp only [ProtocolState.next]
    split <;> exact ⟨rfl, rfl, rfl⟩
  obtain ⟨entry, hc, hindex, hcreated, hreceived, hserver⟩ := hreads
  have hslot : ∀ k, _ := fun k => congrArg Prod.fst (slot_beginTraining s.server k c remote now)
  have hlist : ∀ k, s.server.registry.list k <+:
      (s.server.beginTraining c remote now).registry.list k := by
    intro k
    rw [show (s.server.beginTraining c remote now).registry.list k = _ from hslot k]
    by_cases hk : k = c
    · rw [if_pos hk, hk, List.append_assoc]
      exact List.prefix_append _ _
    · rw [if_neg hk]
      exact List.prefix_rfl
  have hnew : (s.server.beginTraining c remote now).registry.list c = _ := hslot c
  rw [if_pos rfl] at hnew
  have hold : CreatedListed { s with server := s.server.beginTraining c remote now } ∧
      (ReadyOnlyAfterOwn s →
        ReadyOnlyAfterOwn { s with server := s.server.beginTraining c remote now }) :=
    keeps_of_prefix rfl rfl hlist h
  refine ⟨fun x hx => ?_, fun hready x hx e he hstatus => ?_⟩
  · rw [hcreated, List.mem_append, List.mem_singleton] at hx
    rw [hserver]
    rcases hx with hx | rfl
    · exact hold.1 x hx
    · rw [hc, hnew, hindex]
      simp
  · rw [hcreated, List.mem_append, List.mem_singleton] at hx
    rw [hserver] at he
    rw [hreceived]
    rcases hx with hx | rfl
    · exact hold.2 hready x hx e he hstatus
    -- the new entry is in training
    · rw [hc, hnew, hindex, List.getElem?_concat_length] at he
      cases he
      cases hstatus

omit h in
/-- A message that finds no job of the latest entry changes no list. -/
theorem keeps_idle_message {m : Message} (h : CreatedListed s)
    (hidle : ∀ e, s.server.registry.latest m.containerId = some e →
      s.server.jobs.find? m.containerId ≠ some e.version) (inFlight : List Message) :
    CreatedListed { s with
        server := s.server.handleDumpComplete m.containerId
        inFlight := inFlight
        received := m.dump :: s.received } ∧
      (ReadyOnlyAfterOwn s → ReadyOnlyAfterOwn { s with
        server := s.server.handleDumpComplete m.containerId
        inFlight := inFlight
        received := m.dump :: s.received }) := by
  have hlist : ∀ k, (s.server.handleDumpComplete m.containerId).registry.list k =
      s.server.registry.list k :=
    fun k => list_handleDumpComplete_of_not fun _ => hidle
  refine ⟨fun x hx => ?_, fun hready x hx e he hstatus => ?_⟩
  · rw [hlist]
    exact h x hx
  · rw [hlist] at he
    exact List.mem_cons_of_mem _ (hready x hx e he hstatus)

omit h in
/-- A message that finds the job of the latest entry marks this entry as ready, so the property
stays exactly if the message counts for it. -/
theorem keeps_marking_message {m : Message} (h : CreatedListed s) {e : ModelVersion}
    (hlatest : s.server.registry.latest m.containerId = some e)
    (hjob : s.server.jobs.find? m.containerId = some e.version) (inFlight : List Message) :
    CreatedListed { s with
        server := s.server.handleDumpComplete m.containerId
        inFlight := inFlight
        received := m.dump :: s.received } ∧
      (ReadyOnlyAfterOwn s → (ReadyOnlyAfterOwn { s with
          server := s.server.handleDumpComplete m.containerId
          inFlight := inFlight
          received := m.dump :: s.received } ↔
        ∀ x ∈ s.created, x.containerId = m.containerId →
          x.index + 1 = (s.server.registry.list m.containerId).length →
            x.dump = m.dump ∨ x.dump ∈ s.received)) := by
  have hlist := list_handleDumpComplete_marks hlatest hjob
  have hold := s.server.registry.list_of_latest m.containerId hlatest
  have hother : ∀ k, k ≠ m.containerId →
      (s.server.handleDumpComplete m.containerId).registry.list k = s.server.registry.list k :=
    fun k hk => list_handleDumpComplete_of_not fun hc => absurd hc hk
  refine ⟨fun x hx => ?_, fun hready => ⟨fun hafter => ?_, fun hown => ?_⟩⟩
  · have hlt := h x hx
    by_cases hx' : x.containerId = m.containerId
    · rw [hx'] at hlt ⊢
      rw [hold] at hlt
      rw [hlist]
      simpa using hlt
    · rwa [hother _ hx']
  -- the marked entry is ready, so the property names its dump among the received ones
  · intro x hx hx' hindex
    have hget : ((s.server.handleDumpComplete m.containerId).registry.list
        x.containerId)[x.index]? = some { e with status := .ready } := by
      rw [hold, List.length_append, List.length_singleton, Nat.add_right_cancel_iff] at hindex
      rw [hx', hlist, hindex, List.getElem?_concat_length]
    exact List.mem_cons.1 (hafter x hx _ hget rfl)
  · intro x hx e' he' hstatus
    by_cases hx' : x.containerId = m.containerId
    · by_cases hindex : x.index + 1 = (s.server.registry.list m.containerId).length
      · exact List.mem_cons.2 (hown x hx hx' hindex)
      · -- An entry before the latest one is what it was.
        have hlt := h x hx
        rw [hx'] at hlt he'
        rw [hold, List.length_append, List.length_singleton] at hlt hindex
        have hlt' : x.index < (s.server.registry.list m.containerId).dropLast.length := by
          omega
        rw [hlist, List.getElem?_append_left hlt'] at he'
        refine List.mem_cons_of_mem _ (hready x hx e' ?_ hstatus)
        rw [hx', hold, List.getElem?_append_left hlt']
        exact he'
    · rw [hother _ hx'] at he'
      exact List.mem_cons_of_mem _ (hready x hx e' he' hstatus)

/-- A delivered message keeps the property exactly when it is the entry's own. -/
theorem keeps_deliver (index : Nat) :
    CreatedListed (s.next cfg wire (.deliver index)) ∧
      (ReadyOnlyAfterOwn s →
        (ReadyOnlyAfterOwn (s.next cfg wire (.deliver index)) ↔
          OwnMessage s (.deliver index))) := by
  rw [ProtocolState.next]
  cases hm : s.inFlight[index]? with
  | none =>
      -- there is no such message
      refine ⟨h, fun hready => iff_of_true hready ?_⟩
      intro m hm'
      rw [hm] at hm'
      cases hm'
  | some m =>
      have honly : ∀ m', s.inFlight[index]? = some m' → m' = m := fun m' hm' =>
        Option.some.inj (hm'.symm.trans hm)
      by_cases hmarks : ∃ e, s.server.registry.latest m.containerId = some e ∧
          s.server.jobs.find? m.containerId = some e.version
      · -- the message marks the latest entry, which has to be its own
        obtain ⟨e, hlatest, hjob⟩ := hmarks
        obtain ⟨hlisted, hiff⟩ :=
          keeps_marking_message h hlatest hjob (s.inFlight.eraseIdx index)
        refine ⟨hlisted, fun hready => (hiff hready).trans ⟨fun hown m' hm' => ?_, fun hown => ?_⟩⟩
        · rw [honly m' hm']
          exact fun _ _ _ => hown
        · exact hown m hm e hlatest hjob
      · -- the message finds no open job and marks nothing
        have hidle : ∀ e, s.server.registry.latest m.containerId = some e →
            s.server.jobs.find? m.containerId ≠ some e.version :=
          fun e he hjob => hmarks ⟨e, he, hjob⟩
        obtain ⟨hlisted, hkeeps⟩ := keeps_idle_message h hidle (s.inFlight.eraseIdx index)
        refine ⟨hlisted, fun hready => iff_of_true (hkeeps hready) fun m' hm' e he hjob => ?_⟩
        rw [honly m' hm'] at he hjob
        exact absurd hjob (hidle e he)

/-- One step keeps the created entries listed, and keeps the property exactly when it delivers no
foreign message. -/
theorem keeps_next (op : ProtocolOp) :
    CreatedListed (s.next cfg wire op) ∧
      (ReadyOnlyAfterOwn s → (ReadyOnlyAfterOwn (s.next cfg wire op) ↔ OwnMessage s op)) := by
  have hgrow : ∀ {s' : ProtocolState}, s'.created = s.created → s'.received = s.received →
      (∀ c, s.server.registry.list c <+: s'.server.registry.list c) →
      CreatedListed s' ∧ (ReadyOnlyAfterOwn s → (ReadyOnlyAfterOwn s' ↔ True)) := by
    intro s' hcreated hreceived hlist
    obtain ⟨hlisted, hready⟩ := keeps_of_prefix hcreated hreceived hlist h
    exact ⟨hlisted, fun hs => iff_of_true (hready hs) trivial⟩
  cases op with
  | event evt name net => exact hgrow rfl rfl fun _ => List.prefix_rfl
  | request k d env => exact hgrow rfl rfl fun _ => List.prefix_rfl
  | start c d remote now env =>
      obtain ⟨hlisted, hready⟩ := keeps_start cfg wire h c d remote now env
      exact ⟨hlisted, fun hs => iff_of_true (hready hs) trivial⟩
  | deliver index => exact keeps_deliver cfg wire h index
  | getMeta c remote now =>
      refine hgrow rfl rfl fun k => ?_
      have hlist := ModelRegistry.list_getMeta s.server.registry k c remote now
      change _ <+: (s.server.registry.getMeta c remote now).1.list k
      rw [hlist]
      split
      · subst k
        exact List.prefix_append _ _
      · exact List.prefix_rfl
  | sync answers => exact hgrow rfl rfl fun k => prefix_foldl_syncOne answers s.server.registry k
  | clear =>
      -- no created entry is left
      refine ⟨fun x hx => ?_, fun _ => iff_of_true (fun x hx => ?_) trivial⟩
      · cases hx
      · cases hx

end Steps

/-! ## Runs -/

/-- In a run of the protocol every entry that a training start created becomes ready only after a
message of its own dump, in every state, exactly when every delivered message that finds the job of
the latest entry of its container comes from the dump requested for that entry, or after one that
does. -/
theorem completion_owner_iff (cfg : Setup) (wire : Wire) (files : FileSystem)
    (ops : List ProtocolOp) :
    (∀ pre, pre <+: ops →
        ReadyOnlyAfterOwn (pre.foldl (ProtocolState.next cfg wire) (.init files))) ↔
      ∀ pre op, pre ++ [op] <+: ops →
        OwnMessage (pre.foldl (ProtocolState.next cfg wire) (.init files)) op := by
  apply forall_prefix_iff (I := CreatedListed) (P := fun _ => True)
  · exact fun s op _ hs => (keeps_next cfg wire hs op).1
  · exact fun s op _ hs hready => (keeps_next cfg wire hs op).2 hready
  · exact fun x hx => nomatch hx
  · exact fun x hx => nomatch hx
  · exact fun _ _ => trivial

/-- A dump of the container `a` that a client requested from the agent completes; its message
arrives after a training start for `a`. -/
def foreignRun : List ProtocolOp :=
  [.request (ascii "a") 10
      { timestamp := ascii "20250101-000000", canOpen := true, monotonicNowNs := 1 },
    .event (kernelEventAt 20000000000) (ascii "a") (fun _ _ _ => true),
    .start "a" 10 none 0
      (some { timestamp := ascii "20250101-000001", canOpen := true, monotonicNowNs := 1 }),
    .deliver 0]

/-- The entry of the training start becomes ready by the message of the other dump. -/
theorem completion_owner_fails :
    ¬ ReadyOnlyAfterOwn
      (foreignRun.foldl (ProtocolState.next defaultSetup defaultDeployment.wire)
        (.init Table.empty)) := by
  intro h
  have hmem := h ⟨"a", 0, 1⟩ (by decide) { trainingVersion "a" 1 0 with status := .ready }
    (by decide) rfl
  revert hmem
  decide

end DeepKernel.System
