import DeepKernel.Server.Training

/-!
# Rolling back a failed training start

Calls of `startOrchestratedTraining` that run at the same time. A call takes effect in two steps:
everything up to the request to the agent (`start`), then the answer of the agent (`resolve`), with
the rollback if it is an exception. A run is any interleaving of such steps.

The rollback removes the latest entry and the job of the container, whoever made them. It undoes
just its own call when the container had no job and no other call for it begins in the meantime
(`FailedCall.Alone`), and the runs in which all failed calls are alone are the only ones in which
every rollback does.
-/

set_option autoImplicit false

namespace DeepKernel.Server

open DeepKernel.Lib

/-! ## Interleaved calls -/

/-- A step of one of the calls that run at the same time. -/
inductive CallStep
  | start (call : Nat) (containerId : String) (remote : Option ModelMeta) (now : Int)
  | resolve (call : Nat) (agentThrows : Bool)

/-- The service, and the calls that wait for the agent with their containers. -/
structure CallState where
  service : TrainingState
  waiting : Table Nat String

namespace CallState

/-- A state of the service in which no call waits. -/
def idle (s : TrainingState) : CallState := ⟨s, Table.empty⟩

/-- One step. The answer to a call that does not wait changes nothing. -/
def next (s : CallState) : CallStep → CallState
  | .start call c remote now =>
      { service := s.service.beginTraining c remote now, waiting := s.waiting.set call c }
  | .resolve call agentThrows =>
      match s.waiting.find? call with
      | none => s
      | some c =>
          { service := if agentThrows then s.service.rollbackTraining c else s.service
            waiting := s.waiting.erase call }

/-- The container whose latest entry and job a step removes. -/
def rollsBack (s : CallState) : CallStep → Option String
  | .start _ _ _ _ => none
  | .resolve call agentThrows => if agentThrows then s.waiting.find? call else none

end CallState

/-- The call that a step begins. -/
def CallStep.begun : CallStep → Option Nat
  | .start call _ _ _ => some call
  | .resolve _ _ => none

/-- The call that a step ends. -/
def CallStep.ended : CallStep → Option Nat
  | .start _ _ _ _ => none
  | .resolve call _ => some call

/-- Every call begins at most once and ends at most once. -/
structure WellFormed (ops : List CallStep) : Prop where
  begun : (ops.filterMap CallStep.begun).Nodup
  ended : (ops.filterMap CallStep.ended).Nodup

/-- A call whose request to the agent throws: the steps before it, the call, and the steps of
other calls while it waits. -/
structure FailedCall where
  pre : List CallStep
  call : Nat
  containerId : String
  remote : Option ModelMeta
  now : Int
  mid : List CallStep

namespace FailedCall

/-- The first step of the call. -/
def first (f : FailedCall) : CallStep := .start f.call f.containerId f.remote f.now

/-- The run up to the end of the rollback. -/
def steps (f : FailedCall) : List CallStep :=
  f.pre ++ f.first :: (f.mid ++ [.resolve f.call true])

/-- The state before the call. -/
def before (s : TrainingState) (f : FailedCall) : CallState :=
  f.pre.foldl CallState.next (.idle s)

/-- The state after the rollback. -/
def after (s : TrainingState) (f : FailedCall) : CallState :=
  f.steps.foldl CallState.next (.idle s)

/-- The state at the same point of the run without the call. -/
def without (s : TrainingState) (f : FailedCall) : CallState :=
  (f.pre ++ f.mid).foldl CallState.next (.idle s)

/-- What `getMeta` stores for the container. -/
def cached (s : TrainingState) (f : FailedCall) : List ModelVersion :=
  (f.before s).service.registry.cachedBy f.containerId f.remote f.now

/-- After the rollback the registry and the jobs are those of the run without the call, apart from
a ready entry that `getMeta` stored for the container. -/
def Undone (s : TrainingState) (f : FailedCall) : Prop :=
  ∀ k, (f.after s).service.registry.list k =
      (if k = f.containerId then (f.cached s).filter fun v => decide (v.status = .ready) else []) ++
      (f.without s).service.registry.list k ∧
    (f.after s).service.jobs.find? k = (f.without s).service.jobs.find? k

/-- The container has no job before the call, and no other call for it begins while this one
waits. -/
def Alone (s : TrainingState) (f : FailedCall) : Prop :=
  (f.before s).service.jobs.find? f.containerId = none ∧
    ∀ call remote now, CallStep.start call f.containerId remote now ∉ f.mid

/-- What `getMeta` stores for the container is ready. -/
def CachesReady (s : TrainingState) (f : FailedCall) : Prop :=
  ∀ v ∈ f.cached s, v.status = .ready

end FailedCall

/-! ## What one step does to a container -/

section Step

variable (s : CallState) (op : CallStep) (c : String)

/-- The step begins a call for the container. -/
def CallStep.starts : CallStep → Bool
  | .start _ k _ _ => decide (k = c)
  | .resolve _ _ => false

theorem slot_next_resolve (call : Nat) (agentThrows : Bool) :
    (s.next (.resolve call agentThrows)).service.slot c =
      if s.rollsBack (.resolve call agentThrows) = some c then
        ((s.service.registry.list c).dropLast, none)
      else s.service.slot c := by
  rw [CallState.next]
  cases hcall : s.waiting.find? call with
  | none => cases agentThrows <;> simp [CallState.rollsBack, hcall]
  | some k =>
      cases agentThrows with
      | false => simp [CallState.rollsBack]
      | true =>
          by_cases hk : c = k
          · simp [CallState.rollsBack, hcall, slot_rollbackTraining, hk]
          · simp [CallState.rollsBack, hcall, slot_rollbackTraining, hk, Ne.symm hk]

variable {s op c}

theorem slot_next_of_untouched (hstart : op.starts c = false) (hback : s.rollsBack op ≠ some c) :
    (s.next op).service.slot c = s.service.slot c := by
  cases op with
  | start call k remote now =>
      have hne : c ≠ k := fun h => by simp [CallStep.starts, h] at hstart
      rw [CallState.next, slot_beginTraining, if_neg hne]
  | resolve call agentThrows => rw [slot_next_resolve, if_neg hback]

/-- A job stays, or is replaced by another one, unless a rollback removes it. -/
theorem isSome_job_next (hback : s.rollsBack op ≠ some c)
    (hjob : (s.service.jobs.find? c).isSome ∨ op.starts c = true) :
    ((s.next op).service.jobs.find? c).isSome := by
  by_cases hstart : op.starts c = true
  · cases op with
    | start call k remote now =>
        obtain rfl : k = c := by simpa [CallStep.starts] using hstart
        have hslot := slot_beginTraining s.service k k remote now
        rw [if_pos rfl] at hslot
        have hjob' : (s.service.beginTraining k remote now).jobs.find? k = _ :=
          congrArg Prod.snd hslot
        rw [CallState.next, hjob']
        rfl
    | resolve call agentThrows => simp [CallStep.starts] at hstart
  · -- another step leaves the job as it was
    have hslot : (s.next op).service.slot c = s.service.slot c :=
      slot_next_of_untouched (by simpa using hstart) hback
    have hjob' : (s.next op).service.jobs.find? c = s.service.jobs.find? c :=
      congrArg Prod.snd hslot
    rw [hjob']
    exact hjob.resolve_right hstart

end Step

/-! ## Waiting calls -/

theorem waiting_next_of_ne {s : CallState} {op : CallStep} {call : Nat}
    (hbegun : op.begun ≠ some call) (hended : op.ended ≠ some call) :
    (s.next op).waiting.find? call = s.waiting.find? call := by
  cases op with
  | start z k remote now =>
      have hne : call ≠ z := fun h => hbegun (by rw [h]; rfl)
      exact Table.find?_set_of_ne _ _ hne
  | resolve z agentThrows =>
      have hne : call ≠ z := fun h => hended (by rw [h]; rfl)
      rw [CallState.next]
      cases s.waiting.find? z with
      | none => rfl
      | some k => simp [hne]

/-- A call that waits has begun. -/
theorem start_mem_of_waiting {s : TrainingState} {ops : List CallStep} {call : Nat} {c : String}
    (h : (ops.foldl CallState.next (.idle s)).waiting.find? call = some c) :
    ∃ remote now, CallStep.start call c remote now ∈ ops := by
  induction ops using List.reverseRecOn with
  | nil => cases h
  | append_singleton ops op ih =>
      rw [List.foldl_concat] at h
      have hlift : (ops.foldl CallState.next (.idle s)).waiting.find? call = some c →
          ∃ remote now, CallStep.start call c remote now ∈ ops ++ [op] := by
        intro hwait
        obtain ⟨remote, now, hmem⟩ := ih hwait
        exact ⟨remote, now, List.mem_append_left _ hmem⟩
      cases op with
      | start z k remote now =>
          -- only the start of a call puts it among the waiting ones
          rw [CallState.next, Table.find?_set] at h
          by_cases hz : call = z
          · rw [if_pos hz, Option.some.injEq] at h
            subst hz h
            exact ⟨remote, now, by simp⟩
          · rw [if_neg hz] at h
            exact hlift h
      | resolve z agentThrows =>
          rw [CallState.next] at h
          cases hz : (ops.foldl CallState.next (.idle s)).waiting.find? z with
          | none =>
              rw [hz] at h
              exact hlift h
          | some k =>
              -- the end of a call takes it away
              simp only [hz, Table.find?_erase] at h
              by_cases hcall : call = z
              · simp [hcall] at h
              · rw [if_neg hcall] at h
                exact hlift h

/-! ## The run with a call and the run without it -/

theorem slot_beginTraining_congr {s s' : TrainingState} {c : String} (h : s.slot c = s'.slot c)
    (k : String) (remote : Option ModelMeta) (now : Int) :
    (s.beginTraining k remote now).slot c = (s'.beginTraining k remote now).slot c := by
  rw [slot_beginTraining, slot_beginTraining]
  by_cases hc : c = k
  · subst hc
    have hlist : s.registry.list c = s'.registry.list c := congrArg Prod.fst h
    simp only [if_pos, ModelRegistry.cachedBy, ModelRegistry.baseVersion, ModelRegistry.latest,
      hlist]
  · rw [if_neg hc, if_neg hc, h]

/-- Two states that differ in one container and one waiting call only. -/
structure Twin (c : String) (call : Nat) (s s' : CallState) : Prop where
  slots : ∀ k, k ≠ c → s.service.slot k = s'.service.slot k
  waiting : ∀ z, z ≠ call → s.waiting.find? z = s'.waiting.find? z

section Twins

variable {c : String} {call : Nat} {s s' : CallState}

theorem Twin.start (s : CallState) (call : Nat) (c : String) (remote : Option ModelMeta)
    (now : Int) : Twin c call (s.next (.start call c remote now)) s where
  slots := fun k hk => by rw [CallState.next, slot_beginTraining, if_neg hk]
  waiting := fun z hz => Table.find?_set_of_ne _ _ hz

theorem Twin.rollsBack_eq (h : Twin c call s s') {op : CallStep} (hended : op.ended ≠ some call) :
    s.rollsBack op = s'.rollsBack op := by
  cases op with
  | start z k remote now => rfl
  | resolve z agentThrows =>
      have hne : z ≠ call := fun hz => hended (by rw [hz]; rfl)
      rw [CallState.rollsBack, CallState.rollsBack, h.waiting z hne]

/-- Steps of other calls keep the states apart in that container and that call only. -/
theorem Twin.next (h : Twin c call s s') {op : CallStep} (hended : op.ended ≠ some call) :
    Twin c call (s.next op) (s'.next op) := by
  cases op with
  | start z k remote now =>
      refine ⟨fun j hj => slot_beginTraining_congr (h.slots j hj) k remote now, fun y hy => ?_⟩
      simp only [CallState.next, Table.find?_set, h.waiting y hy]
  | resolve z agentThrows =>
      have hne : z ≠ call := fun hz => hended (by rw [hz]; rfl)
      refine ⟨fun j hj => ?_, fun y hy => ?_⟩
      · have hlist : s.service.registry.list j = s'.service.registry.list j :=
          congrArg Prod.fst (h.slots j hj)
        rw [slot_next_resolve, slot_next_resolve, h.rollsBack_eq hended, h.slots j hj, hlist]
      · rw [CallState.next, CallState.next, h.waiting z hne]
        cases s'.waiting.find? z with
        | none => exact h.waiting y hy
        | some k => simp only [Table.find?_erase, h.waiting y hy]

theorem Twin.foldl (h : Twin c call s s') {ops : List CallStep}
    (hended : ∀ op ∈ ops, op.ended ≠ some call) :
    Twin c call (ops.foldl CallState.next s) (ops.foldl CallState.next s') := by
  induction ops generalizing s s' with
  | nil => exact h
  | cons op ops ih =>
      rw [List.forall_mem_cons] at hended
      exact ih (h.next hended.1) hended.2

end Twins

/-! ## Containers that a run leaves alone -/

/-- No step of a run rolls the container back. -/
def NoRollback (c : String) (s : CallState) (ops : List CallStep) : Prop :=
  ∀ pre op, pre ++ [op] <+: ops → (pre.foldl CallState.next s).rollsBack op ≠ some c

theorem noRollback_cons {c : String} {s : CallState} {op : CallStep} {ops : List CallStep} :
    NoRollback c s (op :: ops) ↔ s.rollsBack op ≠ some c ∧ NoRollback c (s.next op) ops :=
  forall_concat_prefix_cons

/-- A container that no call begins for and that nothing rolls back stays as it is. -/
theorem slot_foldl_of_quiet {c : String} {s : CallState} {ops : List CallStep}
    (hstart : ∀ op ∈ ops, op.starts c = false) (hback : NoRollback c s ops) :
    (ops.foldl CallState.next s).service.slot c = s.service.slot c := by
  induction ops generalizing s with
  | nil => rfl
  | cons op ops ih =>
      rw [List.forall_mem_cons] at hstart
      obtain ⟨hop, hops⟩ := noRollback_cons.1 hback
      rw [List.foldl_cons, ih hstart.2 hops, slot_next_of_untouched hstart.1 hop]

/-- Without a rollback a job stays, and a call that begins makes one. -/
theorem isSome_job_foldl {c : String} {s : CallState} {ops : List CallStep}
    (hback : NoRollback c s ops)
    (hjob : (s.service.jobs.find? c).isSome ∨ ∃ op ∈ ops, op.starts c = true) :
    ((ops.foldl CallState.next s).service.jobs.find? c).isSome := by
  induction ops generalizing s with
  | nil => simpa using hjob
  | cons op ops ih =>
      obtain ⟨hop, hops⟩ := noRollback_cons.1 hback
      apply ih hops
      rcases hjob with hjob | ⟨op', hmem, hstarts⟩
      · exact Or.inl (isSome_job_next hop (Or.inl hjob))
      · rcases List.mem_cons.1 hmem with rfl | hmem
        · exact Or.inl (isSome_job_next hop (Or.inr hstarts))
        · exact Or.inr ⟨op', hmem, hstarts⟩

/-! ## Failed calls -/

/-- A rollback ends a failed call. -/
theorem exists_failedCall {s : TrainingState} {ops : List CallStep} {op : CallStep} {c : String}
    (h : (ops.foldl CallState.next (.idle s)).rollsBack op = some c) :
    ∃ g : FailedCall, g.containerId = c ∧ g.pre ++ g.first :: g.mid = ops ∧
      op = .resolve g.call true := by
  cases op with
  | start call k remote now => cases h
  | resolve call agentThrows =>
      cases agentThrows with
      | false => cases h
      | true =>
          obtain ⟨remote, now, hmem⟩ := start_mem_of_waiting h
          obtain ⟨pre, mid, hops⟩ := List.append_of_mem hmem
          exact ⟨⟨pre, call, c, remote, now, mid⟩, rfl, hops.symm, rfl⟩

namespace FailedCall

variable {s : TrainingState} {ops : List CallStep} {f : FailedCall}

theorem steps_eq (f : FailedCall) :
    f.steps = (f.pre ++ f.first :: f.mid) ++ [.resolve f.call true] := by
  simp [steps]

/-- No step while the call waits ends it. -/
theorem ended_ne (hwf : WellFormed ops) (hf : f.steps <+: ops) :
    ∀ op ∈ f.mid, op.ended ≠ some f.call := by
  intro op hop hended
  have hnodup := hwf.ended.sublist (hf.sublist.filterMap CallStep.ended)
  rw [steps_eq, List.filterMap_append, List.nodup_append] at hnodup
  refine hnodup.2.2 f.call ?_ f.call (by simp [CallStep.ended]) rfl
  exact List.mem_filterMap.2 ⟨op, by simp [hop], hended⟩

/-- No step while the call waits begins it again. -/
theorem begun_ne (hwf : WellFormed ops) (hf : f.steps <+: ops) :
    ∀ op ∈ f.mid, op.begun ≠ some f.call := by
  intro op hop hbegun
  have hnodup := hwf.begun.sublist (hf.sublist.filterMap CallStep.begun)
  rw [steps, List.filterMap_append, List.nodup_append] at hnodup
  have hcons := hnodup.2.1
  rw [List.filterMap_cons_some (f := CallStep.begun) (b := f.call) rfl, List.nodup_cons] at hcons
  exact hcons.1 (List.mem_filterMap.2 ⟨op, by simp [hop], hbegun⟩)

theorem before_next_first (s : TrainingState) (f : FailedCall) (ops : List CallStep) :
    (f.pre ++ f.first :: ops).foldl CallState.next (.idle s) =
      ops.foldl CallState.next ((f.before s).next f.first) := by
  rw [List.foldl_append]
  rfl

theorem starts_first (f : FailedCall) : f.first.starts f.containerId = true := by
  simp [first, CallStep.starts]

/-- While a call waits nothing rolls its container back, if all calls that fail earlier are
alone. -/
theorem noRollback_mid (hwf : WellFormed ops) (hf : f.steps <+: ops)
    (hearlier : ∀ g : FailedCall, g.steps <+: ops → g.steps.length < f.steps.length →
      g.Alone s) :
    NoRollback f.containerId ((f.before s).next f.first) f.mid := by
  -- The first rollback in `f.mid` would end a call `g` that is not alone: either `f` begins while
  -- `g` waits, or `g` finds the job of `f`.
  have key : ∀ (n : Nat) (q : List CallStep) (op : CallStep), q.length = n → q ++ [op] <+: f.mid →
      (q.foldl CallState.next ((f.before s).next f.first)).rollsBack op ≠ some f.containerId := by
    intro n
    induction n using Nat.strong_induction_on with
    | _ n ih =>
        intro q op hn hq hback
        rw [← before_next_first] at hback
        obtain ⟨g, hc, hops, rfl⟩ := exists_failedCall hback
        have hsteps : g.steps = f.pre ++ f.first :: (q ++ [.resolve g.call true]) := by
          rw [steps_eq, hops]
          simp
        have hfull : f.pre ++ f.first :: (q ++ [.resolve g.call true]) <+: f.steps := by
          rw [steps, List.prefix_append_right_inj, List.cons_prefix_cons]
          exact ⟨rfl, hq.trans (List.prefix_append _ _)⟩
        have hlen : g.steps.length < f.steps.length := by
          have hle := hq.length_le
          rw [hsteps]
          simp only [steps, List.length_append, List.length_cons, List.length_nil] at hle ⊢
          omega
        obtain ⟨hjob, hstarts⟩ := hearlier g (hsteps ▸ hfull.trans hf) hlen
        have hne : f.first ≠ g.first := by
          intro h
          have hcall : f.call = g.call := by
            simp only [first, CallStep.start.injEq] at h
            exact h.1
          refine ended_ne hwf hf (.resolve g.call true) (hq.subset (by simp)) ?_
          rw [hcall]
          rfl
        rcases mem_of_append_cons_eq hops.symm hne with hmem | ⟨between, rest, hrest, hpre⟩
        · -- `f` begins while `g` waits.
          rw [first, ← hc] at hmem
          exact hstarts _ _ _ hmem
        · -- `g` begins while `f` waits; by induction the job of `f` is still there.
          have hquiet : NoRollback f.containerId ((f.before s).next f.first) between := by
            intro q' op' hq'
            have hlt : q'.length < n := by
              have hle := hq'.length_le
              simp only [hrest, List.length_append, List.length_cons, List.length_nil] at hle hn
              omega
            refine ih q'.length hlt q' op' rfl (hq'.trans ?_)
            rw [hrest, List.append_assoc] at hq
            exact (List.prefix_append _ _).trans hq
          have hback : (f.before s).rollsBack f.first ≠ some f.containerId := fun h => nomatch h
          have hsome := isSome_job_foldl hquiet (Or.inl
            (isSome_job_next hback (Or.inr f.starts_first)))
          rw [before, hpre, before_next_first, hc] at hjob
          rw [hjob] at hsome
          cases hsome
  exact fun q op hq => key q.length q op rfl hq

/-- The state while the call still waits, at the end of `f.mid`. -/
def waited (s : TrainingState) (f : FailedCall) : CallState :=
  f.mid.foldl CallState.next ((f.before s).next f.first)

theorem after_eq (s : TrainingState) (f : FailedCall) :
    f.after s = (f.waited s).next (.resolve f.call true) := by
  rw [after, steps_eq, List.foldl_concat, before_next_first]
  rfl

theorem without_eq (s : TrainingState) (f : FailedCall) :
    f.without s = f.mid.foldl CallState.next (f.before s) := by
  rw [without, List.foldl_append]
  rfl

theorem waiting_waited (hwf : WellFormed ops) (hf : f.steps <+: ops) :
    (f.waited s).waiting.find? f.call = some f.containerId := by
  have hkeep : ∀ (l : List CallStep) (t : CallState),
      (∀ op ∈ l, op.begun ≠ some f.call) → (∀ op ∈ l, op.ended ≠ some f.call) →
      (l.foldl CallState.next t).waiting.find? f.call = t.waiting.find? f.call := by
    intro l
    induction l with
    | nil => exact fun _ _ _ => rfl
    | cons op l ih =>
        intro t hbegun hended
        rw [List.forall_mem_cons] at hbegun hended
        rw [List.foldl_cons, ih _ hbegun.2 hended.2, waiting_next_of_ne hbegun.1 hended.1]
  rw [waited, hkeep _ _ (begun_ne hwf hf) (ended_ne hwf hf)]
  exact Table.find?_set_self _ _ _

theorem twin_waited (hwf : WellFormed ops) (hf : f.steps <+: ops) :
    Twin f.containerId f.call (f.waited s) (f.without s) := by
  rw [without_eq]
  exact (Twin.start _ _ _ _ _).foldl (ended_ne hwf hf)

/-- The rollback removes the latest entry and the job of the container. -/
theorem slot_after (hwf : WellFormed ops) (hf : f.steps <+: ops) (k : String) :
    (f.after s).service.slot k =
      if k = f.containerId then (((f.waited s).service.registry.list k).dropLast, none)
      else (f.without s).service.slot k := by
  have hback : (f.waited s).rollsBack (.resolve f.call true) = some f.containerId :=
    waiting_waited hwf hf
  rw [after_eq, slot_next_resolve, hback]
  by_cases hk : k = f.containerId
  · rw [if_pos (by rw [hk]), if_pos hk]
  · rw [if_neg (fun h => hk (Option.some.inj h).symm), if_neg hk]
    exact (twin_waited hwf hf).slots k hk

/-- In the run without the call nothing rolls the container back either. -/
theorem noRollback_without (hwf : WellFormed ops) (hf : f.steps <+: ops)
    (h : NoRollback f.containerId ((f.before s).next f.first) f.mid) :
    NoRollback f.containerId (f.before s) f.mid := by
  intro q op hq
  have hsub : ∀ op' ∈ q ++ [op], op'.ended ≠ some f.call := fun op' hop' =>
    ended_ne hwf hf op' (hq.subset hop')
  have hended : ∀ op' ∈ q, op'.ended ≠ some f.call := fun op' hop' =>
    hsub op' (List.mem_append_left _ hop')
  have htwin := (Twin.start (f.before s) f.call f.containerId f.remote f.now).foldl hended
  rw [← htwin.rollsBack_eq (hsub op (by simp))]
  exact h q op hq

/-- What is left of a call that is alone: the entry that `getMeta` stored. -/
theorem slots_of_alone (hwf : WellFormed ops) (hf : f.steps <+: ops)
    (hback : NoRollback f.containerId ((f.before s).next f.first) f.mid) (halone : f.Alone s)
    (k : String) :
    (f.after s).service.registry.list k =
        (if k = f.containerId then f.cached s else []) ++ (f.without s).service.registry.list k ∧
      (f.after s).service.jobs.find? k = (f.without s).service.jobs.find? k := by
  obtain ⟨hjob, hstarts⟩ := halone
  have hquiet : ∀ op ∈ f.mid, op.starts f.containerId = false := by
    intro op hop
    cases op with
    | start call k remote now =>
        have hne : k ≠ f.containerId := fun h => hstarts call remote now (h ▸ hop)
        simp [CallStep.starts, hne]
    | resolve call agentThrows => rfl
  -- Nothing else happens to the container, with the call and without it.
  have hwith := slot_foldl_of_quiet hquiet hback
  have hwithout := slot_foldl_of_quiet hquiet (noRollback_without hwf hf hback)
  rw [← without_eq] at hwithout
  have hslot := slot_after (s := s) hwf hf k
  by_cases hk : k = f.containerId
  · subst hk
    rw [if_pos rfl] at hslot
    have hlist : (f.waited s).service.registry.list f.containerId = _ :=
      (congrArg Prod.fst hwith).trans (congrArg Prod.fst (slot_beginTraining _ _ _ _ _))
    rw [if_pos rfl] at hlist
    have hafter : (f.after s).service.registry.list f.containerId =
        ((f.waited s).service.registry.list f.containerId).dropLast := congrArg Prod.fst hslot
    have hnone : (f.after s).service.jobs.find? f.containerId = none := congrArg Prod.snd hslot
    have hjobs : (f.without s).service.jobs.find? f.containerId =
        (f.before s).service.jobs.find? f.containerId := congrArg Prod.snd hwithout
    have hlists : (f.without s).service.registry.list f.containerId =
        (f.before s).service.registry.list f.containerId := congrArg Prod.fst hwithout
    rw [hlist, List.dropLast_concat] at hafter
    refine ⟨?_, by rw [hnone, hjobs, hjob]⟩
    rw [hafter, hlists, if_pos rfl, cached, ModelRegistry.cachedBy]
    -- An entry is stored only for a container without entries.
    by_cases hnil : (f.before s).service.registry.list f.containerId = []
    · rw [if_pos hnil, hnil, List.nil_append, List.append_nil]
    · rw [if_neg hnil, List.nil_append, List.append_nil]
  · rw [if_neg hk] at hslot
    rw [if_neg hk, List.nil_append]
    exact ⟨congrArg Prod.fst hslot, congrArg Prod.snd hslot⟩

theorem undone_iff_of_alone (hwf : WellFormed ops) (hf : f.steps <+: ops)
    (hback : NoRollback f.containerId ((f.before s).next f.first) f.mid) (halone : f.Alone s) :
    f.Undone s ↔ f.CachesReady s := by
  constructor
  · intro hundone
    have hready := (hundone f.containerId).1
    rw [(slots_of_alone hwf hf hback halone f.containerId).1, if_pos rfl, if_pos rfl] at hready
    have hfilter := List.filter_eq_self.1 (List.append_cancel_right hready).symm
    exact fun v hv => of_decide_eq_true (hfilter v hv)
  · intro hready k
    have hfilter : (f.cached s).filter (fun v => decide (v.status = .ready)) = f.cached s :=
      List.filter_eq_self.2 fun v hv => decide_eq_true (hready v hv)
    rw [hfilter]
    exact slots_of_alone hwf hf hback halone k

theorem alone_of_undone (hwf : WellFormed ops) (hf : f.steps <+: ops)
    (hback : NoRollback f.containerId ((f.before s).next f.first) f.mid) (hundone : f.Undone s) :
    f.Alone s := by
  have hafter : (f.after s).service.jobs.find? f.containerId = none := by
    have hslot := slot_after (s := s) hwf hf f.containerId
    rw [if_pos rfl] at hslot
    exact congrArg Prod.snd hslot
  -- So there is no job in the run without the call either, which any other start would leave.
  have hnone : ¬ ((f.without s).service.jobs.find? f.containerId).isSome := by
    rw [← (hundone f.containerId).2, hafter]
    simp
  rw [without_eq] at hnone
  have hjob := mt (isSome_job_foldl (noRollback_without hwf hf hback)) hnone
  rw [not_or, Option.not_isSome_iff_eq_none] at hjob
  refine ⟨hjob.1, fun call remote now hmem => hjob.2 ⟨_, hmem, ?_⟩⟩
  simp [CallStep.starts]

end FailedCall

/-! ## Runs -/

/-- In an interleaving of training starts every rollback undoes just its own call exactly when
every call whose request throws finds no job of its container, no other call for that container
begins while it waits, and the answer of the ML service that it stores, if any, is ready. -/
theorem rollback_undone_iff (s : TrainingState) (ops : List CallStep) (hwf : WellFormed ops) :
    (∀ f : FailedCall, f.steps <+: ops → f.Undone s) ↔
      ∀ f : FailedCall, f.steps <+: ops → f.Alone s ∧ f.CachesReady s := by
  constructor
  · intro hundone f
    -- By induction on the time of the rollback.
    induction hn : f.steps.length using Nat.strong_induction_on generalizing f with
    | _ n ih =>
        intro hf
        have hback : NoRollback f.containerId ((f.before s).next f.first) f.mid :=
          FailedCall.noRollback_mid hwf hf fun g hg hlt => (ih _ (hn ▸ hlt) g rfl hg).1
        have halone := FailedCall.alone_of_undone hwf hf hback (hundone f hf)
        exact ⟨halone, (FailedCall.undone_iff_of_alone hwf hf hback halone).1 (hundone f hf)⟩
  · intro h f hf
    have hback : NoRollback f.containerId ((f.before s).next f.first) f.mid :=
      FailedCall.noRollback_mid hwf hf fun g hg _ => (h g hg).1
    exact (FailedCall.undone_iff_of_alone hwf hf hback (h f hf).1).2 (h f hf).2

/-- A start that fails while a start for another container waits. -/
theorem rollback_undone_other_container :
    FailedCall.Undone .init
      { pre := [], call := 0, containerId := "a", remote := none, now := 0
        mid := [.start 1 "b" none 1] } := by
  refine (rollback_undone_iff .init
    [.start 0 "a" none 0, .start 1 "b" none 1, .resolve 0 true] ⟨by decide, by decide⟩).2 ?_ _
    (List.prefix_refl _)
  rintro ⟨pre, call, c, remote, now, mid⟩ hf
  have hlen := hf.length_le
  simp only [FailedCall.steps, FailedCall.first, List.length_append, List.length_cons,
    List.length_nil] at hlen
  rcases pre with _ | ⟨a, _ | ⟨b, pre⟩⟩
  · -- The call is the one for `a`; the start for `b` comes while it waits.
    rcases mid with _ | ⟨x, _ | ⟨y, mid⟩⟩
    · simp [FailedCall.steps, FailedCall.first] at hf
    · simp only [FailedCall.steps, FailedCall.first, List.nil_append, List.cons_append,
        List.cons_prefix_cons, CallStep.start.injEq] at hf
      obtain ⟨⟨rfl, rfl, rfl, rfl⟩, rfl, -⟩ := hf
      exact ⟨⟨rfl, by simp⟩, fun v hv => absurd hv List.not_mem_nil⟩
    · simp only [List.length_cons, List.length_nil] at hlen
      omega
  · simp only [FailedCall.steps, FailedCall.first, List.cons_append, List.nil_append,
      List.cons_prefix_cons, CallStep.start.injEq] at hf
    obtain ⟨-, ⟨rfl, -⟩, hrest⟩ := hf
    rcases mid with _ | ⟨x, mid⟩
    · simp at hrest
    · simp only [List.length_cons, List.length_nil] at hlen
      omega
  · simp only [List.length_cons] at hlen
    omega

/-- A second start for a container fails while the first one waits: the rollback takes the job of
the first one with it. -/
theorem rollback_undone_fails :
    ¬ FailedCall.Undone .init
      { pre := [.start 0 "a" none 0], call := 1, containerId := "a", remote := none, now := 1
        mid := [] } := by
  intro h
  have hjob := (h "a").2
  revert hjob
  decide

end DeepKernel.Server
