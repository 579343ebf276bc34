import DeepKernel.Server.Training
import DeepKernel.System.Enforcement

/-!
# Commands to the agent and what the server records

Two operations of the server send a command to the agent and record its success: `ingestWindow`
stores a policy as applied, `startOrchestratedTraining` keeps its entry in training. Both would
undo or report a failure if the adapter threw. The adapter catches every exception, so the failure
never arrives.
-/

set_option autoImplicit false

namespace DeepKernel.System

open DeepKernel.Lib DeepKernel.Server

/-! ## Long dumps -/

/-- An exception leaves a call. -/
def escapes : Except Unit Unit → Bool
  | .ok _ => false
  | .error _ => true

/-- `startOrchestratedTraining` with the HTTP adapter. -/
def startTraining (s : TrainingState) (containerId : String) (remote : Option ModelMeta)
    (now : Int) (durationSec : Int32) (outcome : HttpOutcome) : TrainingState × Bool :=
  s.startOrchestratedTraining containerId remote now
    (escapes (requestLongDump containerId durationSec "train-1m" outcome).2)

/-- A start that returns normally was acknowledged, and one that was not acknowledged leaves neither
an entry in training nor a job of its own. -/
structure DumpAcknowledged (s : TrainingState) (containerId : String) (remote : Option ModelMeta)
    (now : Int) (durationSec : Int32) (outcome : HttpOutcome) : Prop where
  returned : (startTraining s containerId remote now durationSec outcome).2 = true →
    outcome.acknowledged = true
  undone : outcome.acknowledged = false →
    (∀ e ∈ (startTraining s containerId remote now durationSec outcome).1.registry.list containerId,
      e.status = .training → e ∈ s.registry.list containerId) ∧
    (startTraining s containerId remote now durationSec outcome).1.jobs.find? containerId = none

/-- Every start returns normally. -/
theorem startTraining_returns (s : TrainingState) (containerId : String)
    (remote : Option ModelMeta) (now : Int) (durationSec : Int32) (outcome : HttpOutcome) :
    (startTraining s containerId remote now durationSec outcome).2 = true := by
  rw [startTraining, requestLongDump, tryCatch_call]
  rfl

theorem dumpAcknowledged_iff (s : TrainingState) (containerId : String)
    (remote : Option ModelMeta) (now : Int) (durationSec : Int32) (outcome : HttpOutcome) :
    DumpAcknowledged s containerId remote now durationSec outcome ↔
      outcome.acknowledged = true := by
  constructor
  · intro h
    exact h.returned (startTraining_returns s containerId remote now durationSec outcome)
  · -- With an acknowledgement there is nothing to undo.
    intro hack
    refine ⟨fun _ => hack, fun hnot => ?_⟩
    rw [hack] at hnot
    cases hnot

/-! ## Policies -/

section Policies

variable {R : Type} [Field R] [LinearOrder R] (ctl : Controller R) (env : IngestEnv R)
  (payload : ShortWindowPayload) (s : ServerState R)

/-- Every policy that the request stored as applied was acknowledged by the agent. -/
def PoliciesAcknowledged : Prop :=
  ∀ added, (ctl.ingestWindow env payload s).state.policies = s.policies ++ added →
    ∀ policy ∈ added, policy.status = .applied →
      ∃ outcome, (policyCommand ctl.platform payload.containerId policy env.commandId, outcome) ∈
          (ctl.ingestWindow env payload s).sent ∧ outcome.acknowledged = true

theorem policiesAcknowledged_iff :
    PoliciesAcknowledged ctl env payload s ↔
      (ctl.TriagedAsThreat env payload → env.agentReply.acknowledged = true) := by
  rcases ctl.policies_cases env payload s with ⟨hnot, hleaves⟩ | ⟨hyes, policy, hstores⟩
  · refine iff_of_true (fun added hadded policy hpolicy => ?_) fun h => absurd h hnot
    rw [hleaves.1, List.self_eq_append_right] at hadded
    rw [hadded] at hpolicy
    cases hpolicy
  · obtain ⟨hpolicies, -, hstatus, hsent⟩ := hstores
    constructor
    · intro h _
      obtain ⟨outcome, hmem, hack⟩ := h [policy] hpolicies policy List.mem_cons_self hstatus
      rw [hsent] at hmem
      rw [← (Prod.mk.inj (List.mem_singleton.1 hmem)).2]
      exact hack
    · -- The one added policy is the one that was sent.
      intro hack added hadded policy' hpolicy' _
      rw [hpolicies] at hadded
      obtain rfl : policy' = policy := by
        rw [← List.append_cancel_left hadded] at hpolicy'
        exact List.mem_singleton.1 hpolicy'
      exact ⟨env.agentReply, by rw [hsent]; exact List.mem_cons_self, hack hyes⟩

end Policies

/-- What the server records was acknowledged exactly when the agent's reply to the command is a
success: for a policy, when the window was triaged as a threat and there is a command at all, and
for every start of a training. -/
theorem agent_commands_acknowledged_iff {R : Type} [Field R] [LinearOrder R] (ctl : Controller R)
    (env : IngestEnv R) (payload : ShortWindowPayload) (s : ServerState R) (t : TrainingState)
    (containerId : String) (remote : Option ModelMeta) (now : Int) (durationSec : Int32)
    (outcome : HttpOutcome) :
    (PoliciesAcknowledged ctl env payload s ↔
        (ctl.TriagedAsThreat env payload → env.agentReply.acknowledged = true)) ∧
      (DumpAcknowledged t containerId remote now durationSec outcome ↔
        outcome.acknowledged = true) :=
  ⟨policiesAcknowledged_iff ctl env payload s,
    dumpAcknowledged_iff t containerId remote now durationSec outcome⟩

/-- The agent cannot be reached: a policy counts as applied, and a training as started. -/
theorem agent_commands_unreachable :
    ¬ PoliciesAcknowledged exampleController (flaggedByService .exception)
        ⟨1, "node-1", "prod/api", 0, none⟩ .init ∧
      ¬ DumpAcknowledged .init "prod/api" none 0 60 .exception := by
  constructor
  · rw [policiesAcknowledged_iff]
    intro h
    have hscorer : (flaggedByService .exception).scoreWindow =
        (Scorer.mlService fun _ _ => some (-7 / 10)).scoreWindow := rfl
    cases h ((triagedAsThreat_iff hscorer rfl).2 (flagged_flaggedByService _ _))
  · rw [dumpAcknowledged_iff]
    intro h
    cases h

end DeepKernel.System
