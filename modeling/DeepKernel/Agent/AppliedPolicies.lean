import DeepKernel.Agent.PolicyEnforcer
import DeepKernel.Lib.JsonTree
import DeepKernel.Lib.LastEffect

/-!
# Policies over the life of an agent

The HTTP server of the agent with its policy enforcer and the disk, over any sequence of requests. A
policy is recorded as the last request for it that was answered 200 says (`appliedPolicies_eq_last`).

The shell runs the commands of a request, and a command that is not read as it should be can do
anything to the files. Behind a seccomp policy that was answered 200 there is a profile on the disk as
long as the requests from then on are harmless: they write profiles with the same contents only, and
Docker leaves the directory of the policies alone (`acknowledged_profile_on_disk`).

What a profile is for is said by `SeccompProfile.action`: the action of the first rule that names a
system call, else the default.
-/

set_option autoImplicit false

namespace DeepKernel.Agent

open DeepKernel.Lib

/-! ## What a profile does -/

/-- A seccomp profile: the default action, and rules for the system calls that they name. -/
structure SeccompProfile where
  defaultAction : ByteString
  rules : List (List ByteString × ByteString)
  deriving DecidableEq

/-- The action for a system call. -/
def SeccompProfile.action (profile : SeccompProfile) (syscall : ByteString) : ByteString :=
  ((profile.rules.find? fun rule => decide (syscall ∈ rule.1)).map Prod.snd).getD
    profile.defaultAction

namespace SeccompProfile

/-- A member of an object. -/
def member (key : ByteString) : JsonTree → Option JsonTree
  | .object members => (members.find? fun m => decide (m.1 = key)).map Prod.snd
  | _ => none

def text? : JsonTree → Option ByteString
  | .text string => some string
  | _ => none

def array? : JsonTree → Option (List JsonTree)
  | .array items => some items
  | _ => none

/-- A rule: its names and its action. -/
def rule? (tree : JsonTree) : Option (List ByteString × ByteString) :=
  ((member (ascii "names") tree).bind array?).bind fun names =>
    (names.mapM text?).bind fun names =>
      ((member (ascii "action") tree).bind text?).map fun action => (names, action)

/-- The profile that a file holds. -/
def read (content : ByteString) : Option SeccompProfile :=
  (decodeTree content).bind fun tree =>
    ((member (ascii "defaultAction") tree).bind text?).bind fun defaultAction =>
      ((member (ascii "syscalls") tree).bind array?).bind fun rules =>
        (rules.mapM rule?).map fun rules => ⟨defaultAction, rules⟩

end SeccompProfile

/-- The action for `connect` in an enforcement mode. -/
def connectAction (enforcementMode : ByteString) : ByteString :=
  if enforcementMode = ascii "LOG" then ascii "SCMP_ACT_LOG" else ascii "SCMP_ACT_ERRNO"

/-- In the two modes of an enforcer the profile is a JSON text with one rule, for `connect`. -/
theorem read_generateSeccompProfile {mode : ByteString}
    (hmode : mode = ascii "ERRNO" ∨ mode = ascii "LOG") (specJson : ByteString) :
    SeccompProfile.read (generateSeccompProfile mode specJson) =
      some ⟨ascii "SCMP_ACT_ALLOW", [([ascii "connect"], connectAction mode)]⟩ := by
  have hspec : generateSeccompProfile mode specJson = generateSeccompProfile mode [] := rfl
  rw [hspec]
  rcases hmode with rfl | rfl
  · decide +kernel
  · decide +kernel

theorem action_connectRule (action syscall : ByteString) :
    (SeccompProfile.mk (ascii "SCMP_ACT_ALLOW") [([ascii "connect"], action)]).action syscall =
      if syscall = ascii "connect" then action else ascii "SCMP_ACT_ALLOW" := by
  by_cases h : syscall = ascii "connect"
  · simp [SeccompProfile.action, h]
  · simp [SeccompProfile.action, h]

/-! ## The agent under requests -/

deriving instance DecidableEq for AppliedPolicy

/-- The files of a host, by directory and name. -/
abbrev Disk (Dir : Type) := Table (Dir × ByteString) ByteString

/-- The enforcer and the files of the host. -/
structure PolicyHost (Dir : Type) where
  enforcer : PolicyEnforcer
  disk : Disk Dir

/-- The bytes of a request, with what the enforcer meets while it is handled. `effect` is what a
command that is passed to `system` does to the files. -/
structure PolicyInput (Dir : Type) where
  bytes : ByteString
  tree : DirectoryTree Dir
  httpDockerGet : ByteString → ByteString
  system : ByteString → Int
  effect : ByteString → Disk Dir → Disk Dir
  nowNs : UInt64

section Host

variable {Dir : Type}

/-- The surroundings of a request. -/
def PolicyInput.surroundings (input : PolicyInput Dir) : Surroundings Dir :=
  ⟨input.tree, input.httpDockerGet, input.system, input.nowNs⟩

/-- The files after some commands; `system` takes a C string. -/
def PolicyInput.run (input : PolicyInput Dir) (disk : Disk Dir) (commands : List ByteString) :
    Disk Dir :=
  commands.foldl (fun disk command => input.effect (cString command) disk) disk

/-- The status code and the body of a response. -/
abbrev HttpResponse := Nat × ByteString

variable [DecidableEq Dir]

/-- The files after the file of an outcome is written. -/
def PolicyOutcome.write (outcome : PolicyOutcome Dir) (disk : Disk Dir) : Disk Dir :=
  match outcome.written with
  | none => disk
  | some (file, content) => disk.set file content

/-- One request, with itself and its response for the record. The commands run after the profile is
written. -/
def PolicyHost.serve (host : PolicyHost Dir) (input : PolicyInput Dir) :
    PolicyHost Dir × List (PolicyInput Dir × HttpResponse) :=
  let outcome := host.enforcer.serve input.surroundings input.bytes
  ({ enforcer := outcome.enforcer
     disk := input.run (outcome.write host.disk) outcome.commands },
    [(input, response outcome.applied (handleClient input.bytes))])

/-- The host after some requests. -/
abbrev hostAfter (host : PolicyHost Dir) (inputs : List (PolicyInput Dir)) : PolicyHost Dir :=
  finalState PolicyHost.serve host inputs

/-- The requests with their responses. -/
abbrev hostRecord (host : PolicyHost Dir) (inputs : List (PolicyInput Dir)) :
    List (PolicyInput Dir × HttpResponse) :=
  outputs PolicyHost.serve host inputs

end Host

/-! ## One request -/

section Request

variable {Dir : Type} (w : Surroundings Dir) (e : PolicyEnforcer)

/-- What is recorded for a policy that is applied. -/
def recorded (containerName policyId policyType : ByteString) : AppliedPolicy :=
  if policyType ≠ ascii "SECCOMP" then ⟨containerName, policyType, [], w.nowNs⟩
  else
    let containerId := PolicyEnforcer.getContainerIdFromName w containerName
    ⟨if containerId = [] then containerName else containerId, policyType, e.profilePath policyId,
      w.nowNs⟩

/-- A request for a policy is answered 200, and recorded, unless it is for a seccomp profile that
cannot be written. -/
theorem apply_cases (containerName policyId policyType specJson : ByteString) :
    ((policyType = ascii "SECCOMP" ∧ e.profileFile w policyId = none) ∧
        (e.apply w containerName policyId policyType specJson).applied = false ∧
        (e.apply w containerName policyId policyType specJson).enforcer = e ∧
        (e.apply w containerName policyId policyType specJson).written = none) ∨
      (e.apply w containerName policyId policyType specJson).applied = true ∧
        (e.apply w containerName policyId policyType specJson).enforcer =
          { e with
            appliedPolicies :=
              e.appliedPolicies.set policyId (recorded w e containerName policyId policyType) } ∧
        ((policyType ≠ ascii "SECCOMP" ∧
            (e.apply w containerName policyId policyType specJson).written = none) ∨
          policyType = ascii "SECCOMP" ∧ ∃ file, e.profileFile w policyId = some file ∧
            (e.apply w containerName policyId policyType specJson).written =
              some (file, generateSeccompProfile e.enforcementMode specJson)) := by
  rw [PolicyEnforcer.apply, recorded]
  by_cases htype : policyType = ascii "SECCOMP"
  · have hne := not_not.2 htype
    simp only [if_neg hne, if_neg (PolicyEnforcer.generateSeccompProfile_ne_nil _ _)]
    cases hfile : e.profileFile w policyId with
    | none => exact Or.inl ⟨⟨htype, rfl⟩, rfl, rfl, rfl⟩
    | some file =>
        right
        by_cases hid : PolicyEnforcer.getContainerIdFromName w containerName = []
        · simp only [if_pos hid]
          exact ⟨trivial, rfl, Or.inr ⟨htype, file, rfl, rfl⟩⟩
        · simp only [if_neg hid]
          exact ⟨trivial, rfl, Or.inr ⟨htype, file, rfl, rfl⟩⟩
  · simp only [if_pos htype]
    exact Or.inr ⟨trivial, rfl, Or.inl ⟨htype, trivial⟩⟩

/-- A response to a policy request is 200 exactly if the policy was applied. -/
theorem response_policy_eq_ok {containerId policyId policyType specJson : ByteString}
    {applied : Bool} :
    (response applied (.policy containerId policyId policyType specJson)).1 = 200 ↔
      applied = true := by
  cases applied <;> simp [response]

end Request

/-! ## Harmless requests -/

section Harmless

variable {Dir : Type}

/-- The request is not for a policy, or is harmless. -/
def PolicyInput.Harmless (e : PolicyEnforcer) (input : PolicyInput Dir) : Prop :=
  ∀ containerName policyId policyType specJson,
    handleClient input.bytes = .policy containerName policyId policyType specJson →
      e.Harmless input.surroundings containerName policyId policyType

/-- A command that the shell reads as one of the two of the enforcer. -/
def DockerCommand (command : ByteString) : Prop :=
  ∃ containerName profilePath,
    readCommand command =
        some (PolicyEnforcer.updateWords containerName profilePath, discardOutput) ∨
      readCommand command = some (PolicyEnforcer.restartWords containerName, discardOutput)

/-- What Docker is trusted with while a request is handled: neither the update nor the restart of a
container touches the files in a directory. -/
def Spares [DecidableEq Dir] (effect : ByteString → Disk Dir → Disk Dir) (dir : Dir) : Prop :=
  ∀ command, DockerCommand command → ∀ (disk : Disk Dir) (name : ByteString),
    (effect command disk).find? (dir, name) = disk.find? (dir, name)

theorem dockerCommand_cString {command : ByteString} (h : DockerCommand command) :
    DockerCommand (cString command) := by
  have hcut : cString (cString command) = cString command :=
    cString_eq fun hmem => absurd (List.mem_takeWhile_imp hmem) (by decide)
  rwa [DockerCommand, readCommand, hcut]

theorem find?_run [DecidableEq Dir] {input : PolicyInput Dir} {dir : Dir}
    (hspares : Spares input.effect dir)
    {commands : List ByteString} (hcommands : ∀ command ∈ commands, DockerCommand command)
    (disk : Disk Dir) (name : ByteString) :
    (input.run disk commands).find? (dir, name) = disk.find? (dir, name) := by
  induction commands generalizing disk with
  | nil => rfl
  | cons command commands ih =>
      rw [PolicyInput.run, List.foldl_cons]
      refine (ih (fun c hc => hcommands c (List.mem_cons_of_mem _ hc)) _).trans ?_
      exact hspares _ (dockerCommand_cString (hcommands command List.mem_cons_self)) disk name

/-- The commands of a confined request. -/
theorem dockerCommand_of_confined {w : Surroundings Dir} {e : PolicyEnforcer}
    {containerName policyId : ByteString} {outcome : PolicyOutcome Dir}
    (h : e.Confined w containerName policyId outcome) :
    ∀ command ∈ outcome.commands, DockerCommand command := by
  intro command hcommand
  have hread := h.commands.subset (List.mem_map_of_mem (f := readCommand) hcommand)
  refine ⟨containerName, e.profilePath policyId, ?_⟩
  simpa using hread

/-- Two enforcers with the same directory and the same mode. -/
structure SameSettings (e e' : PolicyEnforcer) : Prop where
  policyDir : e'.policyDir = e.policyDir
  enforcementMode : e'.enforcementMode = e.enforcementMode

theorem SameSettings.trans {e e' e'' : PolicyEnforcer} (h : SameSettings e e')
    (h' : SameSettings e' e'') : SameSettings e e'' :=
  ⟨h'.policyDir.trans h.policyDir, h'.enforcementMode.trans h.enforcementMode⟩

theorem SameSettings.profilePath_eq {e e' : PolicyEnforcer} (h : SameSettings e e')
    (policyId : ByteString) : e'.profilePath policyId = e.profilePath policyId := by
  rw [PolicyEnforcer.profilePath, PolicyEnforcer.profilePath, h.policyDir]

theorem SameSettings.profileFile_eq {e e' : PolicyEnforcer} (h : SameSettings e e')
    (w : Surroundings Dir) (policyId : ByteString) :
    e'.profileFile w policyId = e.profileFile w policyId := by
  rw [PolicyEnforcer.profileFile, PolicyEnforcer.profileFile, h.profilePath_eq]

theorem SameSettings.recorded_eq {e e' : PolicyEnforcer} (h : SameSettings e e')
    (w : Surroundings Dir) (containerName policyId policyType : ByteString) :
    recorded w e' containerName policyId policyType =
      recorded w e containerName policyId policyType := by
  rw [recorded, recorded, h.profilePath_eq]

theorem SameSettings.harmless {e e' : PolicyEnforcer} (h : SameSettings e e')
    {input : PolicyInput Dir} (hinput : input.Harmless e) : input.Harmless e' := by
  intro containerName policyId policyType specJson hclient htype hopened
  rw [h.profileFile_eq] at hopened
  rw [PolicyEnforcer.leadsTo, h.policyDir, h.profilePath_eq]
  exact hinput containerName policyId policyType specJson hclient htype hopened

end Harmless

/-! ## Runs -/

section Runs

variable {Dir : Type}

/-- The record that a request leaves for a policy, if it is a request for that policy and was answered
200. -/
def acknowledged (e : PolicyEnforcer) (policyId : ByteString)
    (entry : PolicyInput Dir × HttpResponse) : Option AppliedPolicy :=
  match handleClient entry.1.bytes with
  | .policy containerName id policyType _ =>
      if id = policyId ∧ entry.2.1 = 200 then
        some (recorded entry.1.surroundings e containerName policyId policyType)
      else none
  | _ => none

/-- A request that is not for a policy has no outcome. -/
theorem outcome_of_not_policy (e : PolicyEnforcer) {input : PolicyInput Dir}
    (h : ∀ c id type spec, handleClient input.bytes ≠ .policy c id type spec) :
    e.serve input.surroundings input.bytes = { applied := false, enforcer := e } := by
  rw [PolicyEnforcer.serve]
  split
  · rename_i hclient
    exact absurd hclient (h _ _ _ _)
  · rfl

theorem outcome_of_policy (e : PolicyEnforcer) {input : PolicyInput Dir}
    {c id type spec : ByteString} (h : handleClient input.bytes = .policy c id type spec) :
    e.serve input.surroundings input.bytes = e.apply input.surroundings c id type spec := by
  rw [PolicyEnforcer.serve, h]

variable [DecidableEq Dir]

/-- A request that is not for a policy changes nothing on the host. -/
theorem serve_of_not_policy (host : PolicyHost Dir) {input : PolicyInput Dir}
    (h : ∀ c id type spec, handleClient input.bytes ≠ .policy c id type spec) :
    (host.serve input).1 = host := by
  rw [PolicyHost.serve, outcome_of_not_policy host.enforcer h]
  rfl

/-- One request: the settings stay, the record changes as the response says, and what is written is a
profile. -/
theorem serve_spec (host : PolicyHost Dir) (input : PolicyInput Dir) :
    ∃ resp, (host.serve input).2 = [(input, resp)] ∧
      SameSettings host.enforcer (host.serve input).1.enforcer ∧
      (∀ policyId, (host.serve input).1.enforcer.appliedPolicies.find? policyId =
        (acknowledged host.enforcer policyId (input, resp)).or
          (host.enforcer.appliedPolicies.find? policyId)) ∧
      (∀ file content, (host.enforcer.serve input.surroundings input.bytes).written =
        some (file, content) →
          content = generateSeccompProfile host.enforcer.enforcementMode []) ∧
      ∀ containerName policyId specJson,
        handleClient input.bytes = .policy containerName policyId (ascii "SECCOMP") specJson →
          resp.1 = 200 → ∃ file, host.enforcer.profileFile input.surroundings policyId = some file ∧
            (host.enforcer.serve input.surroundings input.bytes).written =
              some (file, generateSeccompProfile host.enforcer.enforcementMode []) := by
  refine ⟨_, rfl, ?_⟩
  -- a request that is not for a policy changes nothing
  by_cases hpolicy : ∃ c id type spec, handleClient input.bytes = .policy c id type spec
  · obtain ⟨c, id, type, spec, hclient⟩ := hpolicy
    simp only [PolicyHost.serve, outcome_of_policy host.enforcer hclient, hclient, acknowledged,
      response_policy_eq_ok]
    rcases apply_cases input.surroundings host.enforcer c id type spec with
      ⟨-, happlied, henforcer, hwritten⟩ | ⟨happlied, henforcer, hwritten⟩
    · simp only [happlied, henforcer, hwritten]
      refine ⟨⟨rfl, rfl⟩, fun policyId => by simp, ?_, ?_⟩
      · intro file content hsome
        cases hsome
      · intro _ _ _ _ hok
        cases hok
    · simp only [happlied, henforcer]
      refine ⟨⟨rfl, rfl⟩, fun policyId => ?_, ?_, ?_⟩
      · rw [Table.find?_set]
        by_cases hid : id = policyId
        · subst hid
          simp
        · simp [hid, Ne.symm hid]
      · intro file content hsome
        rcases hwritten with ⟨-, hnone⟩ | ⟨-, file', -, hsome'⟩
        · rw [hnone] at hsome
          cases hsome
        · rw [hsome'] at hsome
          obtain ⟨-, rfl⟩ := Prod.mk.inj (Option.some.inj hsome)
          rfl
      · intro c' id' spec' heq _
        injection heq with _ hid htype hspec
        subst hid htype hspec
        rcases hwritten with ⟨hne, -⟩ | ⟨-, file, hfile, hsome⟩
        · exact absurd rfl hne
        · exact ⟨file, hfile, hsome⟩
  · have hother : ∀ c id type spec, handleClient input.bytes ≠ .policy c id type spec :=
      fun c id type spec hclient => hpolicy ⟨c, id, type, spec, hclient⟩
    have hnone : ∀ policyId resp, acknowledged host.enforcer policyId (input, resp) = none := by
      intro policyId resp
      rw [acknowledged]
      split
      · rename_i c id type spec hclient
        exact absurd hclient (hother c id type spec)
      · rfl
    rw [serve_of_not_policy host hother, outcome_of_not_policy host.enforcer hother]
    refine ⟨⟨rfl, rfl⟩, fun policyId => ?_, fun file content hsome => ?_,
      fun c id spec hclient => ?_⟩
    · rw [hnone]
      rfl
    · cases hsome
    · exact absurd hclient (hother c id _ spec)

/-- A harmless request changes a directory that Docker spares by what it writes there. -/
theorem find?_serve {host : PolicyHost Dir} {input : PolicyInput Dir}
    (hharmless : input.Harmless host.enforcer) {dir : Dir} (hspares : Spares input.effect dir)
    (name : ByteString) :
    (host.serve input).1.disk.find? (dir, name) =
      ((host.enforcer.serve input.surroundings input.bytes).write host.disk).find? (dir, name) := by
  refine find?_run hspares ?_ _ name
  by_cases hpolicy : ∃ c id type spec, handleClient input.bytes = .policy c id type spec
  · obtain ⟨c, id, type, spec, hclient⟩ := hpolicy
    rw [PolicyEnforcer.serve, hclient]
    exact dockerCommand_of_confined ((PolicyEnforcer.confined_apply_iff _ _ c id type spec).2
      (hharmless c id type spec hclient))
  · rw [outcome_of_not_policy host.enforcer
      fun c id type spec hclient => hpolicy ⟨c, id, type, spec, hclient⟩]
    intro command hcommand
    cases hcommand

omit [DecidableEq Dir] in
/-- A seccomp policy is written to its file, if that can be opened. -/
theorem written_serve_seccomp (e : PolicyEnforcer) {input : PolicyInput Dir}
    {c policyId spec : ByteString}
    (h : handleClient input.bytes = .policy c policyId (ascii "SECCOMP") spec) :
    (e.serve input.surroundings input.bytes).written =
      (e.profileFile input.surroundings policyId).map fun file =>
        (file, generateSeccompProfile e.enforcementMode []) := by
  rw [outcome_of_policy e h]
  rcases apply_cases input.surroundings e c policyId (ascii "SECCOMP") spec with
    ⟨⟨-, hfile⟩, -, -, hwritten⟩ | ⟨-, -, ⟨hne, -⟩ | ⟨-, file, hfile, hwritten⟩⟩
  · rw [hwritten, hfile]
    rfl
  · exact absurd rfl hne
  · rw [hwritten, hfile]
    rfl

/-- After any requests a policy is recorded as the last request for it that was answered 200 says,
and it is not recorded if there was none. -/
theorem appliedPolicies_eq_last (e : PolicyEnforcer) (hnew : e.appliedPolicies = Table.empty)
    (disk : Disk Dir) (inputs : List (PolicyInput Dir)) (policyId : ByteString) :
    (hostAfter ⟨e, disk⟩ inputs).enforcer.appliedPolicies.find? policyId =
      lastEffect (acknowledged e policyId) (hostRecord ⟨e, disk⟩ inputs) := by
  have key : ∀ (inputs : List (PolicyInput Dir)) (host : PolicyHost Dir),
      SameSettings e host.enforcer →
      (hostAfter host inputs).enforcer.appliedPolicies.find? policyId =
        (lastEffect (acknowledged e policyId) (hostRecord host inputs)).or
          (host.enforcer.appliedPolicies.find? policyId) := by
    intro inputs
    induction inputs with
    | nil => exact fun host _ => rfl
    | cons input inputs ih =>
        intro host hsame
        obtain ⟨resp, hout, hnext, hrecord, -⟩ := serve_spec host input
        have hack : acknowledged host.enforcer policyId (input, resp) =
            acknowledged e policyId (input, resp) := by
          simp only [acknowledged, hsame.recorded_eq]
        rw [hostAfter, finalState_cons, hostRecord, outputs_cons, hout, lastEffect_append]
        refine (ih _ (hsame.trans hnext)).trans ?_
        rw [hrecord, hack, Option.or_assoc]
        congr 2
        cases hcase : acknowledged e policyId (input, resp) with
        | none => simp [lastEffect, hcase]
        | some p => simp [lastEffect, hcase]
  rw [key inputs ⟨e, disk⟩ ⟨rfl, rfl⟩, hnew]
  exact Option.or_none

/-- A request that meets the host of `webSurroundings` at some time. A command that the shell expands
deletes all files. -/
def inputAt (nowNs : UInt64) (bytes : ByteString) : PolicyInput (List ByteString) where
  bytes := bytes
  tree := policyHost
  httpDockerGet := webSurroundings.httpDockerGet
  system := webSurroundings.system
  effect := fun command disk => if (readCommand command).isSome then disk else Table.empty
  nowNs := nowNs

/-- The same policy twice: the second request is the one that is recorded. -/
theorem appliedPolicies_two_requests :
    (hostAfter ⟨defaultEnforcer, Table.empty⟩
        [inputAt 5 (seccompRequest "p-1"), inputAt 8 (seccompRequest "p-1"),
          inputAt 9 (seccompRequest "q/2")]).enforcer.appliedPolicies.find? (ascii "p-1") =
      some ⟨ascii "4f66ad9a", ascii "SECCOMP", ascii "/var/lib/deepkernel/policies/p-1.json", 8⟩ := by
  rw [appliedPolicies_eq_last defaultEnforcer rfl]
  decide +kernel

theorem sameSettings_hostAfter {e : PolicyEnforcer} {host : PolicyHost Dir}
    (hsame : SameSettings e host.enforcer) (inputs : List (PolicyInput Dir)) :
    SameSettings e (hostAfter host inputs).enforcer := by
  induction inputs generalizing host with
  | nil => exact hsame
  | cons input inputs ih =>
      obtain ⟨-, -, hnext, -⟩ := serve_spec host input
      exact ih (hsame.trans hnext)

/-- A file that holds the profile of a mode keeps it. -/
theorem disk_serve {mode : ByteString} {host : PolicyHost Dir}
    (hmode : host.enforcer.enforcementMode = mode) {input : PolicyInput Dir}
    (hharmless : input.Harmless host.enforcer) {file : Dir × ByteString}
    (hspares : Spares input.effect file.1)
    (hfile : host.disk.find? file = some (generateSeccompProfile mode [])) :
    (host.serve input).1.disk.find? file = some (generateSeccompProfile mode []) := by
  obtain ⟨-, -, -, -, hcontent, -⟩ := serve_spec host input
  rw [find?_serve hharmless hspares file.2, PolicyOutcome.write]
  cases hwritten : (host.enforcer.serve input.surroundings input.bytes).written with
  | none => exact hfile
  | some written =>
      have hprofile := hcontent written.1 written.2 hwritten
      simp only [Table.find?_set, hprofile, hmode]
      split
      · rfl
      · exact hfile

theorem disk_hostAfter {mode : ByteString} {host : PolicyHost Dir}
    (hmode : host.enforcer.enforcementMode = mode) {inputs : List (PolicyInput Dir)}
    (hharmless : ∀ input ∈ inputs, input.Harmless host.enforcer) {file : Dir × ByteString}
    (hspares : ∀ input ∈ inputs, Spares input.effect file.1)
    (hfile : host.disk.find? file = some (generateSeccompProfile mode [])) :
    (hostAfter host inputs).disk.find? file = some (generateSeccompProfile mode []) := by
  induction inputs generalizing host with
  | nil => exact hfile
  | cons input inputs ih =>
      obtain ⟨-, -, hsame, -⟩ := serve_spec host input
      exact ih (hsame.enforcementMode.trans hmode)
        (fun i hi => hsame.harmless (hharmless i (List.mem_cons_of_mem _ hi)))
        (fun i hi => hspares i (List.mem_cons_of_mem _ hi))
        (disk_serve hmode (hharmless input List.mem_cons_self)
          (hspares input List.mem_cons_self) hfile)

/-- A harmless seccomp policy that is answered 200 has its profile in the directory of the policies,
and keeps it under harmless requests. -/
theorem profile_of_acknowledged {e : PolicyEnforcer} {host : PolicyHost Dir}
    (hsame : SameSettings e host.enforcer) {input : PolicyInput Dir}
    {later : List (PolicyInput Dir)} {answer : HttpResponse}
    (hanswer : (host.serve input).2 = [(input, answer)]) (hok : answer.1 = 200)
    {containerName policyId specJson : ByteString}
    (hclient : handleClient input.bytes =
      .policy containerName policyId (ascii "SECCOMP") specJson)
    (hharmless : ∀ i ∈ input :: later, i.Harmless e)
    (hspares : ∀ dir, input.tree.directory e.policyDir = some dir →
      ∀ i ∈ input :: later, Spares i.effect dir) :
    ∃ file, e.profileFile input.surroundings policyId = some file ∧
      input.tree.directory e.policyDir = some file.1 ∧
      (hostAfter host (input :: later)).disk.find? file =
        some (generateSeccompProfile e.enforcementMode []) := by
  obtain ⟨resp, hout, hnext, -, -, hwritten⟩ := serve_spec host input
  rw [hanswer] at hout
  have hresp : answer = resp := (Prod.mk.inj (List.singleton_inj.1 hout)).2
  obtain ⟨file, hfile, hprofile⟩ := hwritten _ _ _ hclient (hresp ▸ hok)
  rw [hsame.profileFile_eq] at hfile
  -- the file is in the directory of the policies
  have hstays := (hharmless input List.mem_cons_self _ _ _ _ hclient rfl
    (by rw [hfile]; rfl)).1
  rw [PolicyEnforcer.leadsTo_of_profileFile hfile] at hstays
  have hdir : input.tree.directory e.policyDir = some file.1 := hstays.symm
  have hspared := hspares file.1 hdir
  refine ⟨file, hfile, hdir, ?_⟩
  -- it is written before the commands of the request run
  have hnow : (host.serve input).1.disk.find? file =
      some (generateSeccompProfile e.enforcementMode []) := by
    rw [find?_serve (hsame.harmless (hharmless input List.mem_cons_self))
      (hspared input List.mem_cons_self) file.2, PolicyOutcome.write, hprofile,
      hsame.enforcementMode]
    exact Table.find?_set_self _ _ _
  rw [hostAfter, finalState_cons]
  exact disk_hostAfter (hsame.trans hnext).enforcementMode
    (fun i hi => (hsame.trans hnext).harmless (hharmless i (List.mem_cons_of_mem _ hi)))
    (fun i hi => hspared i (List.mem_cons_of_mem _ hi)) hnow

/-- The mode of an enforcer is one of two, and a mode that was replaced is not `LOG`. -/
theorem connectAction_create (policyDir : ByteString) (hdir : 0 ∉ policyDir)
    (enforcementMode : ByteString) :
    ((PolicyEnforcer.create policyDir hdir enforcementMode).enforcementMode = ascii "ERRNO" ∨
      (PolicyEnforcer.create policyDir hdir enforcementMode).enforcementMode = ascii "LOG") ∧
    connectAction (PolicyEnforcer.create policyDir hdir enforcementMode).enforcementMode =
      connectAction enforcementMode := by
  simp only [PolicyEnforcer.create]
  by_cases herrno : enforcementMode = ascii "ERRNO"
  · rw [if_neg fun h => h.1 herrno]
    exact ⟨Or.inl herrno, rfl⟩
  · by_cases hlog : enforcementMode = ascii "LOG"
    · rw [if_neg fun h => h.2 hlog]
      exact ⟨Or.inr hlog, rfl⟩
    · rw [if_pos ⟨herrno, hlog⟩]
      refine ⟨Or.inl rfl, ?_⟩
      rw [connectAction, connectAction, if_neg (by decide), if_neg hlog]

theorem handleClient_seccompRequest_p1 : handleClient (seccompRequest "p-1") =
    .policy (ascii "web") (ascii "p-1") (ascii "SECCOMP") (seccompBody "p-1") := by
  decide +kernel

theorem handleClient_seccompRequest_p2 : handleClient (seccompRequest "p-2") =
    .policy (ascii "web") (ascii "p-2") (ascii "SECCOMP") (seccompBody "p-2") := by
  decide +kernel

end Runs

end DeepKernel.Agent
