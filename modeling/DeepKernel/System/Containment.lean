import DeepKernel.Agent.AppliedPolicies
import DeepKernel.System.Enforcement
import DeepKernel.System.PolicyDelivery

/-!
# From a threat to a profile on the host

The server and the host of its agent under a sequence of windows. A window that is triaged as a threat
stores a policy as applied and sends it; the agent reads the request with one `recv` and writes a
profile. Between the two everything may be lost: the connection, the end of the request, the
response. Which applied policies have their profile on the host is decided by the bytes of the first
`recv` and by the file (`applied_policy_contained_iff`), and by nothing else that the server or the
agent does before or afterwards, as long as the shell takes the ids of the containers literally.
-/

set_option autoImplicit false

namespace DeepKernel.Server

/-- The environment with this answer of the agent. -/
def IngestEnv.withReply {R : Type} (env : IngestEnv R) (reply : HttpOutcome) : IngestEnv R :=
  { env with agentReply := reply }

end DeepKernel.Server

namespace DeepKernel.System

open DeepKernel.Lib DeepKernel.Agent

open DeepKernel.Server (Platform Policy PolicyCommand Controller IngestEnv ServerState HttpOutcome
  ShortWindowPayload policyCommand)

/-! ## The server and the agent -/

/-- A window at the server: its payload and what everything outside answers, the connection to the
agent, and what the agent meets. `arrived` is the number of bytes that the first `recv` of the agent
finds, `none` if there is no connection; `answered` says that the response comes back. -/
structure WindowInput (R Dir : Type) where
  payload : ShortWindowPayload
  env : IngestEnv R
  transport : Transport
  arrived : Option Nat
  answered : Bool
  tree : DirectoryTree Dir
  httpDockerGet : ByteString → ByteString
  system : ByteString → Int
  effect : ByteString → Disk Dir → Disk Dir
  nowNs : UInt64

/-- The bytes of a request at the agent. -/
def WindowInput.atAgent {R Dir : Type} (input : WindowInput R Dir) (bytes : ByteString) :
    PolicyInput Dir :=
  ⟨bytes, input.tree, input.httpDockerGet, input.system, input.effect, input.nowNs⟩

/-- The server with the host of its agent. -/
structure Plant (R Dir : Type) where
  server : ServerState R
  host : PolicyHost Dir

section Plant

variable {R Dir : Type} [Field R] [LinearOrder R] [DecidableEq Dir]

omit [Field R] [LinearOrder R] in
/-- A request for a policy: the host afterwards, and the outcome of the call of the server. -/
def deliverPolicy (p : Platform R) (host : PolicyHost Dir) (input : WindowInput R Dir)
    (command : PolicyCommand R) : PolicyHost Dir × HttpOutcome :=
  match input.arrived with
  | none => (host, .exception)
  | some n =>
      let bytes := (input.transport.request p command).take n
      -- the agent closes a connection on which nothing was received
      if bytes = [] then (host, .exception)
      else
        let served := host.serve (input.atAgent bytes)
        (served.1, if input.answered then
          (served.2.head?.map fun entry => HttpOutcome.reply entry.2.1).getD .exception
          else .exception)

/-- One window. Which command is sent does not depend on how the agent answers it. -/
def Plant.step (ctl : Controller R) (plant : Plant R Dir) (input : WindowInput R Dir) :
    Plant R Dir × List (PolicyCommand R × HttpOutcome) :=
  let ingested := ctl.ingestWindow input.env input.payload plant.server
  match ingested.sent.head? with
  | none => (⟨ingested.state, plant.host⟩, [])
  | some (command, _) =>
      let delivered := deliverPolicy ctl.platform plant.host input command
      let ingested :=
        ctl.ingestWindow (input.env.withReply delivered.2) input.payload plant.server
      (⟨ingested.state, delivered.1⟩, ingested.sent)

/-- After some windows. -/
abbrev plantAfter (ctl : Controller R) (plant : Plant R Dir)
    (inputs : List (WindowInput R Dir)) : Plant R Dir :=
  finalState (Plant.step ctl) plant inputs

end Plant

/-! ## One window -/

section Window

variable {R Dir : Type} [Field R] [LinearOrder R] [DecidableEq Dir]
variable (ctl : Controller R)

/-- The window is triaged as a threat. -/
def WindowInput.Threat (input : WindowInput R Dir) : Prop :=
  ctl.TriagedAsThreat input.env input.payload

omit [DecidableEq Dir] in
/-- The policy and the commands of a threat, for every answer of the agent. -/
theorem exists_policy_of_threat {input : WindowInput R Dir} (h : input.Threat ctl)
    (s : ServerState R) :
    ∃ policy : Policy R, policy.id = input.env.policyId ∧ policy.type = .seccomp ∧
      policy.status = .applied ∧ ∀ reply,
        (ctl.ingestWindow (input.env.withReply reply) input.payload s).state.policies =
            s.policies ++ [policy] ∧
          (ctl.ingestWindow (input.env.withReply reply) input.payload s).sent =
            [(policyCommand ctl.platform input.payload.containerId policy input.env.commandId,
              reply)] := by
  obtain ⟨score, triageResult, hscore, htriage, hthreat⟩ := h
  have happlied : ∃ policy, ctl.appliedPolicy input.env
      (Server.pendingWindow input.payload input.env.windowId score) triageResult = some policy ∧
        policy.id = input.env.policyId ∧ policy.type = .seccomp ∧ policy.status = .applied := by
    rw [Controller.appliedPolicy, Server.generatePolicy, if_pos hthreat]
    exact ⟨_, rfl, rfl, rfl, rfl⟩
  obtain ⟨policy, hpolicy, hid, htype, hstatus⟩ := happlied
  refine ⟨policy, hid, htype, hstatus, fun reply => ?_⟩
  -- neither the score nor the triage reads the answer of the agent
  have hscore' : (input.env.withReply reply).scoreWindow input.payload.containerId
      (Server.extract ctl.log input.payload) = some score := hscore
  have htriage' : ctl.triageWindow (input.env.withReply reply) input.payload
      (Server.pendingWindow input.payload (input.env.withReply reply).windowId score) =
        some triageResult := htriage
  have hpolicy' : ctl.appliedPolicy (input.env.withReply reply)
      (Server.pendingWindow input.payload (input.env.withReply reply).windowId score) triageResult =
        some policy := hpolicy
  have hdone := Controller.ingestWindow_of_triage (s := s) hscore' htriage'
  have hpolicies := hdone.policies
  have hsent := hdone.sent
  rw [hpolicy'] at hpolicies hsent
  exact ⟨hpolicies, hsent⟩

/-- The id of the container that is sent. -/
def WindowInput.containerId (p : Platform R) (input : WindowInput R Dir) : String :=
  if p.isBlank input.payload.containerId then "unknown" else input.payload.containerId

/-- The first `recv` of the agent takes the request up to the mark behind the id of the container. -/
def WindowInput.Reaches (p : Platform R) (input : WindowInput R Dir) : Prop :=
  ∃ n, input.arrived = some n ∧
    input.transport.needed (input.containerId p) input.env.policyId "SECCOMP" ≤ min n 8191

/-- A text of hexadecimal digits and hyphens, as `UUID.randomUUID` makes it. -/
structure RandomId (p : Platform R) (s : String) : Prop where
  mem_digits : ∀ ch ∈ s.toList, ch ∈ "0123456789abcdef-".toList
  not_blank : p.isBlank s = false

theorem step_of_not_threat {input : WindowInput R Dir} (h : ¬ input.Threat ctl)
    (plant : Plant R Dir) :
    (plant.step ctl input).1.server.policies = plant.server.policies ∧
      (plant.step ctl input).1.host = plant.host := by
  rcases ctl.policies_cases input.env input.payload plant.server with
    ⟨-, hpolicies, hsent⟩ | ⟨hyes, -⟩
  · rw [Plant.step, hsent]
    exact ⟨hpolicies, rfl⟩
  · exact absurd hyes h

/-- A threat stores an applied policy and delivers its command. -/
theorem step_of_threat {input : WindowInput R Dir} (h : input.Threat ctl)
    (hid : ctl.platform.isBlank input.env.policyId = false) (plant : Plant R Dir) :
    ∃ (policy : Policy R) (command : PolicyCommand R),
      policy.id = input.env.policyId ∧ policy.status = .applied ∧
        (plant.step ctl input).1.server.policies = plant.server.policies ++ [policy] ∧
        command.containerId = input.containerId ctl.platform ∧
        command.policyId = input.env.policyId ∧ command.type = .seccomp ∧
        (plant.step ctl input).1.host =
          (deliverPolicy ctl.platform plant.host input command).1 := by
  obtain ⟨policy, hpolicy, htype, hstatus, hreply⟩ := exists_policy_of_threat ctl h plant.server
  have hsent : (ctl.ingestWindow input.env input.payload plant.server).sent =
      [(policyCommand ctl.platform input.payload.containerId policy input.env.commandId,
        input.env.agentReply)] := (hreply input.env.agentReply).2
  refine ⟨policy, policyCommand ctl.platform input.payload.containerId policy input.env.commandId,
    hpolicy, hstatus, ?_, rfl, ?_, htype, ?_⟩
  · rw [Plant.step, hsent]
    exact (hreply _).1
  · rw [← hpolicy] at hid ⊢
    simp only [policyCommand, hid, Bool.false_eq_true, if_false]
  · rw [Plant.step, hsent]
    rfl

end Window

/-! ## Ids and files -/

section Ids

variable {R Dir : Type} {p : Platform R} {s s' : String}

theorem RandomId.plain (h : RandomId p s) : Plain s := by
  have hdigits : ∀ ch ∈ "0123456789abcdef-".toList, ch ≠ '"' ∧ ch ≠ '\\' ∧ 32 ≤ ch.toNat :=
    List.forall_iff_forall_mem.1 (by decide)
  exact fun ch hch => hdigits ch (h.mem_digits ch hch)

theorem RandomId.utf8Text_eq (h : RandomId p s) : utf8Text s = ascii s := by
  have hdigits : ∀ ch ∈ "0123456789abcdef-".toList, utf8 ch.toNat = [UInt8.ofNat ch.toNat] :=
    List.forall_iff_forall_mem.1 (by decide)
  rw [utf8Text, ascii, List.map_eq_flatMap]
  exact List.flatMap_congr fun ch hch => hdigits ch (h.mem_digits ch hch)

/-- Neither a NUL nor a slash. -/
theorem RandomId.ne_of_mem (h : RandomId p s) {b : UInt8} (hb : b ∈ ascii s) : b ≠ 0 ∧ b ≠ 47 := by
  have hdigits : ∀ ch ∈ "0123456789abcdef-".toList,
      UInt8.ofNat ch.toNat ≠ 0 ∧ UInt8.ofNat ch.toNat ≠ 47 :=
    List.forall_iff_forall_mem.1 (by decide)
  obtain ⟨ch, hch, rfl⟩ := List.mem_map.1 hb
  exact hdigits ch (h.mem_digits ch hch)

theorem RandomId.ascii_injective (h : RandomId p s) (h' : RandomId p s')
    (heq : ascii s = ascii s') : s = s' := by
  have hdigits : ∀ ch ∈ "0123456789abcdef-".toList, Char.ofNat (UInt8.ofNat ch.toNat).toNat = ch :=
    List.forall_iff_forall_mem.1 (by decide)
  -- the bytes read as characters again
  have hback : ∀ {t : String}, RandomId p t →
      (ascii t).map (fun b => Char.ofNat b.toNat) = t.toList := by
    intro t ht
    rw [ascii, List.map_map]
    exact (List.map_congr_left fun ch hch => hdigits ch (ht.mem_digits ch hch)).trans
      (List.map_id' _)
  apply String.ext
  rw [← hback h, heq, hback h']

theorem isLiteral_profilePath (h : RandomId p s) {e : PolicyEnforcer}
    (hdir : isLiteral e.policyDir = true) : isLiteral (e.profilePath (utf8Text s)) = true := by
  have hdigits : ∀ ch ∈ "0123456789abcdef-".toList, isLiteral [UInt8.ofNat ch.toNat] = true :=
    List.forall_iff_forall_mem.1 (by decide)
  have hid : ∀ chars : List Char, (∀ ch ∈ chars, ch ∈ "0123456789abcdef-".toList) →
      isLiteral (chars.map fun ch => UInt8.ofNat ch.toNat) = true := by
    intro chars hchars
    induction chars with
    | nil => rfl
    | cons ch chars ih =>
        exact isLiteral_append (hdigits ch (hchars ch List.mem_cons_self))
          (ih fun c hc => hchars c (List.mem_cons_of_mem _ hc))
  rw [h.utf8Text_eq]
  exact isLiteral_appendPath hdir
    (isLiteral_append (hid s.toList h.mem_digits) (by decide))

variable (tree : DirectoryTree Dir) (e : PolicyEnforcer)

/-- The file of a policy on the host, if it can be opened. -/
def profileOnHost (policyId : String) : Option (Dir × ByteString) :=
  tree.openedFile (cString (e.profilePath (utf8Text policyId)))

theorem name_of_profileOnHost (h : RandomId p s) {file : Dir × ByteString}
    (hopened : profileOnHost tree e s = some file) : file.2 = ascii s ++ ascii ".json" := by
  have hlocate := (Option.filter_eq_some_iff.1 hopened).1
  have hjson : ∀ b ∈ ascii ".json", b ≠ 0 ∧ b ≠ 47 := List.forall_iff_forall_mem.1 (by decide)
  have hbytes : ∀ b ∈ ascii s ++ ascii ".json", b ≠ 0 ∧ b ≠ 47 := by
    intro b hb
    rcases List.mem_append.1 hb with hb | hb
    · exact h.ne_of_mem hb
    · exact hjson b hb
  have hcut : cString (ascii s ++ ascii ".json") = ascii s ++ ascii ".json" :=
    List.takeWhile_eq_self_iff.2 fun b hb => bne_iff_ne.2 (hbytes b hb).1
  have hslash : 47 ∉ ascii s ++ ascii ".json" := fun hmem => (hbytes 47 hmem).2 rfl
  rw [PolicyEnforcer.profilePath, h.utf8Text_eq, cString_appendPath e.nul_not_mem, hcut,
    locate_appendPath tree fun heq => hslash (List.mem_of_mem_head? heq)] at hlocate
  obtain ⟨d, -, hwalk⟩ := Option.bind_eq_some_iff.1 hlocate
  rw [tree.walk_of_no_slash hslash] at hwalk
  rw [← Option.some.inj hwalk]
  rfl

variable {tree e}

/-- Different ids have different files. -/
theorem profileOnHost_injective (h : RandomId p s) (h' : RandomId p s') {tree' : DirectoryTree Dir}
    {file : Dir × ByteString} (hfile : profileOnHost tree e s = some file)
    (hfile' : profileOnHost tree' e s' = some file) : s = s' :=
  h.ascii_injective h' (List.append_cancel_right
    ((name_of_profileOnHost tree e h hfile).symm.trans (name_of_profileOnHost tree' e h' hfile')))

theorem RandomId.no_slash (h : RandomId p s) : 47 ∉ utf8Text s := by
  rw [h.utf8Text_eq]
  exact fun hmem => (h.ne_of_mem hmem).2 rfl

/-- The file of a random id is in the directory of the policies. -/
theorem directory_of_profileOnHost (h : RandomId p s) {file : Dir × ByteString}
    (hfile : profileOnHost tree e s = some file) : tree.directory e.policyDir = some file.1 := by
  have hprofile : e.profileFile ⟨tree, fun _ => [], fun _ => 0, 0⟩ (utf8Text s) = some file := hfile
  have hleads := PolicyEnforcer.leadsTo_of_profileFile hprofile
  rw [PolicyEnforcer.leadsTo_of_no_slash h.no_slash] at hleads
  exact hleads

end Ids

/-! ## Delivery -/

section Delivery

variable {R Dir : Type} [DecidableEq Dir] {p : Platform R} {command : PolicyCommand R}
  {input : WindowInput R Dir} {e : PolicyEnforcer} {host : PolicyHost Dir}

/-- The ids of a command that can be found in its text, and that the shell takes literally. -/
structure Readable (p : Platform R) (input : WindowInput R Dir) (command : PolicyCommand R) :
    Prop where
  containerId_eq : command.containerId = input.containerId p
  policyId_eq : command.policyId = input.env.policyId
  type_eq : command.type = .seccomp
  plain : Plain input.payload.containerId
  literal : isLiteral (utf8Text input.payload.containerId) = true
  randomId : RandomId p input.env.policyId

omit [DecidableEq Dir] in
theorem Readable.plain_containerId (h : Readable p input command) :
    Plain command.containerId ∧ command.containerId ≠ "" := by
  rw [h.containerId_eq, WindowInput.containerId]
  cases hblank : p.isBlank input.payload.containerId with
  | true =>
      rw [if_pos rfl]
      exact ⟨by decide, by decide⟩
  | false => exact ⟨h.plain, ne_empty_of_not_blank hblank⟩

omit [DecidableEq Dir] in
theorem Readable.literal_containerId (h : Readable p input command) :
    isLiteral (utf8Text command.containerId) = true := by
  rw [h.containerId_eq, WindowInput.containerId]
  split_ifs
  · decide
  · exact h.literal

omit [DecidableEq Dir] in
/-- What the agent finds in a part of the request. -/
theorem handleClient_of_reaches (hcommand : Readable p input command) {n : Nat}
    (harrived : input.arrived = some n) (h : input.Reaches p) :
    ∃ spec, handleClient ((input.transport.request p command).take n) =
      .policy (utf8Text command.containerId) (utf8Text input.env.policyId) (ascii "SECCOMP")
        spec := by
  obtain ⟨n', harrived', hneeded⟩ := h
  obtain rfl : n' = n := Option.some.inj (harrived'.symm.trans harrived)
  obtain ⟨hcontainer, hcontainerNe⟩ := hcommand.plain_containerId
  rw [← hcommand.containerId_eq, ← hcommand.policyId_eq] at hneeded
  have htype : typeName command.type = "SECCOMP" := by rw [hcommand.type_eq]; rfl
  rw [← htype] at hneeded
  have hrandom := hcommand.randomId
  rw [← hcommand.policyId_eq] at hrandom
  obtain ⟨spec, hclient⟩ := handleClient_of_needed_le (p := p) input.transport hcontainer
    hcontainerNe hrandom.plain (ne_empty_of_not_blank hrandom.not_blank) hneeded
  have hseccomp : utf8Text (typeName command.type) = ascii "SECCOMP" := by rw [htype]; decide
  rw [hseccomp, hcommand.policyId_eq] at hclient
  exact ⟨spec, hclient⟩

omit [DecidableEq Dir] in
theorem handleClient_of_not_reaches (hcommand : Readable p input command) {n : Nat}
    (harrived : input.arrived = some n) (h : ¬ input.Reaches p) (c i ty spec : ByteString) :
    handleClient ((input.transport.request p command).take n) ≠ .policy c i ty spec := by
  refine handleClient_of_lt_needed input.transport hcommand.plain_containerId.1 ?_ c i ty spec
  rw [hcommand.containerId_eq, hcommand.policyId_eq, hcommand.type_eq]
  exact lt_of_not_ge fun hle => h ⟨n, harrived, hle⟩

/-- A request of which too little arrives does nothing. -/
theorem deliverPolicy_of_not_reaches (hcommand : Readable p input command)
    (h : ¬ input.Reaches p) : (deliverPolicy p host input command).1 = host := by
  rw [deliverPolicy]
  cases harrived : input.arrived with
  | none => rfl
  | some n =>
      by_cases hnil : (input.transport.request p command).take n = []
      · simp only [if_pos hnil]
      · simp only [if_neg hnil]
        exact serve_of_not_policy host (handleClient_of_not_reaches hcommand harrived h)

omit [DecidableEq Dir] in
/-- A request that reaches the agent is harmless: the id stays in the directory of the policies, and
the shell expands nothing. -/
theorem harmless_of_reaches (hcommand : Readable p input command)
    (hliteral : isLiteral e.policyDir = true) {n : Nat} (harrived : input.arrived = some n)
    (h : input.Reaches p) :
    (input.atAgent ((input.transport.request p command).take n)).Harmless e := by
  obtain ⟨spec, hclient⟩ := handleClient_of_reaches hcommand harrived h
  intro c i ty spec' hclient' _ _
  obtain ⟨rfl, rfl, -, -⟩ := Action.policy.inj (hclient.symm.trans hclient')
  exact ⟨PolicyEnforcer.leadsTo_of_no_slash hcommand.randomId.no_slash,
    fun _ => ⟨isLiteral_profilePath hcommand.randomId hliteral, hcommand.literal_containerId⟩⟩

/-- A request that reaches the agent writes the profile, if its file can be opened, and leaves the
other files of a directory that Docker spares. -/
theorem disk_deliverPolicy_of_reaches (hcommand : Readable p input command)
    (hliteral : isLiteral e.policyDir = true) (hsame : SameSettings e host.enforcer)
    (h : input.Reaches p) {file : Dir × ByteString} (hspares : Spares input.effect file.1) :
    (deliverPolicy p host input command).1.disk.find? file =
      if profileOnHost input.tree e input.env.policyId = some file then
        some (generateSeccompProfile e.enforcementMode [])
      else host.disk.find? file := by
  obtain ⟨n, harrived, -⟩ := id h
  obtain ⟨spec, hclient⟩ := handleClient_of_reaches hcommand harrived h
  -- no policy is read from nothing
  have hnil : (input.transport.request p command).take n ≠ [] := by
    intro hnil
    have hnotFound : handleClient [] = .notFound := by decide +kernel
    rw [hnil, hnotFound] at hclient
    cases hclient
  have hserved := find?_serve
    (hsame.harmless (harmless_of_reaches hcommand hliteral harrived h)) hspares file.2
  have hwritten := written_serve_seccomp host.enforcer
    (show handleClient (input.atAgent ((input.transport.request p command).take n)).bytes = _
      from hclient)
  have hprofile : host.enforcer.profileFile
      (input.atAgent ((input.transport.request p command).take n)).surroundings
        (utf8Text input.env.policyId) = profileOnHost input.tree e input.env.policyId :=
    hsame.profileFile_eq _ _
  rw [hprofile, hsame.enforcementMode] at hwritten
  rw [PolicyOutcome.write, hwritten] at hserved
  rw [deliverPolicy, harrived]
  simp only [if_neg hnil]
  refine hserved.trans ?_
  cases profileOnHost input.tree e input.env.policyId with
  | none => rfl
  | some other =>
      simp only [Option.map_some, Table.find?_set, Option.some.injEq, eq_comm (a := other)]

theorem sameSettings_deliverPolicy (p : Platform R) (command : PolicyCommand R)
    (input : WindowInput R Dir) (hsame : SameSettings e host.enforcer) :
    SameSettings e (deliverPolicy p host input command).1.enforcer := by
  rw [deliverPolicy]
  cases input.arrived with
  | none => exact hsame
  | some n =>
      by_cases hnil : (input.transport.request p command).take n = []
      · simp only [if_pos hnil]
        exact hsame
      · simp only [if_neg hnil]
        obtain ⟨-, -, hnext, -⟩ := serve_spec host
          (input.atAgent ((input.transport.request p command).take n))
        exact hsame.trans hnext

end Delivery

/-! ## Runs -/

section Runs

variable {R Dir : Type} [Field R] [LinearOrder R] [DecidableEq Dir]
variable (ctl : Controller R) (e : PolicyEnforcer)

/-- The window has a random policy id, and a container id that is written as it is and that the shell
takes literally. -/
structure WindowInput.Ordinary (input : WindowInput R Dir) : Prop where
  randomId : RandomId ctl.platform input.env.policyId
  plain : Plain input.payload.containerId
  literal : isLiteral (utf8Text input.payload.containerId) = true

/-- The window makes the agent write a file. -/
structure WindowInput.Writes (input : WindowInput R Dir) (file : Dir × ByteString) : Prop where
  threat : input.Threat ctl
  reaches : input.Reaches ctl.platform
  file_eq : profileOnHost input.tree e input.env.policyId = some file

/-- One window: the settings stay, and a file changes if it is written. -/
theorem step_spec {input : WindowInput R Dir} (hordinary : input.Ordinary ctl)
    (hliteral : isLiteral e.policyDir = true) {plant : Plant R Dir}
    (hsame : SameSettings e plant.host.enforcer) :
    SameSettings e (plant.step ctl input).1.host.enforcer ∧
      (∀ policy ∈ (plant.step ctl input).1.server.policies,
        policy ∈ plant.server.policies ∨
          input.Threat ctl ∧ input.env.policyId = policy.id ∧ policy.status = .applied) ∧
      ∀ file, Spares input.effect file.1 →
        (input.Writes ctl e file ∧ (plant.step ctl input).1.host.disk.find? file =
            some (generateSeccompProfile e.enforcementMode [])) ∨
          (¬ input.Writes ctl e file ∧
            (plant.step ctl input).1.host.disk.find? file = plant.host.disk.find? file) := by
  by_cases hthreat : input.Threat ctl
  · obtain ⟨policy, command, hid, hstatus, hpolicies, hcontainerId, hpolicyId, htype, hhost⟩ :=
      step_of_threat ctl hthreat hordinary.randomId.not_blank plant
    have hcommand : Readable ctl.platform input command :=
      ⟨hcontainerId, hpolicyId, htype, hordinary.plain, hordinary.literal, hordinary.randomId⟩
    rw [hpolicies, hhost]
    refine ⟨sameSettings_deliverPolicy _ command input hsame, fun stored hstored => ?_,
      fun file hspares => ?_⟩
    · rcases List.mem_append.1 hstored with hold | hnew
      · exact Or.inl hold
      · obtain rfl := List.mem_singleton.1 hnew
        exact Or.inr ⟨hthreat, hid.symm, hstatus⟩
    · by_cases hreaches : input.Reaches ctl.platform
      · rw [disk_deliverPolicy_of_reaches hcommand hliteral hsame hreaches hspares]
        by_cases hfile : profileOnHost input.tree e input.env.policyId = some file
        · rw [if_pos hfile]
          exact Or.inl ⟨⟨hthreat, hreaches, hfile⟩, rfl⟩
        · rw [if_neg hfile]
          exact Or.inr ⟨fun h => hfile h.file_eq, rfl⟩
      · rw [deliverPolicy_of_not_reaches hcommand hreaches]
        exact Or.inr ⟨fun h => hreaches h.reaches, rfl⟩
  · obtain ⟨hpolicies, hhost⟩ := step_of_not_threat ctl hthreat plant
    rw [hpolicies, hhost]
    exact ⟨hsame, fun policy hpolicy => Or.inl hpolicy,
      fun file _ => Or.inr ⟨fun h => hthreat h.threat, rfl⟩⟩

/-- A run: a stored policy is from some threat, and a file holds the profile exactly if some window
wrote it. -/
theorem plantAfter_spec {inputs : List (WindowInput R Dir)}
    (hordinary : ∀ input ∈ inputs, input.Ordinary ctl) (hliteral : isLiteral e.policyDir = true)
    (plant : Plant R Dir) (hsame : SameSettings e plant.host.enforcer) :
    (∀ policy ∈ (plantAfter ctl plant inputs).server.policies,
        policy ∈ plant.server.policies ∨ ∃ input ∈ inputs,
          input.Threat ctl ∧ input.env.policyId = policy.id ∧ policy.status = .applied) ∧
      ∀ file, (∀ input ∈ inputs, Spares input.effect file.1) →
        ((∃ input ∈ inputs, input.Writes ctl e file) ∧
            (plantAfter ctl plant inputs).host.disk.find? file =
              some (generateSeccompProfile e.enforcementMode [])) ∨
          ((¬ ∃ input ∈ inputs, input.Writes ctl e file) ∧
            (plantAfter ctl plant inputs).host.disk.find? file =
              plant.host.disk.find? file) := by
  induction inputs generalizing plant with
  | nil => exact ⟨fun policy hpolicy => Or.inl hpolicy, fun file _ => Or.inr ⟨by simp, rfl⟩⟩
  | cons input inputs ih =>
      obtain ⟨hsame', hpolicies, hdisk⟩ :=
        step_spec ctl e (hordinary input List.mem_cons_self) hliteral hsame
      obtain ⟨hlater, hfiles⟩ :=
        ih (fun i hi => hordinary i (List.mem_cons_of_mem _ hi)) _ hsame'
      refine ⟨fun policy hpolicy => ?_, fun file hspares => ?_⟩
      · rcases hlater policy hpolicy with hbefore | ⟨i, hi, hthreat⟩
        · rcases hpolicies policy hbefore with hold | hnew
          · exact Or.inl hold
          · exact Or.inr ⟨input, List.mem_cons_self, hnew⟩
        · exact Or.inr ⟨i, List.mem_cons_of_mem _ hi, hthreat⟩
      · rcases hfiles file fun i hi => hspares i (List.mem_cons_of_mem _ hi) with
          ⟨⟨i, hi, hwrites⟩, hfound⟩ | ⟨hno, hkept⟩
        · exact Or.inl ⟨⟨i, List.mem_cons_of_mem _ hi, hwrites⟩, hfound⟩
        · -- the later windows keep what this one left
          rcases hdisk file (hspares input List.mem_cons_self) with
            ⟨hwrites, hfound⟩ | ⟨hnot, hsamefile⟩
          · exact Or.inl ⟨⟨input, List.mem_cons_self, hwrites⟩, hkept.trans hfound⟩
          · refine Or.inr ⟨?_, hkept.trans hsamefile⟩
            rintro ⟨i, hi, hwrites⟩
            rcases List.mem_cons.1 hi with rfl | hi
            · exact hnot hwrites
            · exact hno ⟨i, hi, hwrites⟩

/-- The file holds a profile that lets every system call through but `connect`. -/
def Blocks (enforcementMode : ByteString) (disk : Table (Dir × ByteString) ByteString)
    (file : Dir × ByteString) : Prop :=
  ∃ content profile, disk.find? file = some content ∧
    SeccompProfile.read content = some profile ∧
    ∀ syscall, profile.action syscall =
      if syscall = ascii "connect" then connectAction enforcementMode else ascii "SCMP_ACT_ALLOW"

theorem blocks_of_find (policyDir : ByteString) (hdir : 0 ∉ policyDir)
    (enforcementMode : ByteString) {disk : Table (Dir × ByteString) ByteString}
    {file : Dir × ByteString}
    (h : disk.find? file = some (generateSeccompProfile
      (PolicyEnforcer.create policyDir hdir enforcementMode).enforcementMode [])) :
    Blocks enforcementMode disk file := by
  obtain ⟨hmode, haction⟩ := connectAction_create policyDir hdir enforcementMode
  refine ⟨_, _, h, read_generateSeccompProfile hmode [], fun syscall => ?_⟩
  rw [action_connectRule, haction]

end Runs

/-- A window that the ML service flags, and a request of which some bytes arrive. A command that the
shell expands deletes all files. -/
def flaggedInput (policyId : String) (arrived : Nat) : WindowInput ℚ (List ByteString) where
  payload := ⟨1, "node-1", "prod/api", 0, none⟩
  env := { flaggedByService .exception with policyId := policyId }
  transport := ⟨[], [], [], by simp, by simp⟩
  arrived := some arrived
  answered := true
  tree := policyHost
  httpDockerGet := fun _ => ascii "\x7b\"Id\":\"4f66ad9a\"\x7d"
  system := fun _ => 0
  effect := fun command disk => bif (readCommand command).isSome then disk else Table.empty
  nowNs := 0

theorem threat_flaggedInput (policyId : String) (arrived : Nat) :
    (flaggedInput policyId arrived).Threat Server.exampleController := by
  have hscorer : (flaggedByService .exception).scoreWindow =
      (Scorer.mlService fun _ _ => some (-7 / 10)).scoreWindow := rfl
  have hthreat : Server.exampleController.TriagedAsThreat (flaggedByService .exception)
      ⟨1, "node-1", "prod/api", 0, none⟩ :=
    (triagedAsThreat_iff hscorer rfl).2 (flagged_flaggedByService .exception _)
  exact hthreat

end DeepKernel.System
