import DeepKernel.Agent.AgentServer
import DeepKernel.Lib.FilePaths

/-!
# Policies

`PolicyEnforcer::apply`, as `AgentServer` calls it for `POST /policies`. A seccomp profile is written to
a file whose path is made from the id of the policy, and two Docker commands are made from that path
and the name of the container by putting them between double quotes.

Neither text is checked. The requests that are confined all the same are those whose policy id does
not lead out of the directory of the policies and whose texts the shell takes literally.
-/

set_option autoImplicit false

namespace DeepKernel.Agent

open DeepKernel.Lib

/-! ## The enforcer -/

/-- `PolicyEnforcer::AppliedPolicy`. -/
structure AppliedPolicy where
  containerId : ByteString
  policyType : ByteString
  profilePath : ByteString
  appliedAtNs : UInt64

/-- `PolicyEnforcer`. The directory is a default or an environment variable, so it has no NUL. -/
structure PolicyEnforcer where
  policyDir : ByteString := ascii "/var/lib/deepkernel/policies"
  nul_not_mem : 0 ∉ policyDir
  enforcementMode : ByteString := ascii "ERRNO"
  appliedPolicies : Table ByteString AppliedPolicy := Table.empty

/-- What the enforcer meets: the directories of the host, the answers of the Docker socket (empty
after an error), the exit codes of `system` and the clock. -/
structure Surroundings (Dir : Type) where
  tree : DirectoryTree Dir
  httpDockerGet : ByteString → ByteString
  system : ByteString → Int
  nowNs : UInt64

/-- What `apply` returns and does: the enforcer afterwards, the file it writes with its contents, and
the commands it passes to `system`. -/
structure PolicyOutcome (Dir : Type) where
  applied : Bool
  enforcer : PolicyEnforcer
  written : Option ((Dir × ByteString) × ByteString) := none
  commands : List ByteString := []

/-- `generateSeccompProfile`, which does not read the specification. -/
def generateSeccompProfile (enforcementMode _specJson : ByteString) : ByteString :=
  let effectiveAction :=
    if enforcementMode = ascii "LOG" then ascii "SCMP_ACT_LOG" else ascii "SCMP_ACT_ERRNO"
  ascii "\x7b\n  \"defaultAction\": \"SCMP_ACT_ALLOW\",\n" ++
    ascii "  \"architectures\": [\"SCMP_ARCH_X86_64\", \"SCMP_ARCH_X86\", \"SCMP_ARCH_X32\"],\n" ++
    ascii "  \"comment\": \"DeepKernel generated policy - mode=" ++ enforcementMode ++
    ascii " (block connect)\",\n  \"syscalls\": [\n    \x7b\n      \"names\": [\"connect\"],\n" ++
    ascii "      \"action\": \"" ++ effectiveAction ++ ascii "\",\n" ++
    ascii "      \"comment\": \"Deny/log connect(2) for demo containment\"\n    \x7d\n" ++
    ascii "\n  ]\n\x7d\n"

/-- The redirections at the end of both commands. -/
def discardOutput : ByteString := ascii "> /dev/null 2>&1"

def updateCmd (containerName profilePath : ByteString) : ByteString :=
  ascii "docker update --security-opt seccomp=\"" ++ profilePath ++ ascii "\" \"" ++
    containerName ++ ascii "\" " ++ discardOutput

def restartCmd (containerName : ByteString) : ByteString :=
  ascii "docker restart \"" ++ containerName ++ ascii "\" " ++ discardOutput

namespace PolicyEnforcer

variable {Dir : Type} (w : Surroundings Dir) (e : PolicyEnforcer)

/-- The constructor: every other enforcement mode is replaced. -/
def create (policyDir : ByteString) (h : 0 ∉ policyDir) (enforcementMode : ByteString) :
    PolicyEnforcer where
  policyDir := policyDir
  nul_not_mem := h
  enforcementMode :=
    if enforcementMode ≠ ascii "ERRNO" ∧ enforcementMode ≠ ascii "LOG" then ascii "ERRNO"
    else enforcementMode

/-- The path of `writeSeccompProfile`. -/
def profilePath (policyId : ByteString) : ByteString :=
  appendPath e.policyDir (policyId ++ ascii ".json")

/-- The file of `writeSeccompProfile`, if it can be opened. -/
def profileFile (policyId : ByteString) : Option (Dir × ByteString) :=
  w.tree.openedFile (cString (e.profilePath policyId))

/-- `getContainerIdFromName`. -/
def getContainerIdFromName (containerName : ByteString) : ByteString :=
  extractJsonString (w.httpDockerGet (ascii "/containers/" ++ containerName ++ ascii "/json")) "Id"

/-- The commands of `updateContainerSeccomp`: there is no restart if the update fails. -/
def updateContainerSeccomp (containerName profilePath : ByteString) : List ByteString :=
  if w.system (cString (updateCmd containerName profilePath)) ≠ 0 then
    [updateCmd containerName profilePath]
  else [updateCmd containerName profilePath, restartCmd containerName]

/-- `appliedPolicies_[policyId] = ...`. -/
def record (policyId containerId policyType profilePath : ByteString) : PolicyEnforcer :=
  { e with
    appliedPolicies :=
      e.appliedPolicies.set policyId ⟨containerId, policyType, profilePath, w.nowNs⟩ }

/-- `apply`. Whether the commands succeed is printed only. -/
def apply (containerName policyId policyType specJson : ByteString) : PolicyOutcome Dir :=
  if policyType ≠ ascii "SECCOMP" then
    -- other types are not supported, and count as applied
    { applied := true, enforcer := e.record w policyId containerName policyType [] }
  else
    let profileJson := generateSeccompProfile e.enforcementMode specJson
    if profileJson = [] then { applied := false, enforcer := e }
    else
      match e.profileFile w policyId with
      | none => { applied := false, enforcer := e }
      | some file =>
          let profilePath := e.profilePath policyId
          let containerId := getContainerIdFromName w containerName
          if containerId = [] then
            -- the container is not found, and the policy is recorded all the same
            { applied := true
              enforcer := e.record w policyId containerName policyType profilePath
              written := some (file, profileJson) }
          else
            { applied := true
              enforcer := e.record w policyId containerId policyType profilePath
              written := some (file, profileJson)
              commands := updateContainerSeccomp w containerName profilePath }

/-- `handleClient` with the policy handler of the agent. -/
def serve (bytes : ByteString) : PolicyOutcome Dir :=
  match handleClient bytes with
  | .policy containerName policyId policyType specJson =>
      e.apply w containerName policyId policyType specJson
  | _ => { applied := false, enforcer := e }

/-! ## Confinement -/

/-- The words that the two commands should be. -/
def updateWords (containerName profilePath : ByteString) : List ByteString :=
  [ascii "docker", ascii "update", ascii "--security-opt", ascii "seccomp=" ++ profilePath,
    containerName]

@[inherit_doc updateWords]
def restartWords (containerName : ByteString) : List ByteString :=
  [ascii "docker", ascii "restart", containerName]

/-- A file is written in the directory of the policies only, and the shell reads the commands as the
update and the restart, with their output discarded. -/
structure Confined (containerName policyId : ByteString) (outcome : PolicyOutcome Dir) : Prop where
  file : ∀ file content, outcome.written = some (file, content) →
    w.tree.directory e.policyDir = some file.1
  commands : outcome.commands.map readCommand <+:
    [some (updateWords containerName (e.profilePath policyId), discardOutput),
      some (restartWords containerName, discardOutput)]

/-- Where the id of a policy leads: from the root if it begins with a slash, else from the directory of
the policies. A NUL ends it. -/
def leadsTo (policyId : ByteString) : Option Dir :=
  let name := cString (policyId ++ ascii ".json")
  let start := if name.head? = some 47 then some w.tree.root else w.tree.directory e.policyDir
  (start.bind fun dir => w.tree.walk (dir, []) name).map Prod.fst

/-- The request is harmless: it is not for a seccomp profile, or the profile cannot be written, or the
id of the policy stays in the directory of the policies, and the shell takes the path and the name
literally if Docker knows the container. -/
def Harmless (containerName policyId policyType : ByteString) : Prop :=
  policyType = ascii "SECCOMP" → (e.profileFile w policyId).isSome →
    e.leadsTo w policyId = w.tree.directory e.policyDir ∧
      (getContainerIdFromName w containerName ≠ [] →
        isLiteral (e.profilePath policyId) = true ∧ isLiteral containerName = true)

/-! ## The file -/

variable {w e}

theorem leadsTo_of_profileFile {policyId : ByteString} {file : Dir × ByteString}
    (h : e.profileFile w policyId = some file) : e.leadsTo w policyId = some file.1 := by
  have hlocate := (Option.filter_eq_some_iff.1 h).1
  rw [profilePath, cString_appendPath e.nul_not_mem] at hlocate
  rw [leadsTo]
  by_cases hslash : (cString (policyId ++ ascii ".json")).head? = some 47
  · rw [locate_appendPath_absolute w.tree hslash] at hlocate
    simp only [if_pos hslash, Option.bind_some, hlocate, Option.map_some]
  · rw [locate_appendPath w.tree hslash] at hlocate
    simp only [if_neg hslash, hlocate, Option.map_some]

/-- An id without a slash stays in the directory. -/
theorem leadsTo_of_no_slash {policyId : ByteString} (h : 47 ∉ policyId) :
    e.leadsTo w policyId = w.tree.directory e.policyDir := by
  have hname : 47 ∉ cString (policyId ++ ascii ".json") := by
    intro hmem
    rcases List.mem_append.1 ((List.takeWhile_prefix _).subset hmem) with hmem | hmem
    · exact h hmem
    · exact absurd hmem (by decide)
  have hslash : (cString (policyId ++ ascii ".json")).head? ≠ some 47 :=
    fun heq => hname (List.mem_of_mem_head? heq)
  simp only [leadsTo, if_neg hslash, w.tree.walk_of_no_slash hname]
  cases w.tree.directory e.policyDir with
  | none => rfl
  | some dir => rfl

/-! ## The commands -/

theorem discardOutput_eq : discardOutput = 62 :: ascii " /dev/null 2>&1" := by decide

theorem readCommand_updateCmd (containerName profilePath : ByteString) :
    readCommand (updateCmd containerName profilePath) =
        some (updateWords containerName profilePath, discardOutput) ↔
      isLiteral profilePath = true ∧ isLiteral containerName = true := by
  have hcmd : updateCmd containerName profilePath =
      ascii "docker update --security-opt seccomp=\"" ++ (joinQuoted profilePath [containerName] ++
        34 :: 32 :: 62 :: ascii " /dev/null 2>&1") := by
    simp [updateCmd, joinQuoted, discardOutput, ascii]
  have hopening : readBytes ⟨[], .between⟩ (ascii "docker update --security-opt seccomp=\"") =
      some ⟨[ascii "docker", ascii "update", ascii "--security-opt"],
        .quoted (ascii "seccomp=")⟩ := by decide
  have hiff := readCommand_iff profilePath [containerName] (ascii " /dev/null 2>&1") (by decide)
    hopening (by decide) (by decide) (by decide)
  rw [hcmd, discardOutput_eq]
  refine Iff.trans hiff ?_
  simp

theorem readCommand_restartCmd (containerName : ByteString) :
    readCommand (restartCmd containerName) = some (restartWords containerName, discardOutput) ↔
      isLiteral containerName = true := by
  have hcmd : restartCmd containerName = ascii "docker restart \"" ++ (joinQuoted containerName [] ++
        34 :: 32 :: 62 :: ascii " /dev/null 2>&1") := by
    simp [restartCmd, joinQuoted, discardOutput, ascii]
  have hopening : readBytes ⟨[], .between⟩ (ascii "docker restart \"") =
      some ⟨[ascii "docker", ascii "restart"], .quoted []⟩ := by decide
  have hiff := readCommand_iff containerName [] (ascii " /dev/null 2>&1") (by decide) hopening
    (by decide) (by decide) (by decide)
  rw [hcmd, discardOutput_eq]
  refine Iff.trans hiff ?_
  simp

/-- The commands are read as they should be exactly if both texts are literal; the restart has one of
them only. -/
theorem map_readCommand_isPrefix (containerName profilePath : ByteString) :
    (updateContainerSeccomp w containerName profilePath).map readCommand <+:
        [some (updateWords containerName profilePath, discardOutput),
          some (restartWords containerName, discardOutput)] ↔
      isLiteral profilePath = true ∧ isLiteral containerName = true := by
  rw [updateContainerSeccomp, ← readCommand_updateCmd]
  split_ifs
  · simp [List.cons_prefix_cons]
  · rw [List.map_cons, List.map_cons, List.map_nil, List.cons_prefix_cons]
    refine and_iff_left_of_imp fun h => ?_
    rw [(readCommand_restartCmd containerName).2 ((readCommand_updateCmd _ _).1 h).2]

theorem confined_of_nothing {containerName policyId : ByteString} {outcome : PolicyOutcome Dir}
    (hwritten : outcome.written = none) (hcommands : outcome.commands = []) :
    e.Confined w containerName policyId outcome := by
  refine ⟨fun file content h => ?_, ?_⟩
  · rw [hwritten] at h
    cases h
  · rw [hcommands]
    exact List.nil_prefix

theorem generateSeccompProfile_ne_nil (enforcementMode specJson : ByteString) :
    generateSeccompProfile enforcementMode specJson ≠ [] :=
  List.append_ne_nil_of_right_ne_nil _ (by decide)

/-- `apply` is confined exactly if the request is harmless. -/
theorem confined_apply_iff (w : Surroundings Dir) (e : PolicyEnforcer)
    (containerName policyId policyType specJson : ByteString) :
    e.Confined w containerName policyId
        (e.apply w containerName policyId policyType specJson) ↔
      e.Harmless w containerName policyId policyType := by
  rw [apply, Harmless]
  by_cases htype : policyType = ascii "SECCOMP"
  · rw [if_neg (not_not.2 htype)]
    simp only [if_neg (generateSeccompProfile_ne_nil _ _)]
    cases hfile : e.profileFile w policyId with
    -- the file cannot be opened, and nothing is run
    | none => exact iff_of_true (confined_of_nothing rfl rfl) fun _ h => by cases h
    | some file =>
        rw [leadsTo_of_profileFile hfile]
        simp only [htype, Option.isSome_some, true_imp_iff]
        by_cases hid : getContainerIdFromName w containerName = []
        · -- the container is unknown: the profile is written and no command is run
          rw [if_pos hid]
          refine ⟨fun h => ⟨(h.file _ _ rfl).symm, fun hne => absurd hid hne⟩, fun h => ⟨?_, ?_⟩⟩
          · rintro _ _ ⟨⟩
            exact h.1.symm
          · exact List.nil_prefix
        · -- the commands are those for the container exactly if its name is read back
          rw [if_neg hid]
          refine ⟨fun h => ⟨(h.file _ _ rfl).symm, fun _ => ?_⟩, fun h => ⟨?_, ?_⟩⟩
          · exact (map_readCommand_isPrefix containerName _).1 h.commands
          · rintro _ _ ⟨⟩
            exact h.1.symm
          · exact (map_readCommand_isPrefix containerName _).2 (h.2 hid)
  · -- other types are only recorded
    rw [if_pos htype]
    exact iff_of_true (confined_of_nothing rfl rfl) fun h => absurd h htype

end PolicyEnforcer

open PolicyEnforcer in
/-- An accepted request for a policy is confined exactly if it is harmless. -/
theorem policy_confined_iff {Dir : Type} (w : Surroundings Dir) (e : PolicyEnforcer)
    (bytes containerName policyId policyType specJson : ByteString)
    (haccepted : handleClient bytes = .policy containerName policyId policyType specJson) :
    e.Confined w containerName policyId (e.serve w bytes) ↔
      e.Harmless w containerName policyId policyType := by
  rw [serve, haccepted]
  exact confined_apply_iff w e containerName policyId policyType specJson

/-! ## Two requests -/

/-- A host whose directories are given by the names from the root, down to that of the policies. -/
def policyHost : DirectoryTree (List ByteString) where
  root := []
  cwd := []
  enter := fun dir name =>
    if name = ascii "." then some dir
    else if name = ascii ".." then some dir.dropLast
    else if dir ++ [name] <+: [ascii "var", ascii "lib", ascii "deepkernel", ascii "policies"] then
      some (dir ++ [name])
    else none
  canOpen := fun _ => true

/-- Docker knows the container `web`, and all commands succeed. -/
def webSurroundings : Surroundings (List ByteString) where
  tree := policyHost
  httpDockerGet := fun path =>
    if path = ascii "/containers/web/json" then ascii "\x7b\"Id\":\"4f66ad9a\"\x7d" else []
  system := fun _ => 0
  nowNs := 0

/-- The enforcer with its defaults. -/
def defaultEnforcer : PolicyEnforcer where
  nul_not_mem := by decide

/-- The body of a request for a seccomp profile of `web`. -/
def seccompBody (policyId : String) : ByteString :=
  ascii "\x7b\"container_id\":\"web\",\"policy_id\":\"" ++ ascii policyId ++
    ascii "\",\"type\":\"SECCOMP\"\x7d"

def seccompRequest (policyId : String) : ByteString :=
  ascii "POST /policies HTTP/1.1\r\nHost: agent\r\n\r\n" ++ seccompBody policyId

/-- A command substitution in the id of the policy: the profile is written, and the shell that updates
the container runs it. -/
theorem substitution_not_confined :
    handleClient (seccompRequest "$(reboot)") =
        .policy (ascii "web") (ascii "$(reboot)") (ascii "SECCOMP") (seccompBody "$(reboot)") ∧
      ¬ defaultEnforcer.Confined webSurroundings (ascii "web") (ascii "$(reboot)")
        (defaultEnforcer.serve webSurroundings (seccompRequest "$(reboot)")) := by
  have haccepted : handleClient (seccompRequest "$(reboot)") =
      .policy (ascii "web") (ascii "$(reboot)") (ascii "SECCOMP") (seccompBody "$(reboot)") := by
    decide +kernel
  refine ⟨haccepted, ?_⟩
  rw [PolicyEnforcer.serve, haccepted]
  simp only [PolicyEnforcer.confined_apply_iff]
  intro h
  have hliteral := ((h rfl (by decide +kernel)).2 (by decide +kernel)).1
  exact absurd hliteral (by decide +kernel)

/-- An ordinary id. -/
theorem plain_request_confined :
    defaultEnforcer.Confined webSurroundings (ascii "web") (ascii "p-1")
      (defaultEnforcer.serve webSurroundings (seccompRequest "p-1")) := by
  refine (policy_confined_iff webSurroundings defaultEnforcer (seccompRequest "p-1") (ascii "web")
    (ascii "p-1") (ascii "SECCOMP") (seccompBody "p-1") (by decide +kernel)).2 fun _ _ => ?_
  exact ⟨PolicyEnforcer.leadsTo_of_no_slash (by decide), fun _ => ⟨by decide +kernel, by decide⟩⟩

end DeepKernel.Agent
