import DeepKernel.Agent.DockerMapper
import Mathlib.Data.Bool.AllAny

/-!
# The names of containers of any runtime

`ContainerMapper` in `container_mapper.cpp`: the cgroup file gives the id of the container, the runtime
gives its name and the labels of its pod, and `queryKubernetes` may replace the name of the pod. What
it puts in their place is the pod that the agent itself runs in, whatever the pod UID is that it is
asked for. So once the agent knows its own pod, all containers whose pod UID is found in the cgroup
file have the same name.
-/

set_option autoImplicit false

namespace DeepKernel.Agent

open DeepKernel.Lib

/-! ## Environment -/

/-- `ContainerMapper::Config` with its defaults. -/
structure MapperConfig where
  dockerSocket : ByteString := ascii "/var/run/docker.sock"
  containerdSocket : ByteString := ascii "/run/containerd/containerd.sock"
  crioSocket : ByteString := ascii "/var/run/crio/crio.sock"
  crictlPath : ByteString := ascii "/usr/bin/crictl"
  cacheTtlSeconds : Int32 := 60
  enableKubernetesApi : Bool := true
  preferPodName : Bool := true

/-- What the mapper sees of the host: which files exist, the cgroup file of the processes of a cgroup,
the files of the downward API if they can be opened, two environment variables, the answers of the
Docker socket and the output of the `crictl` commands. -/
structure Node where
  fileExists : ByteString → Bool
  cgroupFile : UInt64 → ByteString
  podinfoName : Option ByteString
  podinfoNamespace : Option ByteString
  podNameVar : Option ByteString
  namespaceVar : Option ByteString
  httpGet : ByteString → ByteString
  crictlInfo : ByteString
  crictlInspect : ByteString → ByteString

/-- `ContainerMapper::ContainerInfo`. -/
structure ContainerInfo where
  id : ByteString := []
  fullId : ByteString := []
  name : ByteString := []
  podName : ByteString := []
  podNamespace : ByteString := []
  image : ByteString := []
  runtime : Runtime := .unknown
  deriving DecidableEq

section Queries

variable (cfg : MapperConfig) (node : Node)

/-- `detectRuntime`; `crictl info` is asked if there is no socket. -/
def detectRuntime : Runtime :=
  if node.fileExists cfg.dockerSocket then .docker
  else if node.fileExists cfg.containerdSocket then .containerd
  else if node.fileExists cfg.crioSocket then .crio
  else if node.fileExists cfg.crictlPath then
    -- `head -1` of the output
    let result := node.crictlInfo.takeWhile (· != 10)
    if (search (literal "containerd") result).isSome then .containerd
    else if (search (literal "cri-o") result).isSome then .crio
    else .unknown
  else .unknown

/-- `httpGetUnixSocket` on the Docker socket. -/
def dockerResponse (path : ByteString) : ByteString :=
  if node.fileExists cfg.dockerSocket then node.httpGet path else []

/-- `queryDocker`. -/
def queryDocker (containerId : ByteString) : Option ContainerInfo :=
  let shortId := containerId.take 12
  let response := dockerResponse cfg node (ascii "/containers/" ++ shortId ++ ascii "/json")
  if response = [] then none
  else
    let name := stripSlash (extractJsonString response "Name")
    let service := extractJsonString response "com.docker.compose.service"
    let project := extractJsonString response "com.docker.compose.project"
    some
      { id := shortId
        fullId := containerId
        runtime := .docker
        name :=
          if name ≠ [] then name
          else if project ≠ [] ∧ service ≠ [] then project ++ ascii "_" ++ service
          else service
        image := extractJsonString response "Image"
        podName := extractJsonString response "io.kubernetes.pod.name"
        podNamespace := extractJsonString response "io.kubernetes.pod.namespace" }

/-- `queryCrictl`. -/
def queryCrictl (containerId : ByteString) : Option ContainerInfo :=
  if node.fileExists cfg.crictlPath then
    let shortId := containerId.take 12
    let output := node.crictlInspect shortId
    if output = [] then none
    else
      -- the dots of these keys are escaped
      some
        { id := shortId
          fullId := containerId
          runtime := detectRuntime cfg node
          name := stringField output (literal "name")
          image := stringField output (literal "image")
          podName := stringField output (literal "io.kubernetes.pod.name")
          podNamespace := stringField output (literal "io.kubernetes.pod.namespace") }
  else none

/-- The query of the runtime in `getContainerInfo`. -/
def queryRuntime (cgroup : CgroupInfo) : Option ContainerInfo :=
  match cgroup.runtime with
  | .docker => queryDocker cfg node cgroup.containerId
  | .containerd => queryCrictl cfg node cgroup.containerId
  | .crio => queryCrictl cfg node cgroup.containerId
  | .unknown =>
      queryDocker cfg node cgroup.containerId <|> queryCrictl cfg node cgroup.containerId

/-- The first line of a file, empty if it cannot be opened. -/
def firstLine (file : Option ByteString) : ByteString := (file.getD []).takeWhile (· != 10)

/-- `queryKubernetes`: a pod name and a namespace. The UID of the pod is not used, and the API server
is never asked. -/
def queryKubernetes : Option (ByteString × ByteString) :=
  if node.fileExists (ascii "/etc/podinfo/name") ∧ firstLine node.podinfoName ≠ [] then
    some (firstLine node.podinfoName, firstLine node.podinfoNamespace)
  else
    node.podNameVar.map fun podName => (podName, node.namespaceVar.getD (ascii "default"))

/-- The part of `getContainerInfo` behind the cache, on the contents of the cgroup file. -/
def freshInfo (file : Option ByteString) : Option ContainerInfo :=
  let cgroup := parseCgroup (detectRuntime cfg node) file
  if cgroup.containerId = [] then none
  else
    match queryRuntime cfg node cgroup with
    | some info =>
        if cfg.enableKubernetesApi ∧ cgroup.podUid ≠ [] then
          match queryKubernetes node with
          | some (podName, podNamespace) =>
              some { info with podName := podName, podNamespace := podNamespace }
          | none => some info
        else some info
    | none =>
        some
          { id := cgroup.containerId.take 12
            fullId := cgroup.containerId
            name := cgroup.containerId.take 12
            runtime := cgroup.runtime }

/-- A pod name with its namespace, which is left out for the default one. -/
def displayName (podName podNamespace : ByteString) : ByteString :=
  if podNamespace ≠ [] ∧ podNamespace ≠ ascii "default" then
    podNamespace ++ ascii "/" ++ podName
  else podName

/-- The name that `getContainerName` takes from the information about a container. -/
def nameOfInfo (info : ContainerInfo) : ByteString :=
  if cfg.preferPodName ∧ info.podName ≠ [] then displayName info.podName info.podNamespace
  else if info.name ≠ [] then info.name
  else info.id

/-! ## Lookups -/

/-- A call of `getContainerName` for a process of a cgroup. -/
structure PodLookup where
  cgroupId : UInt64
  alive : Bool
  checkNs : UInt64
  storeNs : UInt64

/-- The cgroup file of the process, if it is still there. -/
def Node.cgroupFileOf (q : PodLookup) : Option ByteString :=
  if q.alive then some (node.cgroupFile q.cgroupId) else none

/-- `getContainerInfo`. Nothing is stored if the cgroup file gives no container. -/
def getContainerInfo (cache : ExpiringCache UInt64 ContainerInfo) (q : PodLookup) :
    ExpiringCache UInt64 ContainerInfo × Option ContainerInfo :=
  match cache.hit q.cgroupId q.checkNs with
  | some info => (cache, some info)
  | none =>
      match freshInfo cfg node (node.cgroupFileOf q) with
      | none => (cache.afterLookup q.cgroupId q.checkNs, none)
      | some info =>
          ((cache.afterLookup q.cgroupId q.checkNs).store q.cgroupId info
            (expiryNs q.storeNs cfg.cacheTtlSeconds), some info)

/-- `getContainerName`. -/
def getContainerName (cache : ExpiringCache UInt64 ContainerInfo) (q : PodLookup) :
    ExpiringCache UInt64 ContainerInfo × ByteString :=
  ((getContainerInfo cfg node cache q).1,
    ((getContainerInfo cfg node cache q).2.map (nameOfInfo cfg)).getD [])

/-- A call of the mapper. -/
inductive PodMapperCall
  | lookup (q : PodLookup)
  | clearCache

/-- The cache after a call. -/
def podMapperStep (cache : ExpiringCache UInt64 ContainerInfo) :
    PodMapperCall → ExpiringCache UInt64 ContainerInfo
  | .lookup q => (getContainerName cfg node cache q).1
  | .clearCache => Table.empty

/-- The cache of a new mapper after some calls. -/
abbrev podCacheAfter (calls : List PodMapperCall) : ExpiringCache UInt64 ContainerInfo :=
  calls.foldl (podMapperStep cfg node) Table.empty

/-! ## The cache -/

/-- The name of the containers of a cgroup, without the cache. -/
def freshName (cgroupId : UInt64) : ByteString :=
  ((freshInfo cfg node (some (node.cgroupFile cgroupId))).map (nameOfInfo cfg)).getD []

theorem holds_podMapperStep {cache : ExpiringCache UInt64 ContainerInfo}
    (h : cache.Holds fun g info => freshInfo cfg node (some (node.cgroupFile g)) = some info)
    (call : PodMapperCall) :
    (podMapperStep cfg node cache call).Holds
      fun g info => freshInfo cfg node (some (node.cgroupFile g)) = some info := by
  cases call with
  | clearCache => exact ExpiringCache.holds_empty
  | lookup q =>
      rw [podMapperStep, getContainerName, getContainerInfo]
      cases hhit : cache.hit q.cgroupId q.checkNs with
      | some info => exact h
      | none =>
          simp only
          cases hfresh : freshInfo cfg node (node.cgroupFileOf q) with
          | none => exact h.afterLookup _ _
          | some info =>
              refine (h.afterLookup _ _).store ?_ _
              rw [← hfresh, Node.cgroupFileOf]
              split
              · rfl
              -- the file of a process that has exited gives no container
              · rename_i hdead
                rw [Node.cgroupFileOf, if_neg hdead] at hfresh
                cases hfresh

/-- After any calls a process that is alive gets the name that is found without the cache. -/
theorem getContainerName_eq (calls : List PodMapperCall) {q : PodLookup} (halive : q.alive = true) :
    (getContainerName cfg node (podCacheAfter cfg node calls) q).2 =
      freshName cfg node q.cgroupId := by
  have hholds : (podCacheAfter cfg node calls).Holds
      fun g info => freshInfo cfg node (some (node.cgroupFile g)) = some info :=
    foldl_invariant
      (I := ExpiringCache.Holds fun g info =>
        freshInfo cfg node (some (node.cgroupFile g)) = some info)
      (P := fun _ => True) (fun _ call _ hs => holds_podMapperStep cfg node hs call)
      ExpiringCache.holds_empty fun _ _ => trivial
  rw [getContainerName, getContainerInfo, freshName]
  cases hhit : (podCacheAfter cfg node calls).hit q.cgroupId q.checkNs with
  | some info => rw [hholds.hit hhit]
  | none =>
      simp only
      rw [Node.cgroupFileOf, if_pos halive]
      cases freshInfo cfg node (some (node.cgroupFile q.cgroupId)) with
      | none => rfl
      | some info => rfl

end Queries

/-! ## Pods -/

/-- A pod: Kubernetes names are not empty and have no slash. -/
structure Pod where
  name : ByteString
  podNamespace : ByteString
  name_ne_nil : name ≠ []
  namespace_ne_nil : podNamespace ≠ []
  name_no_slash : ∀ b ∈ name, b ≠ 47
  namespace_no_slash : ∀ b ∈ podNamespace, b ≠ 47

/-- The name of a pod as the mapper writes it. -/
def Pod.display (pod : Pod) : ByteString := displayName pod.name pod.podNamespace

theorem displayName_ne_nil {podName podNamespace : ByteString} (h : podName ≠ []) :
    displayName podName podNamespace ≠ [] := by
  rw [displayName]
  split
  · simp [h]
  · exact h

/-- The namespace that is left out does not make two pods look the same. -/
theorem display_injective {pod pod' : Pod} (h : pod.display = pod'.display) :
    pod.podNamespace = pod'.podNamespace ∧ pod.name = pod'.name := by
  have hmem : ∀ a b : ByteString, (47 : UInt8) ∈ a ++ ascii "/" ++ b := by
    intro a b
    exact List.mem_append_left _ (List.mem_append_right _ List.mem_cons_self)
  rw [Pod.display, Pod.display, displayName, displayName] at h
  by_cases hd : pod.podNamespace = ascii "default"
  · by_cases hd' : pod'.podNamespace = ascii "default"
    · rw [if_neg (fun hn => hn.2 hd), if_neg (fun hn => hn.2 hd')] at h
      exact ⟨hd.trans hd'.symm, h⟩
    · -- a name without a slash on one side only
      rw [if_neg (fun hn => hn.2 hd), if_pos ⟨pod'.namespace_ne_nil, hd'⟩] at h
      exact absurd rfl (pod.name_no_slash 47 (h ▸ hmem _ _))
  · by_cases hd' : pod'.podNamespace = ascii "default"
    · rw [if_pos ⟨pod.namespace_ne_nil, hd⟩, if_neg (fun hn => hn.2 hd')] at h
      exact absurd rfl (pod'.name_no_slash 47 (h ▸ hmem _ _))
    · rw [if_pos ⟨pod.namespace_ne_nil, hd⟩, if_pos ⟨pod'.namespace_ne_nil, hd'⟩] at h
      have hslash : ascii "/" = [47] := rfl
      rw [hslash, List.append_assoc, List.append_assoc, List.singleton_append,
        List.singleton_append] at h
      exact append_mark_injective (fun hmem => pod.namespace_no_slash 47 hmem rfl)
        (fun hmem => pod'.namespace_no_slash 47 hmem rfl) h

/-! ## When two pods have different names -/

section Names

variable (cfg : MapperConfig) (node : Node)

/-- What the cgroup file of a cgroup says. -/
def Node.cgroupInfo (cgroupId : UInt64) : CgroupInfo :=
  parseCgroup (detectRuntime cfg node) (some (node.cgroupFile cgroupId))

/-- The cgroup file gives a container. -/
def Node.Recognised (cgroupId : UInt64) : Prop := (node.cgroupInfo cfg cgroupId).containerId ≠ []

/-- The runtime answers for the container of the cgroup and labels it with the pod. -/
def Node.Labels (cgroupId : UInt64) (pod : Pod) : Prop :=
  node.Recognised cfg cgroupId → ∃ info, queryRuntime cfg node (node.cgroupInfo cfg cgroupId) =
    some info ∧ info.podName = pod.name ∧ info.podNamespace = pod.podNamespace

/-- The cgroup file gives a pod UID, and the agent knows a pod of its own. -/
def Node.TakesOwnPod (cgroupId : UInt64) : Prop :=
  node.Recognised cfg cgroupId ∧ (node.cgroupInfo cfg cgroupId).podUid ≠ [] ∧
    (queryKubernetes node).isSome

/-- The name that the runtime gives the container, else its id. -/
def Node.containerName (cgroupId : UInt64) : ByteString :=
  match queryRuntime cfg node (node.cgroupInfo cfg cgroupId) with
  | some info => if info.name ≠ [] then info.name else info.id
  | none => []

/-- The name that a container has by the pod of the agent. -/
def Node.ownPodName (cgroupId : UInt64) : ByteString :=
  match queryKubernetes node with
  | some (podName, podNamespace) =>
      if podName ≠ [] then displayName podName podNamespace else node.containerName cfg cgroupId
  | none => []

/-- The two containers keep apart: one of them at least is recognised, not both are named after the
pod of the agent (the environment variable may be empty, then their own names count), and if one is,
the other one is not in that pod. -/
structure Node.KeepsApart (g g' : UInt64) (pod pod' : Pod) : Prop where
  recognised : node.Recognised cfg g ∨ node.Recognised cfg g'
  both : node.TakesOwnPod cfg g → node.TakesOwnPod cfg g' →
    (queryKubernetes node).map Prod.fst = some [] ∧
      node.containerName cfg g ≠ node.containerName cfg g'
  left : node.TakesOwnPod cfg g → node.Recognised cfg g' → ¬ node.TakesOwnPod cfg g' →
    node.ownPodName cfg g ≠ pod'.display
  right : node.TakesOwnPod cfg g' → node.Recognised cfg g → ¬ node.TakesOwnPod cfg g →
    node.ownPodName cfg g' ≠ pod.display

variable {cfg node}

/-- Every answer of a runtime has the short id. -/
theorem id_of_queryRuntime {cgroup : CgroupInfo} {info : ContainerInfo}
    (h : queryRuntime cfg node cgroup = some info) : info.id = cgroup.containerId.take 12 := by
  have hdocker : ∀ info, queryDocker cfg node cgroup.containerId = some info →
      info.id = cgroup.containerId.take 12 := by
    intro info hinfo
    simp only [queryDocker] at hinfo
    split at hinfo
    · cases hinfo
    · rw [← Option.some.inj hinfo]
  have hcrictl : ∀ info, queryCrictl cfg node cgroup.containerId = some info →
      info.id = cgroup.containerId.take 12 := by
    intro info hinfo
    simp only [queryCrictl] at hinfo
    split at hinfo
    · split at hinfo
      · cases hinfo
      · rw [← Option.some.inj hinfo]
    · cases hinfo
  rw [queryRuntime] at h
  cases hruntime : cgroup.runtime with
  | docker =>
      rw [hruntime] at h
      exact hdocker info h
  | containerd =>
      rw [hruntime] at h
      exact hcrictl info h
  | crio =>
      rw [hruntime] at h
      exact hcrictl info h
  | unknown =>
      rw [hruntime] at h
      -- for an unknown runtime both tools are asked in turn
      rcases (Option.orElse_eq_some _ _ _).1 h with h | ⟨-, h⟩
      · exact hdocker info h
      · exact hcrictl info h

theorem freshName_of_not_recognised {g : UInt64} (h : ¬ node.Recognised cfg g) :
    freshName cfg node g = [] := by
  have hid : (parseCgroup (detectRuntime cfg node) (some (node.cgroupFile g))).containerId = [] :=
    not_not.1 h
  rw [freshName, freshInfo, if_pos hid]
  rfl

/-- What the mapper makes of the answer of the runtime. -/
theorem freshInfo_of_answer {g : UInt64} (hrec : node.Recognised cfg g) {info : ContainerInfo}
    (hinfo : queryRuntime cfg node (node.cgroupInfo cfg g) = some info) :
    freshInfo cfg node (some (node.cgroupFile g)) =
      if cfg.enableKubernetesApi ∧ (node.cgroupInfo cfg g).podUid ≠ [] then
        match queryKubernetes node with
        | some (podName, podNamespace) =>
            some { info with podName := podName, podNamespace := podNamespace }
        | none => some info
      else some info := by
  have hanswer : queryRuntime cfg node
      (parseCgroup (detectRuntime cfg node) (some (node.cgroupFile g))) = some info := hinfo
  have hid : (parseCgroup (detectRuntime cfg node) (some (node.cgroupFile g))).containerId ≠ [] :=
    hrec
  rw [freshInfo, if_neg hid]
  simp only [hanswer]
  rfl

theorem freshName_of_label (hprefer : cfg.preferPodName = true) {g : UInt64} {pod : Pod}
    (hlabels : node.Labels cfg g pod) (hrec : node.Recognised cfg g)
    (hown : ¬ node.TakesOwnPod cfg g) : freshName cfg node g = pod.display := by
  obtain ⟨info, hinfo, hname, hnamespace⟩ := hlabels hrec
  have hfresh : freshInfo cfg node (some (node.cgroupFile g)) = some info := by
    rw [freshInfo_of_answer hrec hinfo]
    split
    · rename_i huid
      cases hquery : queryKubernetes node with
      | none => rfl
      | some own => exact absurd ⟨hrec, huid.2, by rw [hquery]; rfl⟩ hown
    · rfl
  have hpod : info.podName ≠ [] := by
    rw [hname]
    exact pod.name_ne_nil
  rw [freshName, hfresh, Option.map_some, Option.getD_some, nameOfInfo, if_pos ⟨hprefer, hpod⟩,
    hname, hnamespace]
  rfl

theorem freshName_of_takesOwnPod (henable : cfg.enableKubernetesApi = true)
    (hprefer : cfg.preferPodName = true) {g : UInt64} {pod : Pod} (hlabels : node.Labels cfg g pod)
    (hown : node.TakesOwnPod cfg g) : freshName cfg node g = node.ownPodName cfg g := by
  obtain ⟨hrec, huid, hsome⟩ := hown
  obtain ⟨info, hinfo, -, -⟩ := hlabels hrec
  obtain ⟨⟨podName, podNamespace⟩, hquery⟩ := Option.isSome_iff_exists.1 hsome
  have hfresh : freshInfo cfg node (some (node.cgroupFile g)) =
      some { info with podName := podName, podNamespace := podNamespace } := by
    rw [freshInfo_of_answer hrec hinfo, if_pos ⟨henable, huid⟩, hquery]
  rw [freshName, hfresh, Option.map_some, Option.getD_some, nameOfInfo, Node.ownPodName, hquery,
    Node.containerName, hinfo]
  simp only
  by_cases hname : podName = []
  · rw [if_neg (fun h => h.2 hname), if_neg (not_not.2 hname)]
  · rw [if_pos ⟨hprefer, hname⟩, if_pos hname]

theorem containerName_ne_nil {g : UInt64} {pod : Pod} (hlabels : node.Labels cfg g pod)
    (hrec : node.Recognised cfg g) : node.containerName cfg g ≠ [] := by
  obtain ⟨info, hinfo, -, -⟩ := hlabels hrec
  rw [Node.containerName, hinfo]
  simp only
  split
  · assumption
  · rw [id_of_queryRuntime hinfo]
    intro hnil
    rcases List.take_eq_nil_iff.1 hnil with h | h
    · cases h
    · exact hrec h

theorem ownPodName_ne_nil {g : UInt64} {pod : Pod} (hlabels : node.Labels cfg g pod)
    (hown : node.TakesOwnPod cfg g) : node.ownPodName cfg g ≠ [] := by
  obtain ⟨hrec, -, hsome⟩ := hown
  obtain ⟨⟨podName, podNamespace⟩, hquery⟩ := Option.isSome_iff_exists.1 hsome
  rw [Node.ownPodName, hquery]
  simp only
  split
  · rename_i hname
    exact displayName_ne_nil hname
  · exact containerName_ne_nil hlabels hrec

/-- Two containers that are both named after the pod of the agent. -/
theorem ownPodName_ne_iff {g g' : UInt64} (hsome : (queryKubernetes node).isSome) :
    node.ownPodName cfg g ≠ node.ownPodName cfg g' ↔
      (queryKubernetes node).map Prod.fst = some [] ∧
        node.containerName cfg g ≠ node.containerName cfg g' := by
  obtain ⟨⟨podName, podNamespace⟩, hquery⟩ := Option.isSome_iff_exists.1 hsome
  rw [Node.ownPodName, Node.ownPodName, hquery]
  simp only [Option.map_some, Option.some.injEq]
  by_cases hname : podName = []
  · simp [hname]
  · simp [hname]

/-- A recognised container has a name. -/
theorem freshName_ne_nil (henable : cfg.enableKubernetesApi = true)
    (hprefer : cfg.preferPodName = true) {g : UInt64} {pod : Pod} (hlabels : node.Labels cfg g pod)
    (hrec : node.Recognised cfg g) : freshName cfg node g ≠ [] := by
  by_cases hown : node.TakesOwnPod cfg g
  · rw [freshName_of_takesOwnPod henable hprefer hlabels hown]
    exact ownPodName_ne_nil hlabels hown
  · rw [freshName_of_label hprefer hlabels hrec hown]
    exact displayName_ne_nil pod.name_ne_nil

end Names

/-- Two different pods have different names, after any earlier lookups, exactly if their containers
keep apart. -/
theorem pod_names_differ_iff (cfg : MapperConfig) (henable : cfg.enableKubernetesApi = true)
    (hprefer : cfg.preferPodName = true) (node : Node) (q q' : PodLookup) (pod pod' : Pod)
    (halive : q.alive = true) (halive' : q'.alive = true)
    (hlabels : node.Labels cfg q.cgroupId pod) (hlabels' : node.Labels cfg q'.cgroupId pod')
    (hpods : ¬ (pod.podNamespace = pod'.podNamespace ∧ pod.name = pod'.name))
    (calls calls' : List PodMapperCall) :
    (getContainerName cfg node (podCacheAfter cfg node calls) q).2 ≠
        (getContainerName cfg node (podCacheAfter cfg node calls') q').2 ↔
      node.KeepsApart cfg q.cgroupId q'.cgroupId pod pod' := by
  rw [getContainerName_eq cfg node calls halive, getContainerName_eq cfg node calls' halive']
  by_cases hrec : node.Recognised cfg q.cgroupId
  · have hne := freshName_ne_nil henable hprefer hlabels hrec
    by_cases hrec' : node.Recognised cfg q'.cgroupId
    · by_cases hown : node.TakesOwnPod cfg q.cgroupId
      · rw [freshName_of_takesOwnPod henable hprefer hlabels hown]
        by_cases hown' : node.TakesOwnPod cfg q'.cgroupId
        -- both are named after the pod of the agent
        · rw [freshName_of_takesOwnPod henable hprefer hlabels' hown', ownPodName_ne_iff hown.2.2]
          exact ⟨fun h => ⟨.inl hrec, fun _ _ => h, fun _ _ hn => absurd hown' hn,
            fun _ _ hn => absurd hown hn⟩, fun h => h.both hown hown'⟩
        · rw [freshName_of_label hprefer hlabels' hrec' hown']
          exact ⟨fun h => ⟨.inl hrec, fun _ hn => absurd hn hown', fun _ _ _ => h,
            fun hn => absurd hn hown'⟩, fun h => h.left hown hrec' hown'⟩
      · rw [freshName_of_label hprefer hlabels hrec hown]
        by_cases hown' : node.TakesOwnPod cfg q'.cgroupId
        · rw [freshName_of_takesOwnPod henable hprefer hlabels' hown', ne_comm]
          exact ⟨fun h => ⟨.inl hrec, fun hn => absurd hn hown, fun hn => absurd hn hown,
            fun _ _ _ => h⟩, fun h => h.right hown' hrec hown⟩
        · rw [freshName_of_label hprefer hlabels' hrec' hown']
          exact ⟨fun _ => ⟨.inl hrec, fun hn => absurd hn hown, fun hn => absurd hn hown,
            fun hn => absurd hn hown'⟩, fun _ hsame => hpods (display_injective hsame)⟩
    · rw [freshName_of_not_recognised hrec']
      have hown' : ¬ node.TakesOwnPod cfg q'.cgroupId := fun h => hrec' h.1
      exact ⟨fun _ => ⟨.inl hrec, fun _ hn => absurd hn hown', fun _ hn => absurd hn hrec',
        fun hn => absurd hn hown'⟩, fun _ => hne⟩
  · rw [freshName_of_not_recognised hrec]
    have hown : ¬ node.TakesOwnPod cfg q.cgroupId := fun h => hrec h.1
    by_cases hrec' : node.Recognised cfg q'.cgroupId
    · have hne' := freshName_ne_nil henable hprefer hlabels' hrec'
      exact ⟨fun _ => ⟨.inr hrec', fun hn => absurd hn hown, fun hn => absurd hn hown,
        fun _ hn => absurd hn hrec⟩, fun _ => hne'.symm⟩
    · rw [freshName_of_not_recognised hrec']
      exact ⟨fun h => absurd rfl h, fun h => absurd h.recognised (not_or.2 ⟨hrec, hrec'⟩)⟩

/-! ## Two pods on one node -/

/-- A pod `web` in the default namespace and a pod `db` in the namespace `prod`. -/
def webPod : Pod where
  name := ascii "web"
  podNamespace := ascii "default"
  name_ne_nil := by decide
  namespace_ne_nil := by decide
  name_no_slash := List.all_iff_forall_prop.mp (by decide)
  namespace_no_slash := List.all_iff_forall_prop.mp (by decide)

@[inherit_doc webPod]
def dbPod : Pod where
  name := ascii "db"
  podNamespace := ascii "prod"
  name_ne_nil := by decide
  namespace_ne_nil := by decide
  name_no_slash := List.all_iff_forall_prop.mp (by decide)
  namespace_no_slash := List.all_iff_forall_prop.mp (by decide)

/-- What `crictl inspect` prints of a container of a pod. -/
def inspectOutput (pod : Pod) : ByteString :=
  ascii "\x7b\"labels\":\x7b\"io.kubernetes.pod.name\":\"" ++ pod.name ++
    ascii "\",\"io.kubernetes.pod.namespace\":\"" ++ pod.podNamespace ++ ascii "\"\x7d\x7d"

/-- A node with containerd. Cgroup 1 is a container of `web` and every other one of `db`. -/
def twoPodNode (podinfoName : Option ByteString) : Node where
  fileExists := fun path => path == ascii "/run/containerd/containerd.sock" ||
    path == ascii "/usr/bin/crictl" || (path == ascii "/etc/podinfo/name" && podinfoName.isSome)
  cgroupFile := fun g =>
    if g = 1 then
      ascii "0::/kubepods/burstable/pod11111111-2222-3333-4444-555555555555/" ++
        List.replicate 64 97
    else
      ascii "0::/kubepods/burstable/pod66666666-7777-8888-9999-000000000000/" ++
        List.replicate 64 98
  podinfoName := podinfoName
  podinfoNamespace := podinfoName.map fun _ => ascii "deepkernel"
  podNameVar := none
  namespaceVar := none
  httpGet := fun _ => []
  crictlInfo := []
  crictlInspect := fun id =>
    if id = List.replicate 12 97 then inspectOutput webPod else inspectOutput dbPod

/-- The node with the name of the agent's pod mounted. -/
def mountedNode : Node := twoPodNode (some (ascii "agent-0"))

/-- The same node without it. -/
def bareNode : Node := twoPodNode none

theorem labels_of_eq {node : Node} {cfg : MapperConfig} {g : UInt64} {pod : Pod}
    (h : (queryRuntime cfg node (node.cgroupInfo cfg g)).map
      (fun info => (info.podName, info.podNamespace)) = some (pod.name, pod.podNamespace)) :
    node.Labels cfg g pod := by
  intro _
  obtain ⟨info, hinfo, heq⟩ := Option.map_eq_some_iff.1 h
  exact ⟨info, hinfo, (Prod.mk.inj heq).1, (Prod.mk.inj heq).2⟩

/-- What the mapper finds in the two cgroup files. -/
theorem cgroupInfo_mountedNode :
    mountedNode.cgroupInfo {} 1 =
        { containerId := List.replicate 64 97
          podUid := ascii "11111111-2222-3333-4444-555555555555"
          runtime := .containerd } ∧
      mountedNode.cgroupInfo {} 2 =
        { containerId := List.replicate 64 98
          podUid := ascii "66666666-7777-8888-9999-000000000000"
          runtime := .containerd } :=
  ⟨by decide +kernel, by decide +kernel⟩

theorem cgroupInfo_bareNode (g : UInt64) :
    bareNode.cgroupInfo {} g = mountedNode.cgroupInfo {} g := by
  have hruntime : detectRuntime {} bareNode = detectRuntime {} mountedNode := by decide +kernel
  rw [Node.cgroupInfo, Node.cgroupInfo, hruntime]
  rfl

theorem labels_mountedNode :
    mountedNode.Labels {} 1 webPod ∧ mountedNode.Labels {} 2 dbPod := by
  constructor
  · apply labels_of_eq
    rw [cgroupInfo_mountedNode.1]
    decide +kernel
  · apply labels_of_eq
    rw [cgroupInfo_mountedNode.2]
    decide +kernel

theorem labels_bareNode : bareNode.Labels {} 1 webPod ∧ bareNode.Labels {} 2 dbPod := by
  constructor
  · apply labels_of_eq
    rw [cgroupInfo_bareNode, cgroupInfo_mountedNode.1]
    decide +kernel
  · apply labels_of_eq
    rw [cgroupInfo_bareNode, cgroupInfo_mountedNode.2]
    decide +kernel

/-- Both pods get the name of the agent's pod, though `crictl` labels their containers. -/
theorem own_pod_name_for_both :
    mountedNode.Labels {} 1 webPod ∧ mountedNode.Labels {} 2 dbPod ∧
      (mountedNode.cgroupInfo {} 1).podUid ≠ (mountedNode.cgroupInfo {} 2).podUid ∧
      (getContainerName {} mountedNode Table.empty ⟨1, true, 0, 0⟩).2 =
        (getContainerName {} mountedNode Table.empty ⟨2, true, 0, 0⟩).2 := by
  have hname : freshName {} mountedNode 1 = freshName {} mountedNode 2 := by
    have hweb : parseCgroup (detectRuntime {} mountedNode) (some (mountedNode.cgroupFile 1)) = _ :=
      cgroupInfo_mountedNode.1
    have hdb : parseCgroup (detectRuntime {} mountedNode) (some (mountedNode.cgroupFile 2)) = _ :=
      cgroupInfo_mountedNode.2
    rw [freshName, freshName, freshInfo, freshInfo, hweb, hdb]
    decide +kernel
  have huids : (mountedNode.cgroupInfo {} 1).podUid ≠ (mountedNode.cgroupInfo {} 2).podUid := by
    rw [cgroupInfo_mountedNode.1, cgroupInfo_mountedNode.2]
    decide
  have hweb := getContainerName_eq {} mountedNode [] (q := ⟨1, true, 0, 0⟩) rfl
  have hdb := getContainerName_eq {} mountedNode [] (q := ⟨2, true, 0, 0⟩) rfl
  exact ⟨labels_mountedNode.1, labels_mountedNode.2, huids,
    hweb.trans (hname.trans hdb.symm)⟩

/-- Without it they keep their own names, also if `web` was looked up before. -/
theorem bare_node_names_differ :
    (getContainerName {} bareNode (podCacheAfter {} bareNode []) ⟨1, true, 0, 0⟩).2 ≠
      (getContainerName {} bareNode
        (podCacheAfter {} bareNode [.lookup ⟨1, true, 0, 0⟩]) ⟨2, true, 1, 1⟩).2 := by
  have hquery : queryKubernetes bareNode = none := by decide +kernel
  have hown : ∀ g, ¬ bareNode.TakesOwnPod {} g := by
    intro g h
    rw [Node.TakesOwnPod, hquery] at h
    cases h.2.2
  have hrec : bareNode.Recognised {} 1 := by
    rw [Node.Recognised, cgroupInfo_bareNode, cgroupInfo_mountedNode.1]
    decide
  refine (pod_names_differ_iff {} rfl rfl bareNode ⟨1, true, 0, 0⟩ ⟨2, true, 1, 1⟩ webPod dbPod rfl
    rfl labels_bareNode.1 labels_bareNode.2 (by decide) [] [.lookup ⟨1, true, 0, 0⟩]).2 ?_
  exact
    { recognised := .inl hrec
      both := fun h => absurd h (hown _)
      left := fun h => absurd h (hown _)
      right := fun h => absurd h (hown _) }

end DeepKernel.Agent
