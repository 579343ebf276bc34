import DeepKernel.Agent.CgroupParsers
import DeepKernel.Lib.Execution
import DeepKernel.Lib.ExpiringCache

/-!
# The names of Docker containers

`DockerMapper` in `docker_mapper.cpp`. A lookup names a cgroup and a process: the cgroup is the key of
the cache, the process is the one whose cgroup file is read when the cache has no answer. The file of
a process that has exited cannot be read. The lookup then stores an empty name for the cgroup, and
until that entry expires the processes that are still alive in the cgroup have no name either.
-/

set_option autoImplicit false

namespace DeepKernel.Agent

open DeepKernel.Lib

/-! ## Queries to Docker -/

/-- `name` without a leading slash. -/
def stripSlash (name : ByteString) : ByteString :=
  if name.head? = some 47 then name.drop 1 else name

/-- `queryDockerForName`; `httpGet` is the answer of the Docker socket for a path, empty if there is
none. -/
def queryDockerForName (httpGet : ByteString → ByteString) (containerHash : ByteString) :
    ByteString :=
  if containerHash = [] then []
  else
    let response := httpGet (ascii "/containers/" ++ containerHash ++ ascii "/json")
    if response = [] then containerHash
    else
      let name := stripSlash (extractJsonString response "Name")
      let serviceLabel := extractJsonString response "com.docker.compose.service"
      let project := extractJsonString response "com.docker.compose.project"
      let name := if name = [] then serviceLabel else name
      let name :=
        if name = [] ∧ project ≠ [] ∧ serviceLabel ≠ [] then
          project ++ ascii "-" ++ serviceLabel
        else name
      if name = [] then containerHash else name

/-! ## Lookups -/

/-- What stays the same while the mapper runs: the cgroup of every process, the file that the
processes of a cgroup have, and the answers of Docker. -/
structure Host where
  cgroupOf : UInt32 → UInt64
  cgroupFile : UInt64 → ByteString
  httpGet : ByteString → ByteString

/-- A call of `getContainerName` with the readings of the clock at the check of the cache and at the
store, and whether the process is still there when its file is opened. -/
structure Lookup where
  cgroupId : UInt64
  pid : UInt32
  alive : Bool
  checkNs : UInt64
  storeNs : UInt64

/-- `/proc/<pid>/cgroup`, if it can be opened. -/
def Host.cgroupFileOf (host : Host) (q : Lookup) : Option ByteString :=
  if q.alive then some (host.cgroupFile (host.cgroupOf q.pid)) else none

/-- The name that is found without the cache. -/
def Host.freshName (host : Host) (file : Option ByteString) : ByteString :=
  let containerHash := extractContainerHashFromCgroup file
  if containerHash = [] then [] else queryDockerForName host.httpGet containerHash

/-- The time up to which an entry is good: `nowNs() + ttl * 1'000'000'000ULL`. -/
def expiryNs (nowNs : UInt64) (cacheTtlSeconds : Int32) : UInt64 :=
  nowNs + cacheTtlSeconds.toInt64.toUInt64 * 1000000000

section Mapper

variable (cacheTtlSeconds : Int32) (host : Host)

/-- `DockerMapper::getContainerName`. -/
def getDockerName (cache : ExpiringCache UInt64 ByteString) (q : Lookup) :
    ExpiringCache UInt64 ByteString × ByteString :=
  match cache.hit q.cgroupId q.checkNs with
  | some name => (cache, name)
  | none =>
      -- an empty name is stored as well
      let name := host.freshName (host.cgroupFileOf q)
      ((cache.afterLookup q.cgroupId q.checkNs).store q.cgroupId name
        (expiryNs q.storeNs cacheTtlSeconds), name)

/-- A call of the mapper. -/
inductive MapperCall
  | lookup (q : Lookup)
  | clearCache

/-- One call, with the name that a lookup returns. -/
def mapperStep (cache : ExpiringCache UInt64 ByteString) :
    MapperCall → ExpiringCache UInt64 ByteString × List ByteString
  | .lookup q =>
      ((getDockerName cacheTtlSeconds host cache q).1,
        [(getDockerName cacheTtlSeconds host cache q).2])
  | .clearCache => (Table.empty, [])

/-- The cache of a new mapper after some calls. -/
abbrev cacheAfter (calls : List MapperCall) : ExpiringCache UInt64 ByteString :=
  finalState (mapperStep cacheTtlSeconds host) Table.empty calls

/-! ## What the cache returns -/

/-- The process is alive in the cgroup that the lookup names. -/
def Host.AliveIn (q : Lookup) : Prop := q.alive = true ∧ host.cgroupOf q.pid = q.cgroupId

/-- The name of a cgroup: the one that every process alive in it gives. -/
def Host.nameOf (cgroupId : UInt64) : ByteString := host.freshName (some (host.cgroupFile cgroupId))

/-- Every lookup for a process alive in its cgroup returns what a mapper with an empty cache would
return. -/
def CacheTransparent (calls : List MapperCall) : Prop :=
  ∀ pre q post, calls = pre ++ .lookup q :: post → host.AliveIn q →
    (getDockerName cacheTtlSeconds host (cacheAfter cacheTtlSeconds host pre) q).2 =
      (getDockerName cacheTtlSeconds host Table.empty q).2

/-- Every lookup that finds no good entry reads a file that gives the name of the cgroup; in
particular if its process is alive in the cgroup. -/
def ReadsOwnName (calls : List MapperCall) : Prop :=
  ∀ pre q post, calls = pre ++ .lookup q :: post →
    (cacheAfter cacheTtlSeconds host pre).hit q.cgroupId q.checkNs = none →
      host.freshName (host.cgroupFileOf q) = host.nameOf q.cgroupId

/-- A mapper with an empty cache reads the file. -/
theorem getDockerName_empty (q : Lookup) :
    (getDockerName cacheTtlSeconds host Table.empty q).2 =
      host.freshName (host.cgroupFileOf q) := rfl

theorem freshName_of_aliveIn {q : Lookup} (h : host.AliveIn q) :
    host.freshName (host.cgroupFileOf q) = host.nameOf q.cgroupId := by
  rw [Host.cgroupFileOf, if_pos h.1, h.2]
  rfl

variable {cacheTtlSeconds host}

/-- A call keeps the invariant that every entry is the name of its cgroup. -/
theorem holds_mapperStep {cache : ExpiringCache UInt64 ByteString} {call : MapperCall}
    (h : cache.Holds fun g name => name = host.nameOf g)
    (hreads : ∀ q, call = .lookup q → cache.hit q.cgroupId q.checkNs = none →
      host.freshName (host.cgroupFileOf q) = host.nameOf q.cgroupId) :
    (mapperStep cacheTtlSeconds host cache call).1.Holds fun g name => name = host.nameOf g := by
  cases call with
  | clearCache => exact ExpiringCache.holds_empty
  | lookup q =>
      rw [mapperStep, getDockerName]
      cases hhit : cache.hit q.cgroupId q.checkNs with
      | some name => exact h
      | none => exact (h.afterLookup _ _).store (hreads q rfl hhit) _

theorem holds_cacheAfter {calls : List MapperCall}
    (hreads : ReadsOwnName cacheTtlSeconds host calls) {pre post : List MapperCall}
    (hcalls : calls = pre ++ post) :
    (cacheAfter cacheTtlSeconds host pre).Holds fun g name => name = host.nameOf g := by
  -- induction on the calls made so far, from the last one
  induction pre using List.reverseRecOn generalizing post with
  | nil => exact ExpiringCache.holds_empty
  | append_singleton pre call ih =>
      have hsplit : calls = pre ++ call :: post := by
        rw [hcalls, List.append_assoc, List.singleton_append]
      rw [cacheAfter, finalState_concat]
      refine holds_mapperStep (ih hsplit) fun q hq hmiss => ?_
      rw [hq] at hsplit
      exact hreads pre q post hsplit hmiss

/-- The cache is transparent in every run in which no lookup stores another name than that of the
cgroup. -/
theorem docker_cache_transparent (cacheTtlSeconds : Int32) (host : Host) (calls : List MapperCall)
    (hreads : ReadsOwnName cacheTtlSeconds host calls) :
    CacheTransparent cacheTtlSeconds host calls := by
  intro pre q post hcalls halive
  have hholds := holds_cacheAfter hreads hcalls
  rw [getDockerName_empty, freshName_of_aliveIn host halive, getDockerName]
  cases hhit : (cacheAfter cacheTtlSeconds host pre).hit q.cgroupId q.checkNs with
  | some name => exact hholds.hit hhit
  | none => exact freshName_of_aliveIn host halive

/-- A name that was stored for a cgroup is returned to every lookup for it up to the expiry. -/
theorem answer_of_stored {cache : ExpiringCache UInt64 ByteString} {q q' : Lookup}
    (hmiss : cache.hit q.cgroupId q.checkNs = none) (hg : q'.cgroupId = q.cgroupId)
    (hgood : q'.checkNs < expiryNs q.storeNs cacheTtlSeconds) :
    (getDockerName cacheTtlSeconds host (getDockerName cacheTtlSeconds host cache q).1 q').2 =
      host.freshName (host.cgroupFileOf q) := by
  have hstored : (getDockerName cacheTtlSeconds host cache q).1.hit q'.cgroupId q'.checkNs =
      some (host.freshName (host.cgroupFileOf q)) := by
    rw [getDockerName, hmiss, hg]
    exact ExpiringCache.hit_store _ _ _ hgood
  rw [getDockerName, hstored]

/-- If all processes are alive in the cgroups they are looked up for, no other name is stored. -/
theorem readsOwnName_of_aliveIn {calls : List MapperCall}
    (h : ∀ q, .lookup q ∈ calls → host.AliveIn q) : ReadsOwnName cacheTtlSeconds host calls := by
  intro pre q post hcalls _
  apply freshName_of_aliveIn
  apply h
  rw [hcalls]
  exact List.mem_append_right _ List.mem_cons_self

end Mapper

/-! ## A process that has exited -/

/-- All processes are in one cgroup, that of the container `web`. -/
def webHost : Host where
  cgroupOf := fun _ => 1
  cgroupFile := fun _ => ascii "0::/docker/" ++ List.replicate 64 97
  httpGet := fun _ => ascii "\x7b\"Id\":\"aaaaaaaaaaaa\",\"Name\":\"/web\"\x7d"

/-- A lookup of a process in the cgroup, at a given time. -/
def webLookup (pid : UInt32) (alive : Bool) (nowNs : UInt64) : Lookup := ⟨1, pid, alive, nowNs, nowNs⟩

theorem nameOf_webHost : webHost.nameOf 1 = ascii "web" := by decide +kernel

/-- A process that has exited is looked up, and a second later one that is alive. -/
theorem exited_process_hides_name :
    ¬ CacheTransparent 60 webHost
      [.lookup (webLookup 7 false 0), .lookup (webLookup 8 true 1000000000)] := by
  intro h
  have hanswer := h [.lookup (webLookup 7 false 0)] (webLookup 8 true 1000000000) [] rfl ⟨rfl, rfl⟩
  have hgood : (webLookup 8 true 1000000000).checkNs <
      expiryNs (webLookup 7 false 0).storeNs 60 := by decide
  have hmiss : ExpiringCache.hit (Table.empty : ExpiringCache UInt64 ByteString)
      (webLookup 7 false 0).cgroupId (webLookup 7 false 0).checkNs = none := rfl
  have hstored : (getDockerName 60 webHost (getDockerName 60 webHost Table.empty
      (webLookup 7 false 0)).1 (webLookup 8 true 1000000000)).2 =
        webHost.freshName (webHost.cgroupFileOf (webLookup 7 false 0)) :=
    answer_of_stored hmiss rfl hgood
  have hname := freshName_of_aliveIn webHost
    (show webHost.AliveIn (webLookup 8 true 1000000000) from ⟨rfl, rfl⟩)
  have hempty : ([] : ByteString) = webHost.nameOf 1 :=
    hstored.symm.trans (hanswer.trans hname)
  rw [nameOf_webHost] at hempty
  cases hempty

/-- Two processes that are alive, and between them one that has exited while the entry of its cgroup
had not expired. -/
theorem live_processes_transparent :
    CacheTransparent 60 webHost
      [.lookup (webLookup 7 true 0), .lookup (webLookup 7 false 1000000000),
        .lookup (webLookup 8 true 2000000000)] := by
  refine docker_cache_transparent 60 webHost _ fun pre q post hcalls hmiss => ?_
  have hhit : (cacheAfter 60 webHost [.lookup (webLookup 7 true 0)]).hit 1 1000000000 ≠ none := by
    decide +kernel
  rcases pre with _ | ⟨first, _ | ⟨second, _ | ⟨third, pre⟩⟩⟩
  · obtain ⟨hq, -⟩ := List.cons.inj hcalls
    obtain rfl := MapperCall.lookup.inj hq
    exact freshName_of_aliveIn webHost ⟨rfl, rfl⟩
  · -- the exited process finds the entry
    obtain ⟨rfl, hrest⟩ := List.cons.inj hcalls
    obtain ⟨hq, -⟩ := List.cons.inj hrest
    obtain rfl := MapperCall.lookup.inj hq
    exact absurd hmiss hhit
  · obtain ⟨-, hrest⟩ := List.cons.inj hcalls
    obtain ⟨-, hlast⟩ := List.cons.inj hrest
    obtain ⟨hq, -⟩ := List.cons.inj hlast
    obtain rfl := MapperCall.lookup.inj hq
    exact freshName_of_aliveIn webHost ⟨rfl, rfl⟩
  · simp at hcalls

end DeepKernel.Agent
