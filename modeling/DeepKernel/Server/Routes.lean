import Mathlib.Data.List.TakeWhile
import DeepKernel.Agent.Serialization

/-!
# HTTP routing of the server

The request mappings of the controllers in `com.deepkernel.core.api` and the dispatch of a request
to one of them. A pattern is written as in the annotations: a segment in braces stands for any
non-empty segment. A request that no mapping matches reaches no controller.
-/

set_option autoImplicit false

namespace DeepKernel.Server

open DeepKernel.Lib DeepKernel.Agent

/-! ## Mappings -/

/-- The request methods that the controllers use. -/
inductive Method
  | get
  | post
  | put
  | delete
  deriving DecidableEq

/-- The controller methods with a request mapping. -/
inductive Handler
  | ingestWindow
  | handleDumpComplete
  | scores
  | upsertChangeContext
  | getChangeContext
  | latestEvents
  | eventsByContainer
  | health
  | info
  | getPoliciesForContainer
  | getAllPolicies
  | createDemoPolicy
  | updatePolicyStatus
  | triggerTraining
  | triageTest
  | listContainers
  | listModels
  | clearAllContainers
  | deleteContainersByPattern
  | deleteContainer
  | clearAllEvents
  | getStats
  | syncModelsFromMlService
  | clearModelCache
  | getTriageEnabled
  | setTriageEnabled
  deriving DecidableEq

/-- A request mapping. -/
structure Route where
  method : Method
  pattern : ByteString
  handler : Handler

/-- The request mappings of the controllers. -/
def routes : List Route :=
  [⟨.post, ascii "/api/v1/agent/windows", .ingestWindow⟩,
    ⟨.post, ascii "/api/v1/agent/dump-complete", .handleDumpComplete⟩,
    ⟨.get, ascii "/api/ui/containers/\x7bid\x7d/scores", .scores⟩,
    ⟨.post, ascii "/api/ui/demo/change-context", .upsertChangeContext⟩,
    ⟨.get, ascii "/api/ui/demo/change-context/\x7bcontainerId\x7d", .getChangeContext⟩,
    ⟨.get, ascii "/api/ui/events", .latestEvents⟩,
    ⟨.get, ascii "/api/ui/events/container/\x7bid\x7d", .eventsByContainer⟩,
    ⟨.get, ascii "/api/health", .health⟩,
    ⟨.get, ascii "/api/info", .info⟩,
    ⟨.get, ascii "/api/ui/containers/\x7bcontainerId\x7d/policies", .getPoliciesForContainer⟩,
    ⟨.get, ascii "/api/ui/policies", .getAllPolicies⟩,
    ⟨.post, ascii "/api/demo/policies", .createDemoPolicy⟩,
    ⟨.put, ascii "/api/demo/policies/\x7bpolicyId\x7d/status", .updatePolicyStatus⟩,
    ⟨.post, ascii "/api/ui/train/\x7bcontainerId\x7d", .triggerTraining⟩,
    ⟨.post, ascii "/api/ui/demo/triage", .triageTest⟩,
    ⟨.get, ascii "/api/ui/containers", .listContainers⟩,
    ⟨.get, ascii "/api/ui/containers/\x7bid\x7d/models", .listModels⟩,
    ⟨.post, ascii "/api/admin/containers/clear", .clearAllContainers⟩,
    ⟨.delete, ascii "/api/admin/containers", .deleteContainersByPattern⟩,
    ⟨.delete, ascii "/api/admin/containers/\x7bid\x7d", .deleteContainer⟩,
    ⟨.post, ascii "/api/admin/events/clear", .clearAllEvents⟩,
    ⟨.get, ascii "/api/admin/stats", .getStats⟩,
    ⟨.post, ascii "/api/admin/models/sync", .syncModelsFromMlService⟩,
    ⟨.post, ascii "/api/admin/models/clear", .clearModelCache⟩,
    ⟨.get, ascii "/api/admin/triage/enabled", .getTriageEnabled⟩,
    ⟨.post, ascii "/api/admin/triage/enabled", .setTriageEnabled⟩]

/-! ## Dispatch -/

/-- A segment of a pattern matches a segment of a path. -/
def segmentMatches (pattern segment : ByteString) : Bool :=
  if pattern.head? = some 123 then !segment.isEmpty else decide (pattern = segment)

/-- The segments of a pattern match those of a path. -/
def segmentsMatch : List ByteString → List ByteString → Bool
  | [], [] => true
  | p :: ps, x :: xs => segmentMatches p x && segmentsMatch ps xs
  | _, _ => false

/-- The segments between the slashes of a path. -/
def segments (path : ByteString) : List ByteString := path.splitOn 47

/-- The controller method that gets a request. -/
def dispatch (method : Method) (path : ByteString) : Option Handler :=
  (routes.find? fun r =>
    decide (r.method = method) && segmentsMatch (segments r.pattern) (segments path)).map
    Route.handler

/-! ## Addresses -/

/-- The part of a URL after its scheme. -/
def afterScheme : ByteString → ByteString
  | [] => []
  | b :: rest => if (ascii "://").isPrefixOf (b :: rest) then rest.drop 2 else afterScheme rest

/-- The path that a client asks for when it opens a URL. -/
def urlPath (url : ByteString) : ByteString :=
  ((afterScheme url).dropWhile fun b => decide (b ≠ 47)).takeWhile fun b =>
    decide (b ≠ 63) && decide (b ≠ 35)

/-- The address of a server: a scheme, and a host with a port. -/
structure Origin where
  scheme : ByteString
  authority : ByteString
  scheme_plain : ∀ b ∈ scheme, b ≠ 58
  authority_plain : ∀ b ∈ authority, b ≠ 47 ∧ b ≠ 63 ∧ b ≠ 35

/-- The text of an address. -/
def Origin.url (o : Origin) : ByteString := o.scheme ++ ascii "://" ++ o.authority

theorem afterScheme_append {scheme rest : ByteString} (h : ∀ b ∈ scheme, b ≠ 58) :
    afterScheme (scheme ++ (ascii "://" ++ rest)) = rest := by
  induction scheme with
  | nil =>
      have hurl : ([] : ByteString) ++ (ascii "://" ++ rest) = 58 :: 47 :: 47 :: rest := rfl
      have hinit : (ascii "://").isPrefixOf (58 :: 47 :: 47 :: rest) = true := by
        rw [List.isPrefixOf_iff_prefix]
        exact List.prefix_append [58, 47, 47] rest
      rw [hurl, afterScheme, if_pos hinit]
      rfl
  | cons b scheme ih =>
      rw [List.forall_mem_cons] at h
      have hinit : ¬ (ascii "://").isPrefixOf (b :: (scheme ++ (ascii "://" ++ rest))) = true := by
        rw [List.isPrefixOf_iff_prefix]
        intro hp
        exact h.1 (List.cons_prefix_cons.1 hp).1.symm
      rw [List.cons_append, afterScheme, if_neg hinit]
      exact ih h.2

/-- A path that is appended to an address is the path that the server sees. -/
theorem urlPath_append (o : Origin) {path : ByteString} (hslash : path.head? = some 47)
    (hplain : ∀ b ∈ path, b ≠ 63 ∧ b ≠ 35) : urlPath (o.url ++ path) = path := by
  have hauth : (o.authority ++ path).dropWhile (fun b => decide (b ≠ 47)) = path := by
    rw [List.dropWhile_append_of_pos fun b hb => by simpa using (o.authority_plain b hb).1]
    cases path with
    | nil => rfl
    | cons b path =>
        obtain rfl : b = 47 := by simpa using hslash
        rfl
  rw [urlPath, Origin.url, List.append_assoc, List.append_assoc, afterScheme_append o.scheme_plain,
    hauth, List.takeWhile_eq_self_iff]
  intro b hb
  simpa using hplain b hb

end DeepKernel.Server
