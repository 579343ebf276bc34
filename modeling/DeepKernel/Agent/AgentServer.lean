import DeepKernel.Agent.CgroupParsers

/-!
# The HTTP server of the agent

`AgentServer`: the bytes of one `recv` are split into a request line, header lines and a body, the
request is routed by its method and path, and the fields of the body are taken with the searches of
`JsonFields`. The lines of the body are put together without their line feeds.
-/

set_option autoImplicit false

namespace DeepKernel.Agent

open DeepKernel.Lib

/-! ## Requests -/

/-- `AgentServer::HttpRequest`. -/
structure HttpRequest where
  method : ByteString := []
  path : ByteString := []
  body : ByteString := []
  deriving DecidableEq

/-- What `operator>>` takes from a line, one text after the other. -/
def streamWords (line : ByteString) : List ByteString :=
  (line.splitOnP isSpace).filter fun w => !w.isEmpty

/-- `line != "\r" && !line.empty()`. -/
def isHeaderLine (line : ByteString) : Bool := line != [13] && !line.isEmpty

/-- `parseRequest`. -/
def parseRequest (raw : ByteString) : HttpRequest :=
  match getLines raw with
  | [] => {}
  | line :: lines =>
      { method := (streamWords line).getD 0 []
        path := (streamWords line).getD 1 []
        -- the line that ends the headers is dropped with them
        body := (lines.dropWhile isHeaderLine).tail.flatten }

/-- What one `recv` into the buffer takes of the bytes that have arrived. -/
def received (bytes : ByteString) : ByteString := bytes.take 8191

/-! ## Routes -/

/-- What the server does with a request. -/
inductive Action
  | health
  | longDump (containerId : ByteString) (durationSec : Int32) (reason : ByteString)
  | policy (containerId policyId policyType specJson : ByteString)
  | badRequest (error : String)
  | notFound
  deriving DecidableEq

/-- The routing in `handleClient`. -/
def route (req : HttpRequest) : Action :=
  if req.method = ascii "GET" ∧ req.path = ascii "/health" then .health
  else if req.method = ascii "POST" ∧ req.path = ascii "/long-dump-requests" then
    let containerId := extractJsonString req.body "container_id"
    let durationSec := extractJsonInt req.body "duration_sec" 1200
    let reason := extractJsonString req.body "reason"
    if containerId = [] then .badRequest "container_id required"
    else .longDump containerId durationSec reason
  else if req.method = ascii "POST" ∧ req.path = ascii "/policies" then
    let containerId := extractJsonString req.body "container_id"
    let policyId := extractJsonString req.body "policy_id"
    let policyType := extractJsonString req.body "type"
    if containerId = [] ∨ policyId = [] then
      .badRequest "container_id and policy_id required"
    else .policy containerId policyId policyType req.body
  else .notFound

/-- `handleClient` up to the call of a handler. -/
def handleClient (bytes : ByteString) : Action := route (parseRequest (received bytes))

/-- The status code and the body of the response, which for a policy depend on the handler. -/
def response (applied : Bool) : Action → Nat × ByteString
  | .health => (200, ascii "\x7b\"status\":\"healthy\"\x7d")
  | .longDump _ _ _ => (202, ascii "\x7b\"status\":\"dump_requested\"\x7d")
  | .policy _ policyId _ _ =>
      if applied then
        (200, ascii "\x7b\"status\":\"APPLIED\",\"policy_id\":\"" ++ policyId ++ ascii "\"\x7d")
      else
        (500, ascii "\x7b\"status\":\"FAILED\",\"policy_id\":\"" ++ policyId ++ ascii "\"\x7d")
  | .badRequest error => (400, ascii "\x7b\"error\":\"" ++ ascii error ++ ascii "\"\x7d")
  | .notFound => (404, ascii "\x7b\"error\":\"not found\"\x7d")

/-! ## Lines -/

theorem getLines_line {line : ByteString} (h : 10 ∉ line) (rest : ByteString) :
    getLines (line ++ 10 :: rest) = line :: getLines rest := by
  have hsplit : (line ++ 10 :: rest).splitOn 10 = line :: rest.splitOn 10 := by
    rw [List.splitOn_append_cons_self, List.splitOn_eq_singleton h, List.singleton_append]
  have hne : rest.splitOn 10 ≠ [] := List.splitOn_ne_nil 10 rest
  obtain ⟨part, parts, hparts⟩ := List.exists_cons_of_ne_nil hne
  rw [getLines, getLines, hsplit, hparts]
  simp only [List.getLast?_cons_cons, List.dropLast_cons_cons]
  split_ifs
  · rfl
  · rfl

/-- The lines without their line feeds. -/
theorem flatten_getLines (text : ByteString) :
    (getLines text).flatten = text.filter (· != 10) := by
  have hsplit : (text.splitOn 10).flatten = text.filter (· != 10) := by
    induction text with
    | nil => rfl
    | cons b text ih =>
        obtain ⟨part, parts, hparts⟩ := List.exists_cons_of_ne_nil (List.splitOn_ne_nil 10 text)
        rw [hparts] at ih
        rw [List.splitOn_cons_eq_if_modifyHead, hparts, List.filter_cons]
        by_cases hb : b = 10
        · rw [if_pos (beq_iff_eq.2 hb), if_neg (by simp [hb])]
          exact ih
        · rw [if_neg (by simp [hb]), if_pos (bne_iff_ne.2 hb), ← ih]
          rfl
  rw [← hsplit, getLines]
  split_ifs with hlast
  · -- an empty part at the end adds nothing
    obtain ⟨parts, hparts⟩ := List.getLast?_eq_some_iff.1 hlast
    rw [hparts, List.dropLast_concat, List.flatten_append]
    simp
  · rfl

/-- A request with any header lines: its body is what follows the empty line, without line feeds. -/
theorem parseRequest_eq {line : ByteString} {headers : List ByteString} (hline : 10 ∉ line)
    (hheaders : ∀ h ∈ headers, isHeaderLine h = true ∧ 10 ∉ h) (body : ByteString) :
    parseRequest (line ++ 10 :: (headers.flatMap (fun h => h ++ [10]) ++ 13 :: 10 :: body)) =
      { method := (streamWords line).getD 0 []
        path := (streamWords line).getD 1 []
        body := body.filter (· != 10) } := by
  have hlines : getLines (headers.flatMap (fun h => h ++ [10]) ++ 13 :: 10 :: body) =
      headers ++ [13] :: getLines body := by
    induction headers with
    | nil => exact getLines_line (by decide : 10 ∉ ([13] : ByteString)) body
    | cons h headers ih =>
        rw [List.flatMap_cons, List.append_assoc, List.append_assoc, List.singleton_append,
          getLines_line (hheaders h List.mem_cons_self).2,
          ih fun x hx => hheaders x (List.mem_cons_of_mem _ hx), List.cons_append]
  have hdrop : (headers ++ [13] :: getLines body).dropWhile isHeaderLine = [13] :: getLines body := by
    rw [List.dropWhile_append_of_pos fun h hh => (hheaders h hh).1]
    rfl
  rw [parseRequest, getLines_line hline, hlines]
  simp only [hdrop, List.tail_cons, flatten_getLines]

end DeepKernel.Agent
