import DeepKernel.System.PolicyBody

/-!
# Requests that arrive in pieces

The server of the agent reads a request with one `recv`. What TCP delivers later is left in the socket,
so the request that is handled is the first piece. It is handled like the whole request only if
nothing that matters comes later (`FirstPieceEnough`). What is found in the body of the first piece
can be told from the whole body: the body of the first piece is a beginning of it, and a field that has
been found is found again when the text goes on.
-/

set_option autoImplicit false

namespace DeepKernel.System

open DeepKernel.Lib DeepKernel.Agent

/-! ## The server -/

/-- A call of `longDumpHandler_` or `policyHandler_`. -/
inductive HandlerCall
  | longDump (containerId : ByteString) (durationSec : Int32) (reason : ByteString)
  | policy (containerId policyId policyType specJson : ByteString)
  deriving DecidableEq

/-- The handler that is called. -/
def handlerCall : Action → Option HandlerCall
  | .longDump containerId durationSec reason => some (.longDump containerId durationSec reason)
  | .policy containerId policyId policyType specJson =>
      some (.policy containerId policyId policyType specJson)
  | .health | .badRequest _ | .notFound => none

/-- The text that goes with a status code. -/
def statusText : Nat → String
  | 200 => "OK"
  | 202 => "Accepted"
  | 400 => "Bad Request"
  | 404 => "Not Found"
  | _ => "Internal Server Error"

/-- `sendResponse`: what is sent. -/
def sendResponse (statusCode : Nat) (body : ByteString) : ByteString :=
  ascii "HTTP/1.1 " ++ decimal statusCode ++ ascii " " ++ ascii (statusText statusCode) ++
    ascii "\r\nContent-Type: application/json\r\nContent-Length: " ++ decimal body.length ++
    ascii "\r\nConnection: close\r\n\r\n" ++ body

/-- The response to a request, with the answer of the policy handler. -/
def responseText (applied : Bool) (action : Action) : ByteString :=
  sendResponse (response applied action).1 (response applied action).2

/-- `handleClient` on a connection: the call and the response. `pieces` are the results that the calls
of `recv` would have one after the other; only one is made, and nothing happens if it has no bytes. -/
def serveClient (policyHandler : HandlerCall → Bool) (pieces : List ByteString) :
    Option HandlerCall × Option ByteString :=
  let bytes := pieces.headD []
  if bytes = [] then (none, none)
  else
    let action := handleClient bytes
    let call := handlerCall action
    (call, some (responseText ((call.map policyHandler).getD true) action))

/-! ## Endpoints -/

/-- What a request is for. -/
inductive Endpoint
  | health
  | longDumpRequests
  | policies
  | unknown
  deriving DecidableEq

/-- The endpoint that the method and the path name. -/
def endpoint (req : HttpRequest) : Endpoint :=
  if req.method = ascii "GET" ∧ req.path = ascii "/health" then .health
  else if req.method = ascii "POST" ∧ req.path = ascii "/long-dump-requests" then
    .longDumpRequests
  else if req.method = ascii "POST" ∧ req.path = ascii "/policies" then .policies
  else .unknown

/-- What the server does with a body at an endpoint. -/
def routeTo (body : ByteString) : Endpoint → Action
  | .health => .health
  | .longDumpRequests =>
      if extractJsonString body "container_id" = [] then .badRequest "container_id required"
      else
        .longDump (extractJsonString body "container_id") (extractJsonInt body "duration_sec" 1200)
          (extractJsonString body "reason")
  | .policies =>
      if extractJsonString body "container_id" = [] ∨ extractJsonString body "policy_id" = [] then
        .badRequest "container_id and policy_id required"
      else
        .policy (extractJsonString body "container_id") (extractJsonString body "policy_id")
          (extractJsonString body "type") body
  | .unknown => .notFound

theorem route_eq (req : HttpRequest) : route req = routeTo req.body (endpoint req) := by
  rw [route, endpoint]
  split_ifs
  · rfl
  · rfl
  · rfl
  · rfl

/-- The endpoint that an action comes from. -/
def actionEndpoint : Action → Endpoint
  | .health => .health
  | .longDump _ _ _ => .longDumpRequests
  | .policy _ _ _ _ => .policies
  | .badRequest error => if error = "container_id required" then .longDumpRequests else .policies
  | .notFound => .unknown

theorem actionEndpoint_routeTo (body : ByteString) (e : Endpoint) :
    actionEndpoint (routeTo body e) = e := by
  cases e with
  | health => rfl
  | longDumpRequests =>
      rw [routeTo]
      split_ifs
      · rfl
      · rfl
  | policies =>
      rw [routeTo]
      split_ifs
      · rw [actionEndpoint, if_neg (by decide)]
      · rfl
  | unknown => rfl

/-- The actions without a call of a handler. -/
def silentActions : List Action :=
  [.health, .badRequest "container_id required",
    .badRequest "container_id and policy_id required", .notFound]

theorem mem_silentActions {body : ByteString} {e : Endpoint}
    (h : handlerCall (routeTo body e) = none) : routeTo body e ∈ silentActions := by
  cases e with
  | health => exact List.mem_cons_self
  | longDumpRequests =>
      rw [routeTo] at h ⊢
      split_ifs at h ⊢
      · decide
      · cases h
  | policies =>
      rw [routeTo] at h ⊢
      split_ifs at h ⊢
      · decide
      · cases h
  | unknown =>
      rw [routeTo]
      decide

theorem nodup_silentResponses : (silentActions.map (responseText true)).Nodup := by decide

/-- The action with a call. -/
def callAction : HandlerCall → Action
  | .longDump containerId durationSec reason => .longDump containerId durationSec reason
  | .policy containerId policyId policyType specJson =>
      .policy containerId policyId policyType specJson

theorem eq_callAction {action : Action} {call : HandlerCall} (h : handlerCall action = some call) :
    action = callAction call := by
  cases action with
  | longDump c d reason =>
      rw [← Option.some.inj h]
      rfl
  | policy c p t spec =>
      rw [← Option.some.inj h]
      rfl
  | health => cases h
  | badRequest error => cases h
  | notFound => cases h

/-- A call and a response tell what the server did. -/
theorem routeTo_eq_of_call {body₁ body₂ : ByteString} {e₁ e₂ : Endpoint}
    (hcall : handlerCall (routeTo body₁ e₁) = handlerCall (routeTo body₂ e₂))
    (hresponse : handlerCall (routeTo body₁ e₁) = none →
      responseText true (routeTo body₁ e₁) = responseText true (routeTo body₂ e₂)) :
    routeTo body₁ e₁ = routeTo body₂ e₂ := by
  cases h : handlerCall (routeTo body₁ e₁) with
  | none =>
      exact List.inj_on_of_nodup_map nodup_silentResponses (mem_silentActions h)
        (mem_silentActions (hcall.symm.trans h)) (hresponse h)
  | some call => rw [eq_callAction h, eq_callAction (hcall.symm.trans h)]

/-! ## The body of the first piece -/

/-- What is left of some lines as a body. -/
def bodyOfLines (lines : List ByteString) : ByteString :=
  (lines.dropWhile isHeaderLine).tail.flatten

theorem getLines_of_no_feed {text : ByteString} (h : 10 ∉ text) :
    getLines text = [] ∨ getLines text = [text] := by
  rw [getLines, List.splitOn_eq_singleton h]
  split_ifs
  · exact .inl rfl
  · exact .inr rfl

theorem bodyOfLines_of_no_feed {text : ByteString} (h : 10 ∉ text) :
    bodyOfLines (getLines text) = [] := by
  rcases getLines_of_no_feed h with hlines | hlines
  · rw [hlines]
    rfl
  · rw [hlines, bodyOfLines, List.dropWhile_cons]
    split_ifs
    · rfl
    · rfl

/-- The body behind a beginning of the lines is a beginning of the body behind them. -/
theorem bodyOfLines_prefix {first whole : ByteString} (h : first <+: whole) :
    bodyOfLines (getLines first) <+: bodyOfLines (getLines whole) := by
  -- a line of the first piece that has its line feed is a line of the whole
  induction hn : first.length using Nat.strong_induction_on generalizing first whole with
  | _ n ih =>
      by_cases hfeed : 10 ∈ first
      · obtain ⟨line, rest, rfl, hline⟩ := List.eq_append_cons_of_mem hfeed
        obtain ⟨more, rfl⟩ := h
        have hrest : rest <+: rest ++ more := List.prefix_append rest more
        rw [List.append_assoc, List.cons_append, getLines_line hline, getLines_line hline,
          bodyOfLines, bodyOfLines, List.dropWhile_cons, List.dropWhile_cons]
        split_ifs with hheader
        · refine ih rest.length ?_ hrest rfl
          rw [← hn, List.length_append, List.length_cons]
          omega
        · -- the line ends the headers, and the rest is the body
          rw [List.tail_cons, List.tail_cons, flatten_getLines, flatten_getLines]
          exact hrest.filter _
      · rw [bodyOfLines_of_no_feed hfeed]
        exact List.nil_prefix

theorem body_parseRequest (raw : ByteString) :
    (parseRequest raw).body = bodyOfLines (getLines raw).tail := by
  rw [parseRequest]
  cases getLines raw with
  | nil => rfl
  | cons line lines => rfl

theorem body_prefix {first whole : ByteString} (h : first <+: whole) :
    (parseRequest first).body <+: (parseRequest whole).body := by
  rw [body_parseRequest, body_parseRequest]
  by_cases hfeed : 10 ∈ first
  · obtain ⟨line, rest, rfl, hline⟩ := List.eq_append_cons_of_mem hfeed
    obtain ⟨more, rfl⟩ := h
    rw [List.append_assoc, List.cons_append, getLines_line hline, getLines_line hline,
      List.tail_cons, List.tail_cons]
    exact bodyOfLines_prefix (List.prefix_append rest more)
  · have hnil : (getLines first).tail = [] := by
      rcases getLines_of_no_feed hfeed with hlines | hlines
      · rw [hlines]
        rfl
      · rw [hlines]
        rfl
    rw [hnil]
    exact List.nil_prefix

/-- The text has a field with the key and a value that is not empty, up to the mark that ends the
value. -/
def HasField (key : FieldKey) (text : ByteString) : Prop :=
  ∃ before w w' value rest,
    text = before ++ 34 :: (key.bytes ++ 34 :: (w ++ 58 :: (w' ++ 34 :: (value ++ 34 :: rest)))) ∧
    (∀ b ∈ w, isSpace b = true) ∧ (∀ b ∈ w', isSpace b = true) ∧ value ≠ [] ∧ 34 ∉ value

theorem stringField_ne_nil_iff {key : FieldKey} {text : ByteString} :
    stringField text (exactly key.bytes) ≠ [] ↔ HasField key text := by
  constructor
  · intro h
    cases hsearch : search (stringFieldPattern (exactly key.bytes)) text with
    | none =>
        rw [stringField, searchGroup, hsearch] at h
        exact absurd rfl h
    | some groups =>
        obtain ⟨t, ⟨before, rfl⟩, hmatch⟩ := exists_match_of_search hsearch
        obtain ⟨w, w', value, rest, rfl, hw, hw', hne, hmark, -⟩ :=
          exists_of_match_stringField hmatch
        exact ⟨before, w, w', value, rest, rfl, hw, hw', hne, hmark⟩
  · rintro ⟨before, w, w', value, rest, rfl, hw, hw', hne, hmark⟩
    have hfield : matchHere (stringFieldPattern (exactly key.bytes))
        (34 :: (key.bytes ++ 34 :: (w ++ 58 :: (w' ++ 34 :: (value ++ 34 :: rest))))) =
          some [value] := match_stringField hw hw' hne hmark
    -- the search may stop at an earlier field with the key, whose text is not empty either
    obtain ⟨groups, hsearch⟩ := exists_search_of_match before hfield
    obtain ⟨t, -, hmatch⟩ := exists_match_of_search hsearch
    obtain ⟨v, v', found, tail, -, -, -, hfound, -, rfl⟩ := exists_of_match_stringField hmatch
    rw [stringField, searchGroup, hsearch]
    exact hfound

/-- A field of the first piece's body has the value that it has in the whole body. -/
theorem stringField_of_prefix {key : FieldKey} {first whole : ByteString} (h : first <+: whole)
    (hfield : HasField key first) :
    stringField first (exactly key.bytes) = stringField whole (exactly key.bytes) := by
  obtain ⟨more, rfl⟩ := h
  exact (stringField_append (stringField_ne_nil_iff.2 hfield) more).symm

theorem HasField.mono {key : FieldKey} {first whole : ByteString} (hfield : HasField key first)
    (h : first <+: whole) : HasField key whole := by
  rw [← stringField_ne_nil_iff, ← stringField_of_prefix h hfield]
  exact stringField_ne_nil_iff.2 hfield

/-! ## Numbers -/

/-- The text begins with a field that has the key and these digits for its value, all the digits that
stand there. -/
def NumberField (key : FieldKey) (digits s : ByteString) : Prop :=
  ∃ w w' rest, s = 34 :: (key.bytes ++ 34 :: (w ++ 58 :: (w' ++ (digits ++ rest)))) ∧
    (∀ b ∈ w, isSpace b = true) ∧ (∀ b ∈ w', isSpace b = true) ∧ digits ≠ [] ∧
    (∀ b ∈ digits, isDigit b = true) ∧ ∀ b ∈ rest.head?, isDigit b = false

/-- The first field of a text with the key and a number has these digits. -/
def FirstNumber (key : FieldKey) (text digits : ByteString) : Prop :=
  ∃ before s, text = before ++ s ∧ NumberField key digits s ∧
    ∀ before' s' digits', text = before' ++ s' → NumberField key digits' s' →
      before.length ≤ before'.length

/-- The number that digits are read as; out of range they are read as the default. -/
def stoiOr (defaultVal : Int32) (digits : ByteString) : Int32 :=
  if digitsValue digits < 2 ^ 31 then Int32.ofNat (digitsValue digits) else defaultVal

/-- Two texts give a number alike: neither has the field, or it has the same digits in both. Otherwise
the digits go on behind the first text, or stand behind it altogether, and they are read as the number
that was read there. -/
inductive SameNumber (key : FieldKey) (defaultVal : Int32) (first whole : ByteString) : Prop
  | absent (hwhole : ∀ digits, ¬ FirstNumber key whole digits)
  | complete (digits : ByteString) (hfirst : FirstNumber key first digits)
      (hwhole : FirstNumber key whole digits)
  | cut (digits digits' : ByteString) (hfirst : FirstNumber key first digits)
      (hwhole : FirstNumber key whole digits')
      (hvalue : stoiOr defaultVal digits = stoiOr defaultVal digits')
  | behind (digits : ByteString) (hfirst : ∀ digits, ¬ FirstNumber key first digits)
      (hwhole : FirstNumber key whole digits) (hvalue : stoiOr defaultVal digits = defaultVal)

theorem matchHere_intField_iff {key : FieldKey} {s : ByteString} {groups : List ByteString} :
    matchHere (intFieldPattern (exactly key.bytes)) s = some groups ↔
      ∃ digits, groups = [digits] ∧ NumberField key digits s := by
  constructor
  · intro h
    have hkey := h
    rw [intFieldPattern, keyPattern_append] at hkey
    -- the pattern item by item: mark, key, mark, spaces, colon, spaces, digits
    obtain ⟨s₁, hs, h₁⟩ := exists_of_matchHere_exactly hkey
    obtain ⟨s₂, hs₁, h₂⟩ := exists_of_matchHere_exactly h₁
    obtain ⟨s₃, hs₂, h₃⟩ := exists_of_matchHere_exactly h₂
    obtain ⟨w, s₄, _, hs₃, -, -, hw, h₄, rfl⟩ := exists_of_matchHere h₃
    obtain ⟨s₅, hs₄, h₅⟩ := exists_of_matchHere_exactly h₄
    obtain ⟨w', s₆, _, hs₅, -, -, hw', h₆, rfl⟩ := exists_of_matchHere h₅
    obtain ⟨found, s₇, _, hs₆, hlen, -, hfound, -, -⟩ := exists_of_matchHere h₆
    -- the digits that stand there, of which the group may be a beginning
    have hne : s₆.takeWhile isDigit ≠ [] := by
      rw [hs₆, List.takeWhile_append_of_pos hfound]
      exact List.append_ne_nil_of_left_ne_nil (List.ne_nil_of_length_pos hlen) _
    have hdigits : ∀ b ∈ s₆.takeWhile isDigit, isDigit b = true := fun b hb =>
      List.mem_takeWhile_imp hb
    have hrest : ∀ b ∈ (s₆.dropWhile isDigit).head?, isDigit b = false := by
      intro b hb
      have hhead := List.head?_dropWhile_not isDigit s₆
      rw [Option.mem_def.1 hb] at hhead
      exact Bool.eq_false_iff.2 (by simpa using hhead)
    have htext : s = 34 :: (key.bytes ++ 34 :: (w ++ 58 :: (w' ++ (s₆.takeWhile isDigit ++
        s₆.dropWhile isDigit)))) := by
      rw [List.takeWhile_append_dropWhile, hs, hs₁, hs₂, hs₃, hs₄, hs₅]
      rfl
    refine ⟨s₆.takeWhile isDigit, ?_, w, w', _, htext, hw, hw', hne, hdigits, hrest⟩
    rw [htext, match_intField hw hw' hne hdigits hrest] at h
    exact (Option.some.inj h).symm
  · rintro ⟨digits, rfl, w, w', rest, rfl, hw, hw', hne, hdigits, hrest⟩
    exact match_intField hw hw' hne hdigits hrest

theorem matchHere_intField_eq_none_iff {key : FieldKey} {s : ByteString} :
    matchHere (intFieldPattern (exactly key.bytes)) s = none ↔
      ∀ digits, ¬ NumberField key digits s := by
  rw [Option.eq_none_iff_forall_ne_some]
  constructor
  · exact fun h digits hfield => h _ (matchHere_intField_iff.2 ⟨digits, rfl, hfield⟩)
  · intro h groups hmatch
    obtain ⟨digits, -, hfield⟩ := matchHere_intField_iff.1 hmatch
    exact h digits hfield

theorem searchGroup_intField_iff {key : FieldKey} {text digits : ByteString} :
    searchGroup (intFieldPattern (exactly key.bytes)) 0 text = some digits ↔
      FirstNumber key text digits := by
  constructor
  · intro h
    rw [searchGroup] at h
    obtain ⟨groups, hsearch, hgroup⟩ := Option.bind_eq_some_iff.1 h
    obtain ⟨before, s, rfl, hmatch, hleft⟩ := search_eq_some_iff.1 hsearch
    obtain ⟨found, rfl, hfield⟩ := matchHere_intField_iff.1 hmatch
    obtain rfl : found = digits := Option.some.inj hgroup
    refine ⟨before, s, rfl, hfield, fun before' s' digits' heq hfield' => ?_⟩
    by_contra hlt
    exact matchHere_intField_eq_none_iff.1 (hleft before' s' heq (Nat.lt_of_not_le hlt)) _ hfield'
  · rintro ⟨before, s, rfl, hfield, hleft⟩
    have hsearch : search (intFieldPattern (exactly key.bytes)) (before ++ s) = some [digits] := by
      refine search_eq_some_iff.2 ⟨before, s, rfl, matchHere_intField_iff.2 ⟨_, rfl, hfield⟩, ?_⟩
      intro before' s' heq hlt
      refine matchHere_intField_eq_none_iff.2 fun digits' hfield' => ?_
      exact absurd (hleft before' s' digits' heq hfield') (Nat.not_le.2 hlt)
    rw [searchGroup, hsearch]
    rfl

/-- A number in a beginning of a text is in the text, where it may have more digits. -/
theorem FirstNumber.exists_append {key : FieldKey} {first whole digits : ByteString}
    (hfirst : FirstNumber key first digits) (h : first <+: whole) :
    ∃ digits', FirstNumber key whole digits' := by
  obtain ⟨more, rfl⟩ := h
  obtain ⟨before, s, rfl, ⟨w, w', rest, rfl, hw, hw', hne, hdigits, -⟩, -⟩ := hfirst
  obtain ⟨b, digits, rfl⟩ := List.exists_cons_of_ne_nil hne
  have hb := hdigits b List.mem_cons_self
  have hfield : NumberField key (b :: (digits ++ (rest ++ more)).takeWhile isDigit)
      (34 :: (key.bytes ++ 34 :: (w ++ 58 :: (w' ++ (b :: digits ++ rest)))) ++ more) := by
    refine ⟨w, w', (digits ++ (rest ++ more)).dropWhile isDigit, ?_, hw, hw', nofun, ?_, ?_⟩
    · simp only [List.cons_append, List.append_assoc, List.takeWhile_append_dropWhile]
    · rintro c (_ | ⟨_, hc⟩)
      · exact hb
      · exact List.mem_takeWhile_imp hc
    · intro c hc
      have hhead := List.head?_dropWhile_not isDigit (digits ++ (rest ++ more))
      rw [Option.mem_def.1 hc] at hhead
      exact Bool.eq_false_iff.2 (by simpa using hhead)
  obtain ⟨groups, hsearch⟩ := exists_search_of_match before
    (matchHere_intField_iff.2 ⟨_, rfl, hfield⟩)
  obtain ⟨t, -, hmatch⟩ := exists_match_of_search hsearch
  obtain ⟨digits', rfl, -⟩ := matchHere_intField_iff.1 hmatch
  refine ⟨digits', searchGroup_intField_iff.1 ?_⟩
  rw [List.append_assoc, searchGroup, hsearch]
  rfl

theorem extractJsonInt_of_firstNumber {name : String} {key : FieldKey} {text digits : ByteString}
    (hname : keyText name = exactly key.bytes) (defaultVal : Int32)
    (h : FirstNumber key text digits) :
    extractJsonInt text name defaultVal = stoiOr defaultVal digits := by
  rw [extractJsonInt, hname, searchGroup_intField_iff.2 h]
  rfl

theorem extractJsonInt_of_absent {name : String} {key : FieldKey} {text : ByteString}
    (hname : keyText name = exactly key.bytes) (defaultVal : Int32)
    (h : ∀ digits, ¬ FirstNumber key text digits) :
    extractJsonInt text name defaultVal = defaultVal := by
  have hnone : searchGroup (intFieldPattern (exactly key.bytes)) 0 text = none :=
    Option.eq_none_iff_forall_ne_some.2 fun digits hsome =>
      h digits (searchGroup_intField_iff.1 hsome)
  rw [extractJsonInt, hname, hnone]

/-- The numbers that are read are the same exactly when the texts give them alike. -/
theorem extractJsonInt_eq_iff {name : String} {key : FieldKey} {first whole : ByteString}
    (hname : keyText name = exactly key.bytes) (defaultVal : Int32) (h : first <+: whole) :
    extractJsonInt first name defaultVal = extractJsonInt whole name defaultVal ↔
      SameNumber key defaultVal first whole := by
  constructor
  · intro heq
    by_cases hwhole : ∃ digits, FirstNumber key whole digits
    · obtain ⟨digits', hwhole⟩ := hwhole
      rw [extractJsonInt_of_firstNumber hname defaultVal hwhole] at heq
      by_cases hfirst : ∃ digits, FirstNumber key first digits
      · obtain ⟨digits, hfirst⟩ := hfirst
        rw [extractJsonInt_of_firstNumber hname defaultVal hfirst] at heq
        exact .cut digits digits' hfirst hwhole heq
      · have hno := not_exists.1 hfirst
        rw [extractJsonInt_of_absent hname defaultVal hno] at heq
        exact .behind digits' hno hwhole heq.symm
    · exact .absent (not_exists.1 hwhole)
  · intro hsame
    cases hsame with
    | absent hwhole =>
        have hfirst : ∀ digits, ¬ FirstNumber key first digits := by
          intro digits hfirst
          obtain ⟨digits', hfound⟩ := hfirst.exists_append h
          exact hwhole digits' hfound
        rw [extractJsonInt_of_absent hname defaultVal hfirst,
          extractJsonInt_of_absent hname defaultVal hwhole]
    | complete digits hfirst hwhole =>
        rw [extractJsonInt_of_firstNumber hname defaultVal hfirst,
          extractJsonInt_of_firstNumber hname defaultVal hwhole]
    | cut digits digits' hfirst hwhole hvalue =>
        rw [extractJsonInt_of_firstNumber hname defaultVal hfirst,
          extractJsonInt_of_firstNumber hname defaultVal hwhole, hvalue]
    | behind digits hfirst hwhole hvalue =>
        rw [extractJsonInt_of_absent hname defaultVal hfirst,
          extractJsonInt_of_firstNumber hname defaultVal hwhole, hvalue]

/-! ## When the first piece is enough -/

/-- Nothing that matters comes behind the first piece: it names the endpoint; a request for a dump has
its container id, its reason if there is one, and its duration there; and of a policy nothing but line
feeds is missing. -/
structure FirstPieceEnough (first request : ByteString) : Prop where
  endpoint_eq : endpoint (parseRequest first) = endpoint (parseRequest request)
  longDump : endpoint (parseRequest request) = .longDumpRequests →
    HasField containerIdKey (parseRequest request).body →
      HasField containerIdKey (parseRequest first).body ∧
      (HasField reasonKey (parseRequest request).body →
        HasField reasonKey (parseRequest first).body) ∧
      SameNumber durationSecKey 1200 (parseRequest first).body (parseRequest request).body
  policy : endpoint (parseRequest request) = .policies →
    HasField containerIdKey (parseRequest request).body →
    HasField policyIdKey (parseRequest request).body →
      (parseRequest first).body = (parseRequest request).body

section Enough

variable {body₁ body₂ : ByteString}

theorem extractJsonString_ne_nil_iff {name : String} {key : FieldKey} {body : ByteString}
    (hname : keyText name = exactly key.bytes) :
    extractJsonString body name ≠ [] ↔ HasField key body := by
  rw [extractJsonString, hname]
  exact stringField_ne_nil_iff

theorem containerId_ne_nil_iff {body : ByteString} :
    extractJsonString body "container_id" ≠ [] ↔ HasField containerIdKey body :=
  extractJsonString_ne_nil_iff rfl

theorem policyId_ne_nil_iff {body : ByteString} :
    extractJsonString body "policy_id" ≠ [] ↔ HasField policyIdKey body :=
  extractJsonString_ne_nil_iff rfl

theorem reason_ne_nil_iff {body : ByteString} :
    extractJsonString body "reason" ≠ [] ↔ HasField reasonKey body :=
  extractJsonString_ne_nil_iff rfl

theorem extractJsonString_of_prefix {name : String} {key : FieldKey}
    (hname : keyText name = exactly key.bytes) (h : body₁ <+: body₂)
    (hfield : HasField key body₁) : extractJsonString body₁ name = extractJsonString body₂ name := by
  rw [extractJsonString, extractJsonString, hname]
  exact stringField_of_prefix h hfield

theorem routeTo_longDump_eq_iff (h : body₁ <+: body₂) :
    routeTo body₁ .longDumpRequests = routeTo body₂ .longDumpRequests ↔
      (HasField containerIdKey body₂ →
        HasField containerIdKey body₁ ∧ (HasField reasonKey body₂ → HasField reasonKey body₁) ∧
        SameNumber durationSecKey 1200 body₁ body₂) := by
  have hkey : keyText "duration_sec" = exactly durationSecKey.bytes := rfl
  rw [← extractJsonInt_eq_iff hkey 1200 h, routeTo, routeTo]
  by_cases h₂ : extractJsonString body₂ "container_id" = []
  · -- the whole request is rejected, and the first piece too
    have hno₂ : ¬ HasField containerIdKey body₂ := fun hf => containerId_ne_nil_iff.2 hf h₂
    have h₁ : extractJsonString body₁ "container_id" = [] := by
      by_contra hne
      exact hno₂ ((containerId_ne_nil_iff.1 hne).mono h)
    rw [if_pos h₁, if_pos h₂]
    exact iff_of_true rfl fun hf => absurd hf hno₂
  · rw [if_neg h₂]
    by_cases h₁ : extractJsonString body₁ "container_id" = []
    · -- the id comes behind the first piece
      rw [if_pos h₁]
      refine iff_of_false nofun fun hf => ?_
      exact containerId_ne_nil_iff.2 (hf (containerId_ne_nil_iff.1 h₂)).1 h₁
    · -- both are accepted with the same id, and the reason and the duration remain
      rw [if_neg h₁, Action.longDump.injEq]
      have hid : extractJsonString body₁ "container_id" = extractJsonString body₂ "container_id" :=
        extractJsonString_of_prefix rfl h (containerId_ne_nil_iff.1 h₁)
      constructor
      · rintro ⟨-, hduration, hreason⟩ -
        refine ⟨containerId_ne_nil_iff.1 h₁, fun hf => ?_, hduration⟩
        rw [← reason_ne_nil_iff, hreason]
        exact reason_ne_nil_iff.2 hf
      · intro hf
        obtain ⟨-, hreason, hduration⟩ := hf (containerId_ne_nil_iff.1 h₂)
        refine ⟨hid, hduration, ?_⟩
        by_cases hr : HasField reasonKey body₁
        · exact extractJsonString_of_prefix rfl h hr
        · -- then it has none at all
          have hr₁ := not_not.1 (mt reason_ne_nil_iff.1 hr)
          have hr₂ := not_not.1 (mt (fun hne => hreason (reason_ne_nil_iff.1 hne)) hr)
          rw [hr₁, hr₂]

theorem routeTo_policies_eq_iff (h : body₁ <+: body₂) :
    routeTo body₁ .policies = routeTo body₂ .policies ↔
      (HasField containerIdKey body₂ → HasField policyIdKey body₂ → body₁ = body₂) := by
  have hids : ∀ body, (extractJsonString body "container_id" = [] ∨
      extractJsonString body "policy_id" = []) ↔
        ¬ (HasField containerIdKey body ∧ HasField policyIdKey body) := by
    intro body
    rw [← containerId_ne_nil_iff, ← policyId_ne_nil_iff]
    tauto
  by_cases h₂ : HasField containerIdKey body₂ ∧ HasField policyIdKey body₂
  · -- the policy carries the whole body
    constructor
    · intro heq _ _
      rw [routeTo, routeTo, if_neg (mt (hids body₂).1 (not_not.2 h₂))] at heq
      split_ifs at heq
      exact (Action.policy.inj heq).2.2.2
    · intro hf
      rw [hf h₂.1 h₂.2]
  · -- neither has both ids, and both are rejected
    have h₁ : ¬ (HasField containerIdKey body₁ ∧ HasField policyIdKey body₁) :=
      fun hf => h₂ ⟨hf.1.mono h, hf.2.mono h⟩
    rw [routeTo, routeTo, if_pos ((hids body₁).2 h₁), if_pos ((hids body₂).2 h₂)]
    exact iff_of_true rfl fun hc hp => absurd ⟨hc, hp⟩ h₂

end Enough

theorem route_eq_iff {first request : ByteString} (h : first <+: request) :
    route (parseRequest first) = route (parseRequest request) ↔ FirstPieceEnough first request := by
  have hbody := body_prefix h
  rw [route_eq, route_eq]
  constructor
  · intro heq
    -- the action tells the endpoint
    have hendpoint : endpoint (parseRequest first) = endpoint (parseRequest request) := by
      rw [← actionEndpoint_routeTo (parseRequest first).body (endpoint (parseRequest first)), heq,
        actionEndpoint_routeTo]
    rw [hendpoint] at heq
    refine ⟨hendpoint, fun hd => ?_, fun hp => ?_⟩
    · rw [hd] at heq
      exact (routeTo_longDump_eq_iff hbody).1 heq
    · rw [hp] at heq
      exact (routeTo_policies_eq_iff hbody).1 heq
  · intro henough
    rw [henough.endpoint_eq]
    cases he : endpoint (parseRequest request) with
    | health => rfl
    | longDumpRequests => exact (routeTo_longDump_eq_iff hbody).2 (henough.longDump he)
    | policies => exact (routeTo_policies_eq_iff hbody).2 (henough.policy he)
    | unknown => rfl

theorem serveClient_cons (policyHandler : HandlerCall → Bool) {first : ByteString} (hne : first ≠ [])
    (hlen : first.length ≤ 8191) (pieces : List ByteString) :
    serveClient policyHandler (first :: pieces) =
      (handlerCall (route (parseRequest first)),
        some (responseText (((handlerCall (route (parseRequest first))).map policyHandler).getD true)
          (route (parseRequest first)))) := by
  have htake : received first = first := List.take_of_length_le hlen
  rw [serveClient, List.headD_cons]
  simp only [if_neg hne, handleClient, htake]

/-- A request that arrives in pieces is handled like the whole request exactly when nothing that
matters comes behind the first piece. -/
theorem split_request_iff (request : ByteString) (hlen : request.length ≤ 8191)
    (pieces : List ByteString) (hpieces : ∀ piece ∈ pieces, piece ≠ [])
    (hrequest : pieces.flatten = request) :
    (∀ policyHandler, serveClient policyHandler pieces = serveClient policyHandler [request]) ↔
      FirstPieceEnough (pieces.headD []) request := by
  cases pieces with
  | nil =>
      -- the connection is closed without a request
      subst hrequest
      exact iff_of_true (fun _ => rfl) ((route_eq_iff (List.prefix_refl _)).1 rfl)
  | cons first pieces =>
      have hfirst := hpieces first List.mem_cons_self
      have hfront : first <+: request := ⟨pieces.flatten, hrequest⟩
      have hne : request ≠ [] := fun hnil => hfirst (List.prefix_nil.1 (hnil ▸ hfront))
      rw [List.headD_cons, ← route_eq_iff hfront]
      constructor
      · intro hserve
        have hsame := hserve fun _ => true
        rw [serveClient_cons _ hfirst (hfront.length_le.trans hlen), serveClient_cons _ hne hlen,
          Prod.mk.injEq, Option.some.injEq] at hsame
        obtain ⟨hcall, hresponse⟩ := hsame
        rw [route_eq, route_eq] at hcall hresponse ⊢
        refine routeTo_eq_of_call hcall fun hnone => ?_
        rw [← hcall, hnone] at hresponse
        exact hresponse
      · intro hsame policyHandler
        rw [serveClient_cons _ hfirst (hfront.length_le.trans hlen), serveClient_cons _ hne hlen, hsame]

/-- The header of a request for a dump. -/
def dumpRequestHead : ByteString :=
  ascii "POST /long-dump-requests HTTP/1.1\r\nContent-Length: 22\r\n\r\n"

/-- Its body. -/
def dumpRequestBody : ByteString := ascii "\x7b\"container_id\":\"web\"\x7d"

/-- The header of a request and its body in two pieces: the server answers that the container id is
missing, and no dump is made. -/
theorem split_dump_request_rejected :
    (dumpRequestHead ++ dumpRequestBody).length ≤ 8191 ∧
      [dumpRequestHead, dumpRequestBody].flatten = dumpRequestHead ++ dumpRequestBody ∧
      dumpRequestHead ≠ [] ∧ dumpRequestBody ≠ [] ∧
      ¬ ∀ policyHandler, serveClient policyHandler [dumpRequestHead, dumpRequestBody] =
        serveClient policyHandler [dumpRequestHead ++ dumpRequestBody] := by
  refine ⟨by decide, by decide, by decide, by decide, fun h => ?_⟩
  have hsplit : (serveClient (fun _ => true) [dumpRequestHead, dumpRequestBody]).1 = none := by decide
  have hwhole : (serveClient (fun _ => true) [dumpRequestHead ++ dumpRequestBody]).1 =
      some (.longDump (ascii "web") 1200 []) := by decide
  rw [h, hwhole] at hsplit
  cases hsplit

/-- A request for a dump up to the brace that closes its body. -/
def requestToBrace : ByteString :=
  ascii "POST /long-dump-requests HTTP/1.1\r\nContent-Length: 60\r\n\r\n" ++
    ascii "\x7b\"container_id\":\"web\",\"duration_sec\":60,\"reason\":\"training\""

/-- The request is cut in front of the brace: the dump is made as it was asked for. -/
theorem split_dump_request_handled :
    (requestToBrace ++ [125]).length ≤ 8191 ∧
      (serveClient (fun _ => true) [requestToBrace, [125]]).1 =
        some (.longDump (ascii "web") 60 (ascii "training")) ∧
      ∀ policyHandler, serveClient policyHandler [requestToBrace, [125]] =
        serveClient policyHandler [requestToBrace ++ [125]] := by
  refine ⟨by decide +kernel, by decide +kernel,
    (split_request_iff (requestToBrace ++ [125]) (by decide +kernel) [requestToBrace, [125]]
      (by decide +kernel) (by decide +kernel)).2 ?_⟩
  have hpost : endpoint (parseRequest (requestToBrace ++ [125])) = .longDumpRequests := by
    decide +kernel
  refine ⟨by decide +kernel, fun _ _ => ⟨?_, fun _ => ?_, ?_⟩, fun hpolicies => ?_⟩
  · exact containerId_ne_nil_iff.1 (by decide +kernel)
  · exact reason_ne_nil_iff.1 (by decide +kernel)
  · -- the digits of the duration are complete in the first piece
    exact .complete (ascii "60") (searchGroup_intField_iff.1 (by decide +kernel))
      (searchGroup_intField_iff.1 (by decide +kernel))
  · rw [hpost] at hpolicies
    cases hpolicies

end DeepKernel.System
