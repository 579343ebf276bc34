import DeepKernel.System.SplitRequests

/-!
# How much of a policy has to arrive

The body of a policy is a `HashMap` that is written without white space. Its order is fixed by the
hash codes of the four keys: the ids and the type come before the specification, and the id of the
container last of the three (`policyJson_eq`). The agent therefore takes the policy from the bytes of
its first `recv` exactly if these reach the mark behind that id (`handleClient_of_needed_le`,
`handleClient_of_lt_needed`), whatever the specification is and however the body is framed.
-/

set_option autoImplicit false

namespace DeepKernel.System

open DeepKernel.Lib DeepKernel.Agent

open DeepKernel.Server (Platform PolicyCommand)

/-! ## The order of a `HashMap` -/

/-- `String.hashCode` of an ASCII text. -/
def hashCode (s : String) : UInt32 :=
  s.toList.foldl (fun h ch => 31 * h + UInt32.ofNat ch.toNat) 0

/-- The bucket of a key in a table with 16 buckets. -/
def bucket (key : String) : UInt32 :=
  (hashCode key ^^^ (hashCode key >>> 16)) &&& 15

/-- The entries of a `HashMap` with at most 12 different keys, in the order of the iteration: that of
the buckets, and in a bucket that of the insertion. -/
def hashMapOrder {V : Type} (entries : List (String × V)) : List (String × V) :=
  (List.range 16).flatMap fun b =>
    entries.filter fun e => decide ((bucket e.1).toNat = b)

/-- An object without white space, from the texts of its values. -/
def compactObject (entries : List (String × ByteString)) : ByteString :=
  123 :: (List.intercalate [44]
    (entries.map fun e => 34 :: (ascii e.1 ++ 34 :: 58 :: e.2)) ++ [125])

/-- The JSON text of a string. -/
def quoted (s : String) : ByteString := 34 :: (escape (utf8Text s) ++ [34])

/-- The body of `applyPolicy`, with the entries in the order of their insertion. -/
def policyJson {R : Type} (p : Platform R) (command : PolicyCommand R) : ByteString :=
  compactObject (hashMapOrder
    [("container_id", quoted command.containerId), ("policy_id", quoted command.policyId),
      ("type", quoted (typeName command.type)), ("spec", utf8Text (p.toJson command.spec))])

/-- The body up to the mark behind the id of the container, without that mark. -/
def openHead (containerId policyId policyType : String) : ByteString :=
  ascii "\x7b\"policy_id\":" ++ (quoted policyId ++ (ascii ",\"type\":" ++ (quoted policyType ++
    (ascii ",\"container_id\":" ++ 34 :: escape (utf8Text containerId)))))

/-- What stands behind that mark. -/
def specTail {R : Type} (p : Platform R) (command : PolicyCommand R) : ByteString :=
  ascii ",\"spec\":" ++ (utf8Text (p.toJson command.spec) ++ [125])

theorem hashMapOrder_policy {V : Type} (containerId policyId policyType spec : V) :
    hashMapOrder [("container_id", containerId), ("policy_id", policyId), ("type", policyType),
        ("spec", spec)] =
      [("policy_id", policyId), ("type", policyType), ("container_id", containerId),
        ("spec", spec)] := by
  have hcontainer : (bucket "container_id").toNat = 14 := by decide +kernel
  have hpolicy : (bucket "policy_id").toNat = 4 := by decide +kernel
  have htype : (bucket "type").toNat = 12 := by decide +kernel
  have hspec : (bucket "spec").toNat = 14 := by decide +kernel
  simp [hashMapOrder, List.range_succ, List.filter_cons, hcontainer, hpolicy, htype, hspec]

/-- The three fields that the agent looks for stand before the specification. -/
theorem policyJson_eq {R : Type} (p : Platform R) (command : PolicyCommand R) :
    policyJson p command =
      openHead command.containerId command.policyId (typeName command.type) ++
        34 :: specTail p command := by
  rw [policyJson, hashMapOrder_policy, compactObject, openHead, specTail]
  simp [List.intercalate, List.intersperse, quoted, ascii]

/-! ## Fields of a beginning of the body -/

/-- A field of the body, with what follows it. -/
def fieldText (key : FieldKey) (value : String) (after : ByteString) : ByteString :=
  34 :: (key.bytes ++ 34 :: ([] ++ 58 :: ([] ++ 34 :: (escape (utf8Text value) ++ 34 :: after))))

/-- The field with the id of the container, which has not been closed. -/
def openField (containerId : String) : ByteString :=
  34 :: (containerIdKey.bytes ++ 34 :: 58 :: 34 :: escape (utf8Text containerId))

theorem openHead_eq (containerId policyId policyType : String) :
    openHead containerId policyId policyType =
      [123] ++ fieldText policyIdKey policyId ([44] ++ fieldText typeKey policyType
        ([44] ++ openField containerId)) := by
  simp [openHead, fieldText, openField, quoted, ascii, policyIdKey, typeKey, containerIdKey]

theorem openHead_append (containerId policyId policyType : String) (more : ByteString) :
    openHead containerId policyId policyType ++ 34 :: more =
      [123] ++ fieldText policyIdKey policyId ([44] ++ fieldText typeKey policyType
        ([44] ++ fieldText containerIdKey containerId more)) := by
  simp [openHead_eq, fieldText, openField]

section Fields

variable {key : FieldKey} {ps : Pattern UInt8} {containerId policyId policyType : String}
  {framing : ByteString}

theorem endsValue_comma (rest : ByteString) : EndsValue ([44] ++ rest) :=
  ⟨[], 44, rest, rfl, by simp, .inl rfl⟩

/-- A field with another key. -/
theorem search_skip_field {other : FieldKey} (hne : other.bytes ≠ key.bytes) (value : String)
    (rest : ByteString) :
    search (keyPattern (exactly key.bytes) ++ ps) (fieldText other value ([44] ++ rest)) =
      search (keyPattern (exactly key.bytes) ++ ps) rest := by
  have hcomma : 34 ∉ ([44] : ByteString) := by decide
  rw [fieldText, search_skip_key hne (by simp)]
  exact (search_skip_string (endsValue_comma rest) _).trans (search_skip_plain hcomma rest)

/-- The field with the key is found. -/
theorem stringField_fieldText {value : String} (hplain : Plain value) (hne : value ≠ "")
    (after : ByteString) :
    stringField (fieldText key value after) (exactly key.bytes) = utf8Text value := by
  have hmark : 34 ∉ utf8Text value := fun hmem => (plain_of_mem_utf8Text hplain hmem).1 rfl
  have hmatch : matchHere (stringFieldPattern (exactly key.bytes)) (fieldText key value after) =
      some [utf8Text value] := by
    rw [fieldText, escape_utf8Text hplain]
    exact match_stringField (by simp) (by simp) (utf8Text_ne_nil hne) hmark
  rw [stringField, searchGroup, search_of_match hmatch]
  rfl

/-- The search for the id of the container goes through the two other fields. -/
theorem stringField_containerId_skip (hframing : 34 ∉ framing) (rest : ByteString) :
    stringField (framing ++ ([123] ++ fieldText policyIdKey policyId ([44] ++
        fieldText typeKey policyType ([44] ++ rest)))) (exactly containerIdKey.bytes) =
      stringField rest (exactly containerIdKey.bytes) := by
  have hbrace : 34 ∉ ([123] : ByteString) := by decide
  rw [stringField, stringField, searchGroup, searchGroup, stringFieldPattern_eq,
    search_skip_plain hframing, search_skip_plain hbrace, search_skip_field (by decide),
    search_skip_field (by decide)]

/-- Before the mark behind it, the id of the container is not found. -/
theorem not_hasField_openHead (hcontainer : Plain containerId) (hframing : 34 ∉ framing) :
    ¬ HasField containerIdKey (framing ++ openHead containerId policyId policyType) := by
  have hmark : 34 ∉ escape (utf8Text containerId) :=
    mark_not_mem_escape fun hmem => (plain_of_mem_utf8Text hcontainer hmem).1 rfl
  rw [← stringField_ne_nil_iff, not_not, openHead_eq, stringField_containerId_skip hframing]
  cases hsearch : search (stringFieldPattern (exactly containerIdKey.bytes))
      (openField containerId) with
  | none =>
      rw [stringField, searchGroup, hsearch]
      rfl
  | some groups =>
      -- a field has four marks, and three of them are there
      have hfour := count_mark_of_search hsearch
      have hkey : (containerIdKey.bytes).count 34 = 0 := by decide
      have hthree : (openField containerId).count 34 = 3 := by
        simp [openField, hkey, List.count_eq_zero_of_not_mem hmark]
      omega

/-- From that mark on, the three fields are found. -/
theorem policyFields_append (hframing : 34 ∉ framing) (hcontainer : Plain containerId)
    (hcontainerNe : containerId ≠ "") (hpolicy : Plain policyId) (hpolicyNe : policyId ≠ "")
    (htype : Plain policyType) (htypeNe : policyType ≠ "") (more : ByteString) :
    policyFields (framing ++ (openHead containerId policyId policyType ++ 34 :: more)) =
      (utf8Text containerId, utf8Text policyId, utf8Text policyType) := by
  have hbrace : 34 ∉ ([123] : ByteString) := by decide
  have hcontainerField : stringField (framing ++ (openHead containerId policyId policyType ++
      34 :: more)) (exactly containerIdKey.bytes) = utf8Text containerId := by
    rw [openHead_append, stringField_containerId_skip hframing]
    exact stringField_fieldText hcontainer hcontainerNe more
  have hpolicyField : stringField (framing ++ (openHead containerId policyId policyType ++
      34 :: more)) (exactly policyIdKey.bytes) = utf8Text policyId := by
    rw [openHead_append, ← stringField_fieldText hpolicy hpolicyNe, stringField, stringField,
      searchGroup, searchGroup, stringFieldPattern_eq, search_skip_plain hframing,
      search_skip_plain hbrace]
  have htypeField : stringField (framing ++ (openHead containerId policyId policyType ++
      34 :: more)) (exactly typeKey.bytes) = utf8Text policyType := by
    rw [openHead_append, ← stringField_fieldText htype htypeNe, stringField, stringField,
      searchGroup, searchGroup, stringFieldPattern_eq, search_skip_plain hframing,
      search_skip_plain hbrace, search_skip_field (by decide)]
  rw [policyFields]
  exact Prod.ext hcontainerField (Prod.ext hpolicyField htypeField)

end Fields

/-! ## The first piece of a request -/

/-- How a policy is put on the connection: the header lines, and what stands around the body, which
is nothing or the sizes of chunks. -/
structure Transport where
  headers : List ByteString
  framing : ByteString
  trailer : ByteString
  isHeaderLine_of_mem : ∀ h ∈ headers, isHeaderLine h = true ∧ 10 ∉ h
  mark_not_mem : 34 ∉ framing

/-- The request for a policy. -/
def Transport.request {R : Type} (t : Transport) (p : Platform R) (command : PolicyCommand R) :
    ByteString :=
  policyRequest t.headers (t.framing ++ (policyJson p command ++ t.trailer))

/-- The number of bytes up to the mark behind the id of the container. -/
def Transport.needed (t : Transport) (containerId policyId policyType : String) : Nat :=
  (policyRequest t.headers (t.framing ++ openHead containerId policyId policyType)).length + 1

theorem policyRequest_append (headers : List ByteString) (body more : ByteString) :
    policyRequest headers body ++ more = policyRequest headers (body ++ more) := by
  simp [policyRequest]

theorem feed_not_mem_openHead (containerId policyId policyType : String) :
    10 ∉ openHead containerId policyId policyType := by
  have hquoted : ∀ s, 10 ∉ quoted s := fun s => feed_not_mem_json (.text (utf8Text s))
  have hopen : 10 ∉ 34 :: escape (utf8Text containerId) := fun hmem =>
    hquoted containerId (List.mem_append_left [34] hmem)
  have hfirst : 10 ∉ ascii "\x7b\"policy_id\":" := by decide
  have hsecond : 10 ∉ ascii ",\"type\":" := by decide
  have hthird : 10 ∉ ascii ",\"container_id\":" := by decide
  simp only [openHead, List.mem_append, not_or]
  exact ⟨hfirst, hquoted _, hsecond, hquoted _, hthird, hopen⟩

/-- Every accepted policy has the id of a container. -/
theorem hasField_of_policy {req : HttpRequest} {containerId policyId policyType spec : ByteString}
    (h : route req = .policy containerId policyId policyType spec) :
    HasField containerIdKey req.body := by
  rw [route_eq] at h
  cases hendpoint : endpoint req with
  | policies =>
      rw [hendpoint, routeTo] at h
      split_ifs at h with hids
      exact containerId_ne_nil_iff.1 (not_or.1 hids).1
  | health =>
      rw [hendpoint] at h
      cases h
  | longDumpRequests =>
      rw [hendpoint, routeTo] at h
      split_ifs at h
  | unknown =>
      rw [hendpoint] at h
      cases h

section Piece

variable {R : Type} {p : Platform R} {command : PolicyCommand R} (t : Transport)

theorem request_eq :
    t.request p command =
      policyRequest t.headers
          (t.framing ++ openHead command.containerId command.policyId (typeName command.type)) ++
        34 :: (specTail p command ++ t.trailer) := by
  rw [Transport.request, policyJson_eq, policyRequest_append]
  simp

theorem received_take (bytes : ByteString) (n : Nat) :
    received (bytes.take n) = bytes.take (min n 8191) := by
  rw [received, List.take_take, Nat.min_comm]

/-- A piece that goes beyond the id of the container is the policy. -/
theorem handleClient_of_needed_le (hcontainer : Plain command.containerId)
    (hcontainerNe : command.containerId ≠ "") (hpolicy : Plain command.policyId)
    (hpolicyNe : command.policyId ≠ "") {n : Nat}
    (hn : t.needed command.containerId command.policyId (typeName command.type) ≤ min n 8191) :
    ∃ specJson, handleClient ((t.request p command).take n) =
      .policy (utf8Text command.containerId) (utf8Text command.policyId)
        (utf8Text (typeName command.type)) specJson := by
  have htype : Plain (typeName command.type) ∧ typeName command.type ≠ "" := by
    cases command.type <;> exact ⟨by decide +kernel, by decide⟩
  -- what the agent has read, up to the mark and behind it
  obtain ⟨k, hk⟩ := Nat.exists_eq_add_of_le hn
  obtain ⟨more, hmore⟩ : ∃ more, (t.request p command).take (min n 8191) =
      policyRequest t.headers (t.framing ++ (openHead command.containerId command.policyId
        (typeName command.type) ++ 34 :: more)) := by
    refine ⟨(specTail p command ++ t.trailer).take k, ?_⟩
    have hlen : ∀ a : Nat, a + 1 + k - a = k + 1 := by omega
    rw [request_eq, hk, Transport.needed, List.take_append, List.take_of_length_le (by omega), hlen,
      List.take_succ_cons, policyRequest_append, List.append_assoc]
  have hmark : 34 ∉ t.framing.filter (· != 10) :=
    fun hmem => t.mark_not_mem (List.mem_of_mem_filter hmem)
  have hfields := policyFields_append hmark hcontainer hcontainerNe hpolicy hpolicyNe htype.1
    htype.2 (more.filter (· != 10))
  have hbody : (t.framing ++ (openHead command.containerId command.policyId
      (typeName command.type) ++ 34 :: more)).filter (· != 10) =
        t.framing.filter (· != 10) ++ (openHead command.containerId command.policyId
          (typeName command.type) ++ 34 :: more.filter (· != 10)) := by
    rw [List.filter_append, List.filter_append, filter_feeds_eq (feed_not_mem_openHead _ _ _)]
    rfl
  rw [handleClient, received_take, hmore, parseRequest_policyRequest t.isHeaderLine_of_mem, hbody]
  exact ⟨_, route_policy hfields (utf8Text_ne_nil hcontainerNe) (utf8Text_ne_nil hpolicyNe)⟩

/-- A piece that ends before it is not a policy. -/
theorem handleClient_of_lt_needed (hcontainer : Plain command.containerId) {n : Nat}
    (hn : min n 8191 < t.needed command.containerId command.policyId (typeName command.type))
    (c i ty spec : ByteString) :
    handleClient ((t.request p command).take n) ≠ .policy c i ty spec := by
  intro h
  rw [handleClient, received_take] at h
  have hfield := hasField_of_policy h
  have hfirst : (t.request p command).take (min n 8191) <+: policyRequest t.headers
      (t.framing ++ openHead command.containerId command.policyId (typeName command.type)) := by
    rw [request_eq, List.take_append_of_le_length (Nat.le_of_lt_succ hn)]
    exact List.take_prefix _ _
  have hprefix := body_prefix hfirst
  rw [parseRequest_policyRequest t.isHeaderLine_of_mem, List.filter_append,
    filter_feeds_eq (feed_not_mem_openHead _ _ _)] at hprefix
  exact not_hasField_openHead hcontainer
    (fun hmem => t.mark_not_mem (List.mem_of_mem_filter hmem)) (hfield.mono hprefix)

end Piece

end DeepKernel.System
