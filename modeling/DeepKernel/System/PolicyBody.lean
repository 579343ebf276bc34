import DeepKernel.Server.Ingest
import DeepKernel.System.DumpCommand

/-!
# A policy on its way to the agent

`HttpAgentAdapter.applyPolicy` sends the ids, the type and the specification of a policy, which may be
a tree that a language model wrote. The agent searches the first three in the text of the whole body.
Written in front of the specification, they are found whatever it contains
(`extract_policyFields`): a match cannot begin inside one of the three strings, and what stands behind
them is not looked at.
-/

set_option autoImplicit false

namespace DeepKernel.System

open DeepKernel.Lib DeepKernel.Agent

open DeepKernel.Server (Platform Policy PolicyType policyCommand JsonNode)

/-! ## Texts -/

/-- The bytes of a string. -/
def utf8Text (s : String) : ByteString := s.toList.flatMap fun ch => utf8 ch.toNat

/-- A string without quotation marks, backslashes and control characters. -/
def Plain (s : String) : Prop := ∀ ch ∈ s.toList, ch ≠ '"' ∧ ch ≠ '\\' ∧ 32 ≤ ch.toNat

instance (s : String) : Decidable (Plain s) :=
  decidable_of_iff
    (s.toList.all fun ch => decide (ch ≠ '"' ∧ ch ≠ '\\' ∧ 32 ≤ ch.toNat)) List.all_iff_forall_prop

theorem utf8_ne_nil (n : Nat) : utf8 n ≠ [] := by
  rw [utf8]
  split_ifs
  all_goals exact List.cons_ne_nil _ _

/-- The bytes of a character above ASCII are above ASCII. -/
theorem le_toNat_of_mem_utf8 {n : Nat} (hn : n < 0x110000) {b : UInt8} (h : b ∈ utf8 n)
    (hlow : 0x80 ≤ n) : 0x80 ≤ b.toNat := by
  rw [utf8, if_neg (by omega)] at h
  split_ifs at h
  all_goals
    simp only [List.mem_cons, List.not_mem_nil, or_false] at h
    rcases h with rfl | h
    · rw [UInt8.toNat_ofNat']
      omega
  · rw [h, UInt8.toNat_ofNat']
    omega
  · rcases h with rfl | rfl
    all_goals
      rw [UInt8.toNat_ofNat']
      omega
  · rcases h with rfl | rfl | rfl
    all_goals
      rw [UInt8.toNat_ofNat']
      omega

theorem plain_of_mem_utf8Text {s : String} (h : Plain s) {b : UInt8} (hb : b ∈ utf8Text s) :
    b ≠ 34 ∧ b ≠ 92 ∧ 32 ≤ b.toNat := by
  obtain ⟨ch, hch, hb⟩ := List.mem_flatMap.1 hb
  obtain ⟨hmark, hslash, hcontrol⟩ := h ch hch
  have hne : ∀ c : UInt8, b.toNat ≠ c.toNat → b ≠ c := fun c hc heq => hc (heq ▸ rfl)
  by_cases hlow : ch.toNat < 0x80
  · -- the byte is the character
    rw [utf8, if_pos hlow, List.mem_singleton] at hb
    have hval : b.toNat = ch.toNat := by
      rw [hb, UInt8.toNat_ofNat']
      omega
    have hch : ∀ d : Char, ch ≠ d → ch.toNat ≠ d.toNat := fun d hd heq => hd (Char.toNat_inj.1 heq)
    refine ⟨hne 34 ?_, hne 92 ?_, hval ▸ hcontrol⟩
    · exact hval ▸ hch _ hmark
    · exact hval ▸ hch _ hslash
  · -- all bytes of a longer character are above 127
    have hrange : ch.toNat < 0x110000 := by
      rcases ch.valid with h | h
      · exact lt_trans h (by decide)
      · exact h.2
    have hhigh := le_toNat_of_mem_utf8 hrange hb (by omega)
    refine ⟨hne 34 ?_, hne 92 ?_, by omega⟩
    · exact fun heq => absurd (heq ▸ hhigh) (by decide)
    · exact fun heq => absurd (heq ▸ hhigh) (by decide)

/-- Nothing of a plain text is escaped. -/
theorem escape_utf8Text {s : String} (h : Plain s) : escape (utf8Text s) = utf8Text s := by
  have hbyte : ∀ b : UInt8, b ≠ 34 ∧ b ≠ 92 ∧ 32 ≤ b.toNat → escapeByte b = [b] :=
    forall_byte (p := fun b => b ≠ 34 ∧ b ≠ 92 ∧ 32 ≤ b.toNat → escapeByte b = [b])
      (by decide +kernel)
  have hall : ∀ b ∈ utf8Text s, escapeByte b = [b] := fun b hb => hbyte b (plain_of_mem_utf8Text h hb)
  generalize utf8Text s = text at hall
  induction text with
  | nil => rfl
  | cons b text ih =>
      have hcons : escape (b :: text) = escapeByte b ++ escape text := List.flatMap_cons
      rw [hcons, hall b List.mem_cons_self, ih fun c hc => hall c (List.mem_cons_of_mem _ hc)]
      rfl

theorem utf8Text_ne_nil {s : String} (h : s ≠ "") : utf8Text s ≠ [] := by
  intro hnil
  cases hs : s.toList with
  | nil => exact h (String.toList_eq_nil_iff.1 hs)
  | cons ch chars =>
      rw [utf8Text, hs, List.flatMap_cons, List.append_eq_nil_iff] at hnil
      exact utf8_ne_nil _ hnil.1

/-! ## The body of the request -/

@[inherit_doc containerIdKey]
def policyIdKey : FieldKey where
  bytes := ascii "policy_id"
  bytes_ne_nil := by decide
  isKeyByte_of_mem := List.all_iff_forall_prop.mp (by decide)

@[inherit_doc containerIdKey]
def typeKey : FieldKey where
  bytes := ascii "type"
  bytes_ne_nil := by decide
  isKeyByte_of_mem := List.all_iff_forall_prop.mp (by decide)

/-- `policy.type().name()`. -/
def typeName : PolicyType → String
  | .seccomp => "SECCOMP"
  | .apparmor => "APPARMOR"
  | .networkPolicy => "NETWORK_POLICY"

/-- The map of `applyPolicy` without the specification. -/
def policyEntries (containerId policyId policyType : String) : List (FieldKey × BodyValue) :=
  [(containerIdKey, .text (utf8Text containerId)), (policyIdKey, .text (utf8Text policyId)),
    (typeKey, .text (utf8Text policyType))]

/-- One way of writing the map with the specification behind the other entries, and what is written
around its key and its text. -/
structure PolicyBody (entries : List (FieldKey × BodyValue)) extends DumpBody entries where
  beforeSpecKey : ByteString
  afterSpecKey : ByteString
  beforeSpec : ByteString
  afterSpec : ByteString

/-- The text of the body. -/
def PolicyBody.json {entries : List (FieldKey × BodyValue)} (body : PolicyBody entries)
    (spec : ByteString) : ByteString :=
  body.text (44 :: (body.beforeSpecKey ++ (ascii "\"spec\"" ++ (body.afterSpecKey ++
    58 :: (body.beforeSpec ++ (spec ++ (body.afterSpec ++ 125 :: body.trail)))))))

/-- The request as it arrives at the agent. -/
def policyRequest (headers : List ByteString) (body : ByteString) : ByteString :=
  ascii "POST /policies HTTP/1.1\r" ++
    10 :: (headers.flatMap (fun h => h ++ [10]) ++ 13 :: 10 :: body)

/-- The three searches of `handleClient` for a policy. -/
def policyFields (json : ByteString) : ByteString × ByteString × ByteString :=
  (extractJsonString json "container_id", extractJsonString json "policy_id",
    extractJsonString json "type")

/-! ## What the agent takes from it -/

section Body

variable {containerId policyId policyType : String}
  (body : PolicyBody (policyEntries containerId policyId policyType)) (spec : ByteString)

theorem nodup_policyKeys :
    ((policyEntries containerId policyId policyType).map fun e => e.1.bytes).Nodup :=
  (by decide : [ascii "container_id", ascii "policy_id", ascii "type"].Nodup)

/-- The text of an entry is found, and nothing in it was escaped. -/
theorem extract_policyEntry {key : FieldKey} {name : String}
    (hname : keyText name = exactly key.bytes) {value : String}
    (h : (key, .text (utf8Text value)) ∈ policyEntries containerId policyId policyType)
    (hplain : Plain value) (hne : value ≠ "") :
    extractJsonString ((body.json spec).filter (· != 10)) name = utf8Text value := by
  have hmark : 34 ∉ utf8Text value := fun hmem => (plain_of_mem_utf8Text hplain hmem).1 rfl
  have hcomma : ∀ rest : ByteString, EndsValue ((44 :: rest).filter (· != 10)) :=
    fun rest => ⟨[], 44, rest.filter (· != 10), rfl, by simp, .inl rfl⟩
  rw [extractJsonString, hname, PolicyBody.json, filter_text,
    stringField_receivedText _ nodup_policyKeys (hcomma _) h (utf8Text_ne_nil hne) hmark,
    escape_utf8Text hplain]

theorem extract_policyFields (hcontainer : Plain containerId) (hcontainerNe : containerId ≠ "")
    (hpolicy : Plain policyId) (hpolicyNe : policyId ≠ "") (htype : Plain policyType)
    (htypeNe : policyType ≠ "") :
    policyFields ((body.json spec).filter (· != 10)) =
      (utf8Text containerId, utf8Text policyId, utf8Text policyType) := by
  have hcontainerId := extract_policyEntry body spec
    (rfl : keyText "container_id" = exactly containerIdKey.bytes) List.mem_cons_self hcontainer
    hcontainerNe
  have hpolicyId := extract_policyEntry body spec
    (rfl : keyText "policy_id" = exactly policyIdKey.bytes)
    (List.mem_cons_of_mem _ List.mem_cons_self) hpolicy hpolicyNe
  have hpolicyType := extract_policyEntry body spec
    (rfl : keyText "type" = exactly typeKey.bytes)
    (List.mem_cons_of_mem _ (List.mem_cons_of_mem _ List.mem_cons_self)) htype htypeNe
  rw [policyFields, hcontainerId, hpolicyId, hpolicyType]

end Body

theorem parseRequest_policyRequest {headers : List ByteString}
    (hheaders : ∀ h ∈ headers, isHeaderLine h = true ∧ 10 ∉ h) (body : ByteString) :
    parseRequest (policyRequest headers body) =
      ⟨ascii "POST", ascii "/policies", body.filter (· != 10)⟩ := by
  have hline : 10 ∉ ascii "POST /policies HTTP/1.1\r" := by decide
  have hwords : streamWords (ascii "POST /policies HTTP/1.1\r") =
      [ascii "POST", ascii "/policies", ascii "HTTP/1.1"] := by decide +kernel
  rw [policyRequest, parseRequest_eq hline hheaders, hwords]
  rfl

/-- Routing of a policy with both ids. -/
theorem route_policy {body containerId policyId policyType : ByteString}
    (h : policyFields body = (containerId, policyId, policyType)) (hcontainer : containerId ≠ [])
    (hpolicy : policyId ≠ []) :
    route ⟨ascii "POST", ascii "/policies", body⟩ =
      .policy containerId policyId policyType body := by
  have hget : ¬ (ascii "POST" = ascii "GET" ∧ ascii "/policies" = ascii "/health") := by decide
  have hdump : ¬ (ascii "POST" = ascii "POST" ∧ ascii "/policies" = ascii "/long-dump-requests") := by
    decide
  obtain ⟨rfl, hrest⟩ := Prod.mk.inj h
  obtain ⟨rfl, rfl⟩ := Prod.mk.inj hrest
  rw [route, if_neg hget, if_neg hdump, if_pos ⟨rfl, rfl⟩]
  exact if_neg (not_or.2 ⟨hcontainer, hpolicy⟩)

/-! ## The specification cannot redirect the policy -/

section Command

variable {R : Type}

theorem ne_empty_of_not_blank {p : Platform R} {s : String} (h : p.isBlank s = false) : s ≠ "" := by
  rintro rfl
  cases h

/-- Ids that are not blank are sent as they are. -/
theorem policyCommand_ids {p : Platform R} {containerId : String} {policy : Policy R}
    (hcontainer : p.isBlank containerId = false) (hpolicy : p.isBlank policy.id = false)
    (uuid : String) :
    (policyCommand p containerId policy uuid).containerId = containerId ∧
      (policyCommand p containerId policy uuid).policyId = policy.id := by
  simp only [policyCommand, hcontainer, hpolicy, Bool.false_eq_true, if_false, and_self]

/-- A call of `applyPolicy` with a specification: the id that is drawn in case that of the policy is
blank, one way of writing the body, and the header lines of the request. -/
structure PolicyCall (p : Platform R) (containerId policyType : String) (policy : Policy R) where
  uuid : String
  spec : JsonNode R
  body : PolicyBody (policyEntries
    (policyCommand p containerId { policy with spec := spec } uuid).containerId
    (policyCommand p containerId { policy with spec := spec } uuid).policyId policyType)
  headers : List ByteString
  headers_ok : ∀ h ∈ headers, isHeaderLine h = true ∧ 10 ∉ h

/-- The request of the call, with the text of its specification. -/
def PolicyCall.request {p : Platform R} {containerId policyType : String} {policy : Policy R}
    (call : PolicyCall p containerId policyType policy) : ByteString :=
  policyRequest call.headers (call.body.json (utf8Text (p.toJson call.spec)))

theorem PolicyCall.fields {p : Platform R} {containerId policyType : String} {policy : Policy R}
    (hcontainer : Plain containerId) (hcontainerBlank : p.isBlank containerId = false)
    (hpolicy : Plain policy.id) (hpolicyBlank : p.isBlank policy.id = false)
    (htype : Plain policyType) (htypeNe : policyType ≠ "")
    (call : PolicyCall p containerId policyType policy) :
    policyFields (parseRequest call.request).body =
      (utf8Text containerId, utf8Text policy.id, utf8Text policyType) := by
  obtain ⟨uuid, spec, body, headers, hheaders⟩ := call
  have hsent : p.isBlank ({ policy with spec := spec } : Policy R).id = false := hpolicyBlank
  obtain ⟨hid, hpid⟩ := policyCommand_ids hcontainerBlank hsent uuid
  have hfields := extract_policyFields body (utf8Text (p.toJson spec)) (by rwa [hid])
    (by rw [hid]; exact ne_empty_of_not_blank hcontainerBlank) (by rwa [hpid])
    (by rw [hpid]; exact ne_empty_of_not_blank hpolicyBlank) htype htypeNe
  rw [PolicyCall.request, parseRequest_policyRequest hheaders, hfields, hid, hpid]

/-- For every specification and every way of printing it, the agent takes the ids and the type of the
call out of the body. So the calls with two specifications are taken for the same policy of the same
container. -/
theorem spec_cannot_redirect_policy (p : Platform R) (containerId policyType : String)
    (policy : Policy R) (hcontainer : Plain containerId)
    (hcontainerBlank : p.isBlank containerId = false) (hpolicy : Plain policy.id)
    (hpolicyBlank : p.isBlank policy.id = false) (htype : Plain policyType)
    (htypeNe : policyType ≠ "") :
    (∀ call : PolicyCall p containerId policyType policy,
      policyFields (parseRequest call.request).body =
        (utf8Text containerId, utf8Text policy.id, utf8Text policyType)) ∧
    (∀ call : PolicyCall p containerId policyType policy, call.request.length ≤ 8191 →
      ∃ specJson, handleClient call.request =
        .policy (utf8Text containerId) (utf8Text policy.id) (utf8Text policyType) specJson) ∧
    (∀ call call' : PolicyCall p containerId policyType policy,
      policyFields (parseRequest call.request).body =
        policyFields (parseRequest call'.request).body) := by
  -- the three entries stand before the specification, so a search finds them first
  have hfields : ∀ call : PolicyCall p containerId policyType policy,
      policyFields (parseRequest call.request).body =
        (utf8Text containerId, utf8Text policy.id, utf8Text policyType) :=
    PolicyCall.fields hcontainer hcontainerBlank hpolicy hpolicyBlank htype htypeNe
  refine ⟨hfields, fun call hlen => ⟨(parseRequest call.request).body, ?_⟩, fun call call' => ?_⟩
  · have hparse : parseRequest call.request =
        ⟨ascii "POST", ascii "/policies", (parseRequest call.request).body⟩ := by
      rw [PolicyCall.request, parseRequest_policyRequest call.headers_ok]
    rw [handleClient, received, List.take_of_length_le hlen, hparse]
    exact route_policy (hfields call) (utf8Text_ne_nil (ne_empty_of_not_blank hcontainerBlank))
      (utf8Text_ne_nil (ne_empty_of_not_blank hpolicyBlank))
  · rw [hfields call, hfields call']

end Command

/-! ## Examples -/

/-- The library functions of the example, with a printer of the empty specification. -/
def emptySpecPlatform : Platform ℚ :=
  { Server.examplePlatform with toJson := fun _ => "\x7b\x7d" }

/-- A policy without rules. -/
def emptyPolicy (id : String) : Policy ℚ :=
  ⟨id, "web", .seccomp, .object [], 0, none, .pending⟩

/-- The entries in the order of the source, without white space. -/
def compactBody (containerId policyId policyType : String) :
    PolicyBody (policyEntries containerId policyId policyType) where
  members :=
    [⟨containerIdKey, .text (utf8Text containerId), [], [], [], []⟩,
      ⟨policyIdKey, .text (utf8Text policyId), [], [], [], []⟩,
      ⟨typeKey, .text (utf8Text policyType), [], [], [], []⟩]
  lead := []
  trail := []
  perm := List.Perm.refl _
  spaced := by
    intro m hm
    simp only [List.mem_cons, List.not_mem_nil, or_false] at hm
    rcases hm with rfl | rfl | rfl
    all_goals exact ⟨by simp, by simp, by simp, by simp⟩
  lead_spaced := isJsonSpace_of_mem_nil
  trail_spaced := isJsonSpace_of_mem_nil
  beforeSpecKey := []
  afterSpecKey := []
  beforeSpec := []
  afterSpec := []

/-- The id of a container that is a space is neither empty nor escaped, and not the one that the agent
gets. -/
theorem blank_id_replaced :
    Plain " " ∧ " " ≠ "" ∧ Plain (emptyPolicy "p-1").id ∧ (emptyPolicy "p-1").id ≠ "" ∧
      (policyFields (parseRequest (policyRequest [] ((compactBody
        (policyCommand emptySpecPlatform " " (emptyPolicy "p-1") "u-1").containerId
        (policyCommand emptySpecPlatform " " (emptyPolicy "p-1") "u-1").policyId
        (typeName (emptyPolicy "p-1").type)).json
          (utf8Text (emptySpecPlatform.toJson (emptyPolicy "p-1").spec))))).body).1 ≠
        utf8Text " " := by
  refine ⟨by decide, by decide, by decide, by decide, ?_⟩
  rw [parseRequest_policyRequest (by simp), extract_policyFields _ _ (by decide +kernel)
    (by decide +kernel) (by decide +kernel) (by decide +kernel) (by decide +kernel) (by decide)]
  decide +kernel

/-- An object of strings that need no escapes, without white space. -/
def printMembers : JsonNode ℚ → String
  | .object fields =>
      "\x7b" ++ ",".intercalate (fields.map fun e => "\"" ++ e.1 ++ "\":\"" ++ e.2.asText ++ "\"") ++
        "\x7d"
  | node => node.asText

/-- The library functions of the example, with that printer. -/
def memberPlatform : Platform ℚ := { Server.examplePlatform with toJson := printMembers }

/-- A specification that names another container, another policy and another type. -/
def redirectingSpec : JsonNode ℚ :=
  .object [("container_id", .text "db"), ("policy_id", .text "p-9"), ("type", .text "APPARMOR")]

/-- The call with this specification. -/
def redirectingCall : PolicyCall memberPlatform "web" "SECCOMP" (emptyPolicy "p-1") where
  uuid := "u-1"
  spec := redirectingSpec
  body := compactBody _ _ _
  headers := [ascii "Content-Type: application/json\r"]
  headers_ok := by decide

/-- The specification names another container, and the agent takes the policy for the right one. -/
theorem web_policy_not_redirected :
    printMembers redirectingSpec =
        "\x7b\"container_id\":\"db\",\"policy_id\":\"p-9\",\"type\":\"APPARMOR\"\x7d" ∧
      policyFields (parseRequest redirectingCall.request).body =
        (utf8Text "web", utf8Text "p-1", utf8Text "SECCOMP") :=
  ⟨by decide +kernel, (spec_cannot_redirect_policy memberPlatform "web" "SECCOMP"
    (emptyPolicy "p-1") (by decide +kernel) (by decide +kernel) (by decide +kernel)
    (by decide +kernel) (by decide +kernel) (by decide)).1 redirectingCall⟩

end DeepKernel.System
