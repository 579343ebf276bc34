import DeepKernel.System.RequestBody
import Mathlib.Data.Bool.AllAny

/-!
# A dump command on its way to the agent and back

`HttpAgentAdapter.requestLongDump` puts three entries into a map. `AgentServer` takes the id of the container out of
the text without unescaping it, and `buildDumpCompleteJson` puts it between quotation marks without
escaping it, so that the server reads the id that it sent.
-/

set_option autoImplicit false

namespace DeepKernel.System

open DeepKernel.Lib DeepKernel.Agent

/-! ## The body of the request -/

/-- The keys of the map. -/
def containerIdKey : FieldKey where
  bytes := ascii "container_id"
  bytes_ne_nil := by decide
  isKeyByte_of_mem := List.all_iff_forall_prop.mp (by decide)

@[inherit_doc containerIdKey]
def durationSecKey : FieldKey where
  bytes := ascii "duration_sec"
  bytes_ne_nil := by decide
  isKeyByte_of_mem := List.all_iff_forall_prop.mp (by decide)

@[inherit_doc containerIdKey]
def reasonKey : FieldKey where
  bytes := ascii "reason"
  bytes_ne_nil := by decide
  isKeyByte_of_mem := List.all_iff_forall_prop.mp (by decide)

/-- The map of `requestLongDump`. -/
def requestEntries (containerId : ByteString) (durationSec : Nat) (reason : Option ByteString) :
    List (FieldKey × BodyValue) :=
  [(containerIdKey, .text containerId), (durationSecKey, .number durationSec),
    (reasonKey, (reason.map BodyValue.text).getD .null)]

/-- The request as it arrives at the agent. -/
def dumpRequest (headers : List ByteString) (body : ByteString) : ByteString :=
  ascii "POST /long-dump-requests HTTP/1.1\r" ++
    10 :: (headers.flatMap (fun h => h ++ [10]) ++ 13 :: 10 :: body)

/-! ## What the agent takes from the body -/

section Body

variable {containerId : ByteString} {durationSec : Nat} {reason : Option ByteString}
  (body : DumpBody (requestEntries containerId durationSec reason))

/-- The body as the agent reads it. -/
def DumpBody.received : ByteString :=
  body.lead.filter (· != 10) ++
    membersJson (body.trail.filter (· != 10)) 123 (body.members.map BodyMember.dropFeeds)

theorem received_eq : body.received = body.receivedText (125 :: body.trail.filter (· != 10)) := by
  rw [DumpBody.received, DumpBody.receivedText, membersJson_eq]

theorem filter_json : body.json.filter (· != 10) = body.received := by
  rw [received_eq, DumpBody.json_eq, filter_text]
  rfl

theorem nodup_requestKeys :
    ((requestEntries containerId durationSec reason).map fun e => e.1.bytes).Nodup :=
  (by decide : [ascii "container_id", ascii "duration_sec", ascii "reason"].Nodup)

theorem endsValue_brace (trail : ByteString) : EndsValue (125 :: trail) :=
  ⟨[], 125, trail, rfl, by simp, .inr rfl⟩

/-- The agent takes the escaped text of the id. -/
theorem extract_containerId (hne : containerId ≠ []) (hmark : 34 ∉ containerId) :
    extractJsonString body.received "container_id" = escape containerId := by
  have hkey : keyText "container_id" = exactly containerIdKey.bytes := rfl
  rw [extractJsonString, hkey, received_eq]
  exact stringField_receivedText body nodup_requestKeys (endsValue_brace _) List.mem_cons_self hne
    hmark

/-- The agent takes the number of seconds. -/
theorem extract_durationSec (hlt : durationSec < 2 ^ 31) :
    extractJsonInt body.received "duration_sec" 1200 = Int32.ofNat durationSec := by
  have hsearch : search (intFieldPattern (exactly durationSecKey.bytes)) body.received =
      some [decimal durationSec] := by
    rw [received_eq]
    refine search_receivedText body nodup_requestKeys (endsValue_brace _) (.number durationSec)
      (List.mem_cons_of_mem _ List.mem_cons_self) fun w₁ w₂ after hw₁ hw₂ hafter => ?_
    refine match_intField hw₁ hw₂ (decimal_ne_nil _) (fun b hb => isDigit_of_mem_decimal hb) ?_
    -- a space, a comma or a brace ends the number
    obtain ⟨w, c, rest, hends, hw, hc⟩ := hafter.exists_spaces
    have hspace : ∀ b, isSpace b = true → isDigit b = false :=
      forall_byte (p := fun b => isSpace b = true → isDigit b = false) (by decide +kernel)
    rw [hends]
    refine head_spaces hspace hw ?_ rest
    rcases hc with rfl | rfl
    · decide
    · decide
  have hkey : keyText "duration_sec" = exactly durationSecKey.bytes := rfl
  have hgroup : searchGroup (intFieldPattern (keyText "duration_sec")) 0 body.received =
      some (decimal durationSec) := by
    rw [hkey, searchGroup, hsearch]
    rfl
  rw [extractJsonInt, hgroup]
  simp only [digitsValue_decimal, if_pos hlt]

end Body

/-- The agent calls the handler of dump commands with the escaped id and the duration. -/
theorem handleClient_dumpRequest {containerId : ByteString} (hne : containerId ≠ [])
    (hmark : 34 ∉ containerId) {durationSec : Nat} (hlt : durationSec < 2 ^ 31)
    {reason : Option ByteString} (body : DumpBody (requestEntries containerId durationSec reason))
    {headers : List ByteString} (hheaders : ∀ h ∈ headers, isHeaderLine h = true ∧ 10 ∉ h)
    (hlen : (dumpRequest headers body.json).length ≤ 8191) :
    handleClient (dumpRequest headers body.json) =
      .longDump (escape containerId) (Int32.ofNat durationSec)
        (extractJsonString body.received "reason") := by
  have hline : 10 ∉ ascii "POST /long-dump-requests HTTP/1.1\r" := by decide
  have hwords : streamWords (ascii "POST /long-dump-requests HTTP/1.1\r") =
      [ascii "POST", ascii "/long-dump-requests", ascii "HTTP/1.1"] := by decide +kernel
  have hget : ¬ (ascii "POST" = ascii "GET" ∧ ascii "/long-dump-requests" = ascii "/health") := by
    decide
  have hescape : escape containerId ≠ [] := escape_ne_nil hne
  rw [handleClient, received, List.take_of_length_le hlen, dumpRequest,
    parseRequest_eq hline hheaders, hwords, filter_json]
  simp only [route, List.getD_cons_zero, List.getD_cons_succ]
  rw [if_neg hget, if_pos ⟨trivial, trivial⟩]
  simp only [extract_containerId body hne hmark, extract_durationSec body hlt, if_neg hescape]

/-! ## What the server reads in the completion -/

theorem readText_of_decodeText {bytes text : ByteString} (h : decodeText bytes = some text) :
    readText ⟨[], .plain⟩ bytes = some ⟨text, .plain⟩ := by
  obtain ⟨s, hfilter, htext⟩ := Option.map_eq_some_iff.1 h
  obtain ⟨hread, hmode⟩ := Option.filter_eq_some_iff.1 hfilter
  obtain ⟨text', mode⟩ := s
  rw [hread, ← htext, ← of_decide_eq_true hmode]

theorem isWordByte_of_mem_decimal {n : Nat} {b : UInt8} (h : b ∈ decimal n) : isWordByte b = true :=
  forall_byte (p := fun b => isDigit b = true → isWordByte b = true) (by decide +kernel) b
    (isDigit_of_mem_decimal h)

theorem ascii_toString_int (i : Int) :
    ascii (toString i) ≠ [] ∧ ∀ b ∈ ascii (toString i), isWordByte b = true := by
  cases i with
  | ofNat n => exact ⟨decimal_ne_nil n, fun b hb => isWordByte_of_mem_decimal hb⟩
  | negSucc n =>
      have hminus : ascii (toString (Int.negSucc n)) = 45 :: decimal (n + 1) := by
        change ascii ("-" ++ Nat.repr (n + 1)) = _
        rw [ascii, String.toList_append, List.map_append]
        rfl
      rw [hminus]
      refine ⟨by simp, fun b hb => ?_⟩
      rcases List.mem_cons.1 hb with rfl | hb
      · decide
      · exact isWordByte_of_mem_decimal hb

section Pieces

variable (members : List (ByteString × JsonValue)) (key text word : ByteString)

theorem readObject_agentId : readObject ⟨[], .start⟩ (ascii "\x7b\"agent_id\":\"") =
    some ⟨[], .inText (ascii "agent_id") ⟨[], .plain⟩⟩ := by decide

theorem readObject_containerId :
    readObject ⟨members, .inText key ⟨text, .plain⟩⟩ (ascii "\",\"container_id\":\"") =
      some ⟨members ++ [(key, .text text)], .inText (ascii "container_id") ⟨[], .plain⟩⟩ := rfl

theorem readObject_dumpPath :
    readObject ⟨members, .inText key ⟨text, .plain⟩⟩ (ascii "\",\"dump_path\":\"") =
      some ⟨members ++ [(key, .text text)], .inText (ascii "dump_path") ⟨[], .plain⟩⟩ := rfl

theorem readObject_startTsNs :
    readObject ⟨members, .inText key ⟨text, .plain⟩⟩ (ascii "\",\"start_ts_ns\":") =
      some ⟨members ++ [(key, .text text)], .beforeValue (ascii "start_ts_ns")⟩ := rfl

theorem readObject_durationSec :
    readObject ⟨members, .inWord key word⟩ (ascii ",\"duration_sec\":") =
      some ⟨members ++ [(key, .word word)], .beforeValue (ascii "duration_sec")⟩ := rfl

theorem readObject_recordCount :
    readObject ⟨members, .inWord key word⟩ (ascii ",\"record_count\":") =
      some ⟨members ++ [(key, .word word)], .beforeValue (ascii "record_count")⟩ := rfl

theorem readObject_brace : readObject ⟨members, .inWord key word⟩ (ascii "\x7d") =
    some ⟨members ++ [(key, .word word)], .done⟩ := rfl

end Pieces

/-- The completion is a JSON object, whatever is between the quotation marks of its strings, if that is
the text of a string. -/
theorem decodeObject_dumpComplete {agentId containerId dumpPath agent container path : ByteString}
    (hagent : decodeText agentId = some agent) (hcontainer : decodeText containerId = some container)
    (hpath : decodeText dumpPath = some path) (startTsNs : UInt64) (durationSec : Int32)
    (recordCount : Nat) :
    decodeObject (buildDumpCompleteJson agentId containerId dumpPath startTsNs durationSec
        recordCount) =
      some [(ascii "agent_id", .text agent), (ascii "container_id", .text container),
        (ascii "dump_path", .text path), (ascii "start_ts_ns", .word (decimal startTsNs.toNat)),
        (ascii "duration_sec", .word (ascii (toString durationSec.toInt))),
        (ascii "record_count", .word (decimal recordCount))] := by
  have hword : ∀ members key n,
      readObject ⟨members, .beforeValue key⟩ (decimal n) = some ⟨members, .inWord key (decimal n)⟩ :=
    fun members key n => readObject_beforeValue members key (decimal_ne_nil n)
      fun b hb => isWordByte_of_mem_decimal hb
  obtain ⟨hne, hint⟩ := ascii_toString_int durationSec.toInt
  -- piece by piece, in the order in which the text was put together
  have h₁ := readObject_trans readObject_agentId
    (readObject_inText [] (ascii "agent_id") (readText_of_decodeText hagent))
  have h₂ := readObject_trans h₁ (readObject_containerId _ _ _)
  have h₃ := readObject_trans h₂ (readObject_inText _ _ (readText_of_decodeText hcontainer))
  have h₄ := readObject_trans h₃ (readObject_dumpPath _ _ _)
  have h₅ := readObject_trans h₄ (readObject_inText _ _ (readText_of_decodeText hpath))
  have h₆ := readObject_trans h₅ (readObject_startTsNs _ _ _)
  have h₇ := readObject_trans h₆ (hword _ _ startTsNs.toNat)
  have h₈ := readObject_trans h₇ (readObject_durationSec _ _ _)
  have h₉ := readObject_trans h₈ (readObject_beforeValue _ _ hne hint)
  have h₁₀ := readObject_trans h₉ (readObject_recordCount _ _ _)
  have h₁₁ := readObject_trans h₁₀ (hword _ _ recordCount)
  have h₁₂ := readObject_trans h₁₁ (readObject_brace _ _ _)
  have hdone : ∀ members, ((some (⟨members, .done⟩ : ObjectState)).filter
      fun s => s.mode = .done).map ObjectState.members = some members := fun _ => rfl
  rw [decodeObject, buildDumpCompleteJson, h₁₂, hdone]
  simp only [List.nil_append, List.cons_append]

/-! ## There and back -/

/-- The text has a member with the key and a string between whose quotation marks another text stands. -/
def HasStringField (json : ByteString) (key : String) (text : ByteString) : Prop :=
  ∃ before after, json =
    before ++ (ascii "\"" ++ ascii key ++ ascii "\":\"" ++ text ++ ascii "\"") ++ after

theorem hasStringField_dumpComplete (agentId containerId dumpPath : ByteString) (startTsNs : UInt64)
    (durationSec : Int32) (recordCount : Nat) :
    HasStringField (buildDumpCompleteJson agentId containerId dumpPath startTsNs durationSec
      recordCount) "container_id" containerId := by
  refine ⟨ascii "\x7b\"agent_id\":\"" ++ agentId ++ ascii "\",", ascii ",\"dump_path\":\"" ++ dumpPath ++
    ascii "\",\"start_ts_ns\":" ++ decimal startTsNs.toNat ++
    ascii ",\"duration_sec\":" ++ ascii (toString durationSec.toInt) ++
    ascii ",\"record_count\":" ++ decimal recordCount ++ ascii "\x7d", ?_⟩
  have hopen : ascii "\",\"container_id\":\"" =
      ascii "\"," ++ (ascii "\"" ++ ascii "container_id" ++ ascii "\":\"") := by decide
  have hclose : ascii "\",\"dump_path\":\"" = ascii "\"" ++ ascii ",\"dump_path\":\"" := by decide
  rw [buildDumpCompleteJson, hopen, hclose]
  simp only [List.append_assoc]

/-- A dump command keeps its id and its duration: the handler gets the duration, and a text for the id
that stands in the completion as the string that was sent. If the other strings of the completion are
texts of strings too, the server reads that id. -/
theorem dump_command_round_trip (containerId : ByteString) (hne : containerId ≠ [])
    (hmark : 34 ∉ containerId) (durationSec : Nat) (hlt : durationSec < 2 ^ 31)
    (reason : Option ByteString) (body : DumpBody (requestEntries containerId durationSec reason))
    (headers : List ByteString) (hheaders : ∀ h ∈ headers, isHeaderLine h = true ∧ 10 ∉ h)
    (hlen : (dumpRequest headers body.json).length ≤ 8191) :
    ∃ s seconds why, handleClient (dumpRequest headers body.json) = .longDump s seconds why ∧
      seconds.toInt = durationSec ∧ decodeText s = some containerId ∧
      ∀ agentId dumpPath startTsNs dumpSec recordCount,
        HasStringField (buildDumpCompleteJson agentId s dumpPath startTsNs dumpSec recordCount)
          "container_id" s ∧
        ((decodeText agentId).isSome → (decodeText dumpPath).isSome →
          (decodeObject (buildDumpCompleteJson agentId s dumpPath startTsNs dumpSec
            recordCount)).bind (List.lookup (ascii "container_id")) = some (.text containerId)) := by
  refine ⟨escape containerId, Int32.ofNat durationSec, _,
    handleClient_dumpRequest hne hmark hlt body hheaders hlen, Int32.toInt_ofNat_of_lt hlt,
    decodeText_escape containerId, fun agentId dumpPath startTsNs dumpSec recordCount => ?_⟩
  refine ⟨hasStringField_dumpComplete _ _ _ _ _ _, fun hagent hpath => ?_⟩
  obtain ⟨agent, hagent⟩ := Option.isSome_iff_exists.1 hagent
  obtain ⟨path, hpath⟩ := Option.isSome_iff_exists.1 hpath
  rw [decodeObject_dumpComplete hagent (decodeText_escape containerId) hpath]
  rfl

/-- An id with a backslash, in a body with another order of the keys and a line feed. -/
def backslashBody : DumpBody (requestEntries (ascii "web\\1") 60 (some (ascii "train-1m"))) where
  members :=
    [⟨reasonKey, .text (ascii "train-1m"), [10, 32], [], [32], []⟩,
      ⟨durationSecKey, .number 60, [10, 32], [], [32], []⟩,
      ⟨containerIdKey, .text (ascii "web\\1"), [10, 32], [], [32], [10]⟩]
  lead := []
  trail := []
  perm := List.reverse_perm (requestEntries (ascii "web\\1") 60 (some (ascii "train-1m")))
  spaced := by
    intro m hm
    simp only [List.mem_cons, List.not_mem_nil, or_false] at hm
    rcases hm with rfl | rfl | rfl
    all_goals
      exact ⟨List.all_iff_forall_prop.mp (by decide), List.all_iff_forall_prop.mp (by decide),
        List.all_iff_forall_prop.mp (by decide), List.all_iff_forall_prop.mp (by decide)⟩
  lead_spaced := isJsonSpace_of_mem_nil
  trail_spaced := isJsonSpace_of_mem_nil

theorem backslash_id_kept :
    ∃ s seconds why,
      handleClient (dumpRequest [ascii "Host: agent\r"] backslashBody.json) =
        .longDump s seconds why ∧ seconds.toInt = 60 ∧ decodeText s = some (ascii "web\\1") := by
  obtain ⟨s, seconds, why, hcall, hseconds, hdecode, -⟩ :=
    dump_command_round_trip (ascii "web\\1") (by decide) (by decide) 60 (by decide)
      (some (ascii "train-1m")) backslashBody [ascii "Host: agent\r"]
      (fun h hh => by rw [List.mem_singleton.1 hh]; exact ⟨by decide, by decide⟩) (by decide +kernel)
  exact ⟨s, seconds, why, hcall, hseconds, hdecode⟩

end DeepKernel.System
