import DeepKernel.Agent.FieldSearch
import DeepKernel.Lib.JsonTree
import Mathlib.Data.Bool.AllAny

/-!
# The window that a receiver reads

`buildWindowJson` puts a JSON text together by hand. A reader of JSON gets one record for each event,
with all its numbers, and the strings as they were given, if they need no escapes.
-/

set_option autoImplicit false

namespace DeepKernel.Agent

open DeepKernel.Lib

/-! ## Decimal numbers in JSON -/

/-- The first digit is a zero only for the number zero. -/
theorem toDigits_no_leading_zero (n : Nat) (hn : 0 < n) :
    ∃ ch chars, Nat.toDigits 10 n = ch :: chars ∧ ch ≠ '0' := by
  induction n using Nat.strong_induction_on with
  | _ n ih =>
      by_cases hlt : n < 10
      · refine ⟨n.digitChar, [], Nat.toDigits_of_lt_base hlt, ?_⟩
        have hall : ∀ k : Fin 10, 0 < k.val → k.val.digitChar ≠ '0' := by decide
        exact hall ⟨n, hlt⟩ hn
      · obtain ⟨ch, chars, heq, hch⟩ := ih (n / 10) (by omega) (by omega)
        refine ⟨ch, chars ++ [(n % 10).digitChar], ?_, hch⟩
        rw [Nat.toDigits_of_base_le (by decide) (by omega), heq, List.cons_append]

theorem isNumberDigit_of_mem_decimal {n : Nat} {b : UInt8} (h : b ∈ decimal n) :
    isNumberDigit b = true := isDigit_of_mem_decimal h

theorem isNumber_decimal (n : Nat) : isNumber (decimal n) = true := by
  have hdigits : ∀ b ∈ decimal n, isNumberDigit b = true := fun b => isNumberDigit_of_mem_decimal
  by_cases hn : 0 < n
  · obtain ⟨ch, chars, heq, hch⟩ := toDigits_no_leading_zero n hn
    have hmem : ch ∈ Nat.toDigits 10 n := heq ▸ List.mem_cons_self
    have hbytes : decimal n = UInt8.ofNat ch.toNat :: chars.map fun c => UInt8.ofNat c.toNat := by
      rw [decimal_eq, heq, List.map_cons]
    rw [hbytes] at hdigits ⊢
    refine isNumber_digits hdigits fun hzero => absurd ?_ hch
    have hval : (UInt8.ofNat ch.toNat).toNat = 48 := by rw [hzero]; rfl
    rw [(toNat_of_isDigit hmem).2.2] at hval
    exact Char.toNat_inj.1 hval
  · obtain rfl : n = 0 := by omega
    decide

/-- The value of a number of digits. -/
theorem wordTree_decimal (n : Nat) : wordTree (decimal n) = some (.number (decimal n)) := by
  have hletter : ∀ word : ByteString, (∃ b ∈ word, isNumberDigit b = false) → decimal n ≠ word := by
    rintro word ⟨b, hb, hdigit⟩ heq
    have hmem := isNumberDigit_of_mem_decimal (heq ▸ hb : b ∈ decimal n)
    rw [hdigit] at hmem
    cases hmem
  rw [wordTree, if_neg (hletter _ ⟨110, by decide, by decide⟩),
    if_neg (hletter _ ⟨116, by decide, by decide⟩), if_neg (hletter _ ⟨102, by decide, by decide⟩),
    if_pos (isNumber_decimal n)]

/-! ## What a receiver takes from a tree -/

/-- The member of an object with a key. -/
def member? (key : String) : JsonTree → Option JsonTree
  | .object members => members.lookup (ascii key)
  | _ => none

/-- The value of a number without sign, fraction and exponent. -/
def nat? : JsonTree → Option Nat
  | .number bytes => if bytes.all isNumberDigit then some (digitsValue bytes) else none
  | _ => none

def text? : JsonTree → Option ByteString
  | .text string => some string
  | _ => none

def items? : JsonTree → Option (List JsonTree)
  | .array items => some items
  | _ => none

/-- A record of a window. -/
structure RecordJson where
  deltaTsUs : Nat
  syscallId : Nat
  argClass : Nat
  argBucket : Nat
  deriving DecidableEq

/-- The fields of a window. -/
structure WindowJson where
  version : Nat
  agentId : ByteString
  containerId : ByteString
  windowStartTsNs : Nat
  records : List RecordJson
  deriving DecidableEq

def readRecordJson (tree : JsonTree) : Option RecordJson := do
  let deltaTsUs ← (member? "delta_ts_us" tree).bind nat?
  let syscallId ← (member? "syscall_id" tree).bind nat?
  let argClass ← (member? "arg_class" tree).bind nat?
  let argBucket ← (member? "arg_bucket" tree).bind nat?
  return ⟨deltaTsUs, syscallId, argClass, argBucket⟩

/-- The window that a JSON text stands for. -/
def readWindowJson (tree : JsonTree) : Option WindowJson := do
  let version ← (member? "version" tree).bind nat?
  let agentId ← (member? "agent_id" tree).bind text?
  let containerId ← (member? "container_id" tree).bind text?
  let windowStartTsNs ← (member? "window_start_ts_ns" tree).bind nat?
  let items ← (member? "records" tree).bind items?
  let records ← items.mapM readRecordJson
  return ⟨version, agentId, containerId, windowStartTsNs, records⟩

theorem nat?_decimal (n : Nat) : nat? (.number (decimal n)) = some n := by
  have hall : (decimal n).all isNumberDigit = true :=
    List.all_eq_true.2 fun b hb => isNumberDigit_of_mem_decimal hb
  rw [nat?, if_pos hall, digitsValue_decimal]

/-! ## The text of one record -/

/-- The tree of the record of an event. -/
def recordTree (windowStartTsNs : UInt64) (ev : SyscallEvent) : JsonTree :=
  .object [(ascii "delta_ts_us", .number (decimal (nsToUs (ev.tsNs - windowStartTsNs)).toNat)),
    (ascii "syscall_id", .number (decimal ev.syscallId.toNat)),
    (ascii "arg_class", .number (decimal ev.argClass.toNat)),
    (ascii "arg_bucket", .number (decimal ev.argBucket.toNat))]

section Pieces

variable (ms : List (ByteString × JsonTree)) (key : ByteString) (stack : List JsonFrame)

theorem readTree_decimal (n : Nat) :
    readTree ⟨stack, .value⟩ (decimal n) = some ⟨stack, .inWord (decimal n)⟩ :=
  readTree_digits stack (decimal_ne_nil n) fun _ => isNumberDigit_of_mem_decimal

/-- The comma behind a number. -/
theorem readTree_comma (n : Nat) :
    readTree ⟨.member ms key :: stack, .inWord (decimal n)⟩ (ascii ",") =
      some ⟨.object (ms ++ [(key, .number (decimal n))]) :: stack, .key⟩ := by
  change (treeByte ⟨.member ms key :: stack, .inWord (decimal n)⟩ 44).bind _ = _
  rw [treeByte, if_neg (by decide), wordTree_decimal]
  rfl

/-- The brace behind a number. -/
theorem readTree_brace (n : Nat) (items : List JsonTree) :
    readTree ⟨.member ms key :: .array items :: stack, .inWord (decimal n)⟩ (ascii "\x7d") =
      some ⟨.array (items ++ [.object (ms ++ [(key, .number (decimal n))])]) :: stack,
        .afterValue⟩ := by
  change (treeByte ⟨.member ms key :: .array items :: stack, .inWord (decimal n)⟩ 125).bind _ = _
  rw [treeByte, if_neg (by decide), wordTree_decimal]
  rfl

/-- A number, the comma behind it and the next key. -/
theorem readTree_numberMember (n : Nat) {rest name : ByteString}
    (hrest : ∀ ms, readTree ⟨.object ms :: stack, .key⟩ rest =
      some ⟨.member ms name :: stack, .value⟩) :
    readTree ⟨.member ms key :: stack, .value⟩ (decimal n ++ (ascii "," ++ rest)) =
      some ⟨.member (ms ++ [(key, .number (decimal n))]) name :: stack, .value⟩ :=
  readTree_trans (readTree_decimal _ n) (readTree_trans (readTree_comma ms key stack n) (hrest _))

end Pieces

theorem readTree_windowRecordJson (windowStartTsNs : UInt64) (ev : SyscallEvent)
    (items : List JsonTree) (stack : List JsonFrame) :
    readTree ⟨.array items :: stack, .value⟩ (windowRecordJson windowStartTsNs ev) =
      some ⟨.array (items ++ [recordTree windowStartTsNs ev]) :: stack, .afterValue⟩ := by
  have hopen : readTree ⟨.array items :: stack, .value⟩ (ascii "\x7b\"delta_ts_us\":") =
      some ⟨.member [] (ascii "delta_ts_us") :: .array items :: stack, .value⟩ := rfl
  have hsyscall : ∀ ms, readTree ⟨.object ms :: .array items :: stack, .key⟩
      (ascii "\"syscall_id\":") =
        some ⟨.member ms (ascii "syscall_id") :: .array items :: stack, .value⟩ := fun ms => rfl
  have hclass : ∀ ms, readTree ⟨.object ms :: .array items :: stack, .key⟩
      (ascii "\"arg_class\":") =
        some ⟨.member ms (ascii "arg_class") :: .array items :: stack, .value⟩ := fun ms => rfl
  have hbucket : ∀ ms, readTree ⟨.object ms :: .array items :: stack, .key⟩
      (ascii "\"arg_bucket\":") =
        some ⟨.member ms (ascii "arg_bucket") :: .array items :: stack, .value⟩ := fun ms => rfl
  -- piece by piece, in the order in which the text was put together
  have h₁ := readTree_trans hopen (readTree_numberMember [] _ _
    (nsToUs (ev.tsNs - windowStartTsNs)).toNat hsyscall)
  have h₂ := readTree_trans h₁ (readTree_numberMember _ _ _ ev.syscallId.toNat hclass)
  have h₃ := readTree_trans h₂ (readTree_numberMember _ _ _ ev.argClass.toNat hbucket)
  have h₄ := readTree_trans h₃ (readTree_decimal _ ev.argBucket.toNat)
  have h₅ := readTree_trans h₄ (readTree_brace _ _ stack _ items)
  have htext : windowRecordJson windowStartTsNs ev =
      ascii "\x7b\"delta_ts_us\":" ++
        (decimal (nsToUs (ev.tsNs - windowStartTsNs)).toNat ++ (ascii "," ++ ascii "\"syscall_id\":")) ++
        (decimal ev.syscallId.toNat ++ (ascii "," ++ ascii "\"arg_class\":")) ++
        (decimal ev.argClass.toNat ++ (ascii "," ++ ascii "\"arg_bucket\":")) ++
        decimal ev.argBucket.toNat ++ ascii "\x7d" := by
    have hsplit : ascii ",\"syscall_id\":" = ascii "," ++ ascii "\"syscall_id\":" := rfl
    have hsplit' : ascii ",\"arg_class\":" = ascii "," ++ ascii "\"arg_class\":" := rfl
    have hsplit'' : ascii ",\"arg_bucket\":" = ascii "," ++ ascii "\"arg_bucket\":" := rfl
    rw [windowRecordJson, hsplit, hsplit', hsplit'']
    simp only [List.append_assoc]
  rw [htext, h₅]
  rfl

/-- The loop over the events, from an array with some items on. -/
theorem readTree_records (windowStartTsNs : UInt64) (ev : SyscallEvent) (events : List SyscallEvent)
    (items : List JsonTree) (stack : List JsonFrame) :
    readTree ⟨.array items :: stack, .value⟩
        ((ascii ",").intercalate ((ev :: events).map (windowRecordJson windowStartTsNs))) =
      some ⟨.array (items ++ (ev :: events).map (recordTree windowStartTsNs)) :: stack,
        .afterValue⟩ := by
  induction events generalizing ev items with
  | nil =>
      rw [List.map_singleton, List.map_singleton, List.intercalate_singleton]
      exact readTree_windowRecordJson windowStartTsNs ev items stack
  | cons next events ih =>
      have hcomma : ∀ items, readTree ⟨.array items :: stack, .afterValue⟩ (ascii ",") =
          some ⟨.array items :: stack, .value⟩ := fun items => rfl
      have hhead := readTree_trans (readTree_windowRecordJson windowStartTsNs ev items stack)
        (hcomma _)
      have hrest := readTree_trans hhead (ih next (items ++ [recordTree windowStartTsNs ev]))
      rw [List.append_assoc items, List.singleton_append] at hrest
      rw [List.map_cons, List.map_cons, List.intercalate_cons_cons, ← List.map_cons]
      exact hrest

/-- Between the brackets; without events there is nothing. -/
theorem readTree_array (windowStartTsNs : UInt64) (events : List SyscallEvent)
    (ms : List (ByteString × JsonTree)) (key : ByteString) :
    readTree ⟨[.member ms key], .value⟩ (ascii "[" ++
        ((ascii ",").intercalate (events.map (windowRecordJson windowStartTsNs)) ++ ascii "]")) =
      some ⟨[.object (ms ++ [(key, .array (events.map (recordTree windowStartTsNs)))])],
        .afterValue⟩ := by
  cases events with
  | nil => rfl
  | cons ev events =>
      have hopen : ∀ bytes, readTree ⟨[.member ms key], .value⟩ (ascii "[" ++ (123 :: bytes)) =
          readTree ⟨[.array [], .member ms key], .value⟩ (123 :: bytes) := fun bytes => rfl
      -- every record starts with a brace
      have hfirst : ∃ bytes, (ascii ",").intercalate
          ((ev :: events).map (windowRecordJson windowStartTsNs)) ++ ascii "]" = 123 :: bytes := by
        cases events with
        | nil => exact ⟨_, rfl⟩
        | cons next events => exact ⟨_, rfl⟩
      have hclose : ∀ items, readTree ⟨[.array items, .member ms key], .afterValue⟩ (ascii "]") =
          some ⟨[.object (ms ++ [(key, .array items)])], .afterValue⟩ := fun items => rfl
      obtain ⟨bytes, hbytes⟩ := hfirst
      rw [hbytes, hopen, ← hbytes]
      exact readTree_trans (readTree_records windowStartTsNs ev events [] [.member ms key])
        (hclose _)

/-! ## The whole window -/

/-- The tree of a window. -/
def windowTree (agentId containerId : ByteString) (windowStartTsNs : UInt64)
    (events : List SyscallEvent) : JsonTree :=
  .object [(ascii "version", .number (decimal 1)), (ascii "agent_id", .text agentId),
    (ascii "container_id", .text containerId),
    (ascii "window_start_ts_ns", .number (decimal windowStartTsNs.toNat)),
    (ascii "records", .array (events.map (recordTree windowStartTsNs)))]

theorem decodeTree_buildWindowJson {agentId containerId : ByteString}
    (hagent : ∀ b ∈ agentId, b ≠ 34 ∧ b ≠ 92 ∧ 32 ≤ b)
    (hcontainer : ∀ b ∈ containerId, b ≠ 34 ∧ b ≠ 92 ∧ 32 ≤ b) (windowStartTsNs : UInt64)
    (events : List SyscallEvent) :
    decodeTree (buildWindowJson agentId containerId windowStartTsNs events) =
      some (windowTree agentId containerId windowStartTsNs events) := by
  -- the constant parts of the text, each with the state that the reader reaches behind it
  have hopen : readTree ⟨[], .value⟩ (ascii "\x7b\"version\":1,\"agent_id\":\"") =
      some ⟨[.member [(ascii "version", .number (decimal 1))] (ascii "agent_id")],
        .inText ⟨[], .plain⟩⟩ := rfl
  have hcontainerKey : ∀ ms key text,
      readTree ⟨[.member ms key], .inText ⟨text, .plain⟩⟩ (ascii "\",\"container_id\":\"") =
        some ⟨[.member (ms ++ [(key, .text text)]) (ascii "container_id")],
          .inText ⟨[], .plain⟩⟩ := fun ms key text => rfl
  have hstartKey : ∀ ms key text,
      readTree ⟨[.member ms key], .inText ⟨text, .plain⟩⟩ (ascii "\",\"window_start_ts_ns\":") =
        some ⟨[.member (ms ++ [(key, .text text)]) (ascii "window_start_ts_ns")], .value⟩ :=
    fun ms key text => rfl
  have hrecordsKey : ∀ ms, readTree ⟨[.object ms], .key⟩ (ascii "\"records\":") =
      some ⟨[.member ms (ascii "records")], .value⟩ := fun ms => rfl
  have hclose : ∀ ms, readTree ⟨[.object ms], .afterValue⟩ (ascii "\x7d") =
      some ⟨[], .done (.object ms)⟩ := fun ms => rfl
  -- the reader goes through the text part by part
  have h₁ := readTree_trans hopen (readTree_inText _ [] hagent)
  have h₂ := readTree_trans h₁ (hcontainerKey _ _ _)
  have h₃ := readTree_trans h₂ (readTree_inText _ [] hcontainer)
  have h₄ := readTree_trans h₃ (hstartKey _ _ _)
  have h₅ := readTree_trans h₄ (readTree_numberMember _ _ [] windowStartTsNs.toNat hrecordsKey)
  have h₆ := readTree_trans h₅ (readTree_array windowStartTsNs events _ _)
  have h₇ := readTree_trans h₆ (hclose _)
  have htext : buildWindowJson agentId containerId windowStartTsNs events =
      ascii "\x7b\"version\":1,\"agent_id\":\"" ++ agentId ++ ascii "\",\"container_id\":\"" ++
        containerId ++ ascii "\",\"window_start_ts_ns\":" ++
        (decimal windowStartTsNs.toNat ++ (ascii "," ++ ascii "\"records\":")) ++
        (ascii "[" ++ ((ascii ",").intercalate (events.map (windowRecordJson windowStartTsNs)) ++
          ascii "]")) ++ ascii "\x7d" := by
    have hsplit : ascii ",\"records\":[" = ascii "," ++ (ascii "\"records\":" ++ ascii "[") := rfl
    have hsplit' : ascii "]\x7d" = ascii "]" ++ ascii "\x7d" := rfl
    rw [buildWindowJson, hsplit, hsplit']
    simp only [List.append_assoc]
  rw [decodeTree, htext, h₇]
  rfl

/-- The record that a receiver reads for an event. -/
def expectedRecord (windowStartTsNs : UInt64) (ev : SyscallEvent) : RecordJson where
  deltaTsUs := (((ev.tsNs.toNat : Int) - windowStartTsNs.toNat) % 2 ^ 64).toNat / 1000
  syscallId := ev.syscallId.toNat
  argClass := ev.argClass.toNat
  argBucket := ev.argBucket.toNat

theorem readRecordJson_recordTree (windowStartTsNs : UInt64) (ev : SyscallEvent) :
    readRecordJson (recordTree windowStartTsNs ev) = some (expectedRecord windowStartTsNs ev) := by
  -- the subtraction wraps in 64 bits for an event before the start of the window
  have hdelta : (nsToUs (ev.tsNs - windowStartTsNs)).toNat =
      (((ev.tsNs.toNat : Int) - windowStartTsNs.toNat) % 2 ^ 64).toNat / 1000 := by
    rw [← toNat_sub_eq_emod, Int.toNat_natCast, nsToUs, UInt64.toNat_div]
    rfl
  have hdeltaKey : member? "delta_ts_us" (recordTree windowStartTsNs ev) =
      some (.number (decimal (nsToUs (ev.tsNs - windowStartTsNs)).toNat)) := rfl
  have hsyscallKey : member? "syscall_id" (recordTree windowStartTsNs ev) =
      some (.number (decimal ev.syscallId.toNat)) := rfl
  have hclassKey : member? "arg_class" (recordTree windowStartTsNs ev) =
      some (.number (decimal ev.argClass.toNat)) := rfl
  have hbucketKey : member? "arg_bucket" (recordTree windowStartTsNs ev) =
      some (.number (decimal ev.argBucket.toNat)) := rfl
  rw [readRecordJson, hdeltaKey, hsyscallKey, hclassKey, hbucketKey]
  simp only [Option.bind_some, nat?_decimal, hdelta]
  rfl

/-- A window is valid JSON and is read with its ids, its start and one record for each event. -/
theorem window_json_round_trip (agentId containerId : ByteString)
    (hagent : ∀ b ∈ agentId, b ≠ 34 ∧ b ≠ 92 ∧ 32 ≤ b)
    (hcontainer : ∀ b ∈ containerId, b ≠ 34 ∧ b ≠ 92 ∧ 32 ≤ b) (windowStartTsNs : UInt64)
    (events : List SyscallEvent) :
    ∃ members, decodeTree (buildWindowJson agentId containerId windowStartTsNs events) =
        some (.object members) ∧
      readWindowJson (.object members) =
        some ⟨1, agentId, containerId, windowStartTsNs.toNat,
          events.map (expectedRecord windowStartTsNs)⟩ := by
  refine ⟨_, decodeTree_buildWindowJson hagent hcontainer windowStartTsNs events, ?_⟩
  have hrecords : (events.map (recordTree windowStartTsNs)).mapM readRecordJson =
      some (events.map (expectedRecord windowStartTsNs)) := by
    induction events with
    | nil => rfl
    | cons ev events ih =>
        rw [List.map_cons, List.mapM_cons, readRecordJson_recordTree, ih]
        rfl
  -- the keys are all different, so each lookup finds its own member
  have hversion : member? "version" (windowTree agentId containerId windowStartTsNs events) =
      some (.number (decimal 1)) := rfl
  have hagentId : member? "agent_id" (windowTree agentId containerId windowStartTsNs events) =
      some (.text agentId) := rfl
  have hcontainerId : member? "container_id" (windowTree agentId containerId windowStartTsNs events) =
      some (.text containerId) := rfl
  have hstart : member? "window_start_ts_ns" (windowTree agentId containerId windowStartTsNs events) =
      some (.number (decimal windowStartTsNs.toNat)) := rfl
  have hitems : member? "records" (windowTree agentId containerId windowStartTsNs events) =
      some (.array (events.map (recordTree windowStartTsNs))) := rfl
  change readWindowJson (windowTree agentId containerId windowStartTsNs events) = _
  rw [readWindowJson, hversion, hagentId, hcontainerId, hstart, hitems]
  simp only [Option.bind_eq_bind, Option.bind_some, nat?_decimal, text?, items?, hrecords,
    Option.pure_def]

/-- An event that is a microsecond older than the start of the window. -/
theorem early_event_round_trip :
    (∀ b ∈ ascii "agent-1", b ≠ 34 ∧ b ≠ 92 ∧ 32 ≤ b) ∧
      ∃ members, decodeTree (buildWindowJson (ascii "agent-1") (ascii "web") 5000
          [⟨4000, 1, 1, 1, 59, 2, 1⟩]) = some (.object members) ∧
        readWindowJson (.object members) =
          some ⟨1, ascii "agent-1", ascii "web", 5000, [⟨18446744073709550, 59, 2, 1⟩]⟩ :=
  ⟨List.all_iff_forall_prop.mp (by decide),
    window_json_round_trip (ascii "agent-1") (ascii "web")
      (List.all_iff_forall_prop.mp (by decide)) (List.all_iff_forall_prop.mp (by decide)) 5000
      [⟨4000, 1, 1, 1, 59, 2, 1⟩]⟩

end DeepKernel.Agent
