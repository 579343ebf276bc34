import DeepKernel.Agent.AgentServer
import DeepKernel.Agent.FieldSearch

/-!
# The body of a request to the agent

The server puts the entries of a request into a hash map and has it written as JSON: the order of the
keys and the white space are not fixed. The agent drops the line feeds and searches a field by its
quoted key. Whatever follows the members that were written, the search finds the entry of the map
(`search_receivedText`).
-/

set_option autoImplicit false

namespace DeepKernel.System

open DeepKernel.Lib DeepKernel.Agent

/-! ## The text of a map -/

/-- A value of the map. -/
inductive BodyValue
  | text (string : ByteString)
  | number (n : Nat)
  | null

/-- The JSON text of a value. -/
def BodyValue.json : BodyValue → ByteString
  | .text string => 34 :: (escape string ++ [34])
  | .number n => decimal n
  | .null => ascii "null"

/-- An entry of the map with the white space that is written around it. -/
structure BodyMember where
  key : FieldKey
  value : BodyValue
  beforeKey : ByteString
  afterKey : ByteString
  beforeValue : ByteString
  afterValue : ByteString

/-- From the mark in front of the key on. -/
def BodyMember.field (m : BodyMember) : ByteString :=
  34 :: (m.key.bytes ++ 34 :: (m.afterKey ++ 58 :: (m.beforeValue ++ (m.value.json ++ m.afterValue))))

/-- The members, each with the byte in front of it, and the closing brace. -/
def membersJson (trail : ByteString) : UInt8 → List BodyMember → ByteString
  | _, [] => 125 :: trail
  | separator, m :: ms => separator :: (m.beforeKey ++ (m.field ++ membersJson trail 44 ms))

/-- The members in front of another text. -/
def membersText (tail : ByteString) : UInt8 → List BodyMember → ByteString
  | _, [] => tail
  | separator, m :: ms => separator :: (m.beforeKey ++ (m.field ++ membersText tail 44 ms))

theorem membersJson_eq (trail : ByteString) (separator : UInt8) (ms : List BodyMember) :
    membersJson trail separator ms = membersText (125 :: trail) separator ms := by
  induction ms generalizing separator with
  | nil => rfl
  | cons m ms ih => rw [membersJson, membersText, ih]

/-- The white space of a member is of a class of bytes. -/
structure BodyMember.Spaced (p : UInt8 → Bool) (m : BodyMember) : Prop where
  beforeKey : ∀ b ∈ m.beforeKey, p b = true
  afterKey : ∀ b ∈ m.afterKey, p b = true
  beforeValue : ∀ b ∈ m.beforeValue, p b = true
  afterValue : ∀ b ∈ m.afterValue, p b = true

theorem isJsonSpace_of_mem_nil : ∀ b ∈ ([] : ByteString), isJsonSpace b = true :=
  List.forall_mem_nil _

/-- One way of writing a map: an order of its entries and white space between the tokens. -/
structure DumpBody (entries : List (FieldKey × BodyValue)) where
  members : List BodyMember
  lead : ByteString
  trail : ByteString
  perm : (members.map fun m => (m.key, m.value)).Perm entries
  spaced : ∀ m ∈ members, m.Spaced isJsonSpace
  lead_spaced : ∀ b ∈ lead, isJsonSpace b = true
  trail_spaced : ∀ b ∈ trail, isJsonSpace b = true

/-- The text of the body. -/
def DumpBody.json {entries : List (FieldKey × BodyValue)} (body : DumpBody entries) : ByteString :=
  body.lead ++ membersJson body.trail 123 body.members

/-- The text of the members with another text behind them. -/
def DumpBody.text {entries : List (FieldKey × BodyValue)} (body : DumpBody entries)
    (tail : ByteString) : ByteString :=
  body.lead ++ membersText tail 123 body.members

theorem DumpBody.json_eq {entries : List (FieldKey × BodyValue)} (body : DumpBody entries) :
    body.json = body.text (125 :: body.trail) := by
  rw [DumpBody.json, DumpBody.text, membersJson_eq]

/-! ## Line feeds -/

/-- The member without line feeds in its white space. -/
def BodyMember.dropFeeds (m : BodyMember) : BodyMember :=
  { m with
    beforeKey := m.beforeKey.filter (· != 10)
    afterKey := m.afterKey.filter (· != 10)
    beforeValue := m.beforeValue.filter (· != 10)
    afterValue := m.afterValue.filter (· != 10) }

theorem filter_feeds_eq {text : ByteString} (h : 10 ∉ text) : text.filter (· != 10) = text := by
  refine List.filter_eq_self.2 fun b hb => ?_
  exact bne_iff_ne.2 fun heq => h (heq ▸ hb)

theorem feed_not_mem_json (value : BodyValue) : 10 ∉ value.json := by
  cases value with
  | text string =>
      intro hmem
      have hescape : 10 ∈ escape string := by simpa [BodyValue.json] using hmem
      obtain ⟨b, -, hb⟩ := List.mem_flatMap.1 hescape
      exact forall_byte (p := fun b => 10 ∉ escapeByte b) (by decide +kernel) b hb
  | number n => exact fun hmem => absurd (isDigit_of_mem_decimal hmem) (by decide)
  | null => decide

theorem filter_field (m : BodyMember) : m.field.filter (· != 10) = m.dropFeeds.field := by
  have hkey : 10 ∉ m.key.bytes := fun hmem => m.key.ne_of_mem hmem (by decide) rfl
  have hmark : ∀ s : ByteString, (34 :: s).filter (· != 10) = 34 :: s.filter (· != 10) :=
    fun s => rfl
  have hcolon : ∀ s : ByteString, (58 :: s).filter (· != 10) = 58 :: s.filter (· != 10) :=
    fun s => rfl
  simp only [BodyMember.field, List.filter_append, hmark, hcolon, filter_feeds_eq hkey,
    filter_feeds_eq (feed_not_mem_json m.value)]
  rfl

theorem filter_membersText (tail : ByteString) {separator : UInt8} (hne : separator ≠ 10)
    (ms : List BodyMember) :
    (membersText tail separator ms).filter (· != 10) =
      membersText (tail.filter (· != 10)) separator (ms.map BodyMember.dropFeeds) := by
  induction ms generalizing separator with
  | nil => rfl
  | cons m ms ih =>
      rw [membersText, List.filter_cons, if_pos (bne_iff_ne.2 hne), List.filter_append,
        List.filter_append, filter_field, ih (by decide)]
      rfl

theorem spaced_dropFeeds {m : BodyMember} (h : m.Spaced isJsonSpace) :
    m.dropFeeds.Spaced isSpace := by
  have hspaces : ∀ w : ByteString, (∀ b ∈ w, isJsonSpace b = true) →
      ∀ b ∈ w.filter (· != 10), isSpace b = true := by
    intro w hw b hb
    exact forall_byte (p := fun b => isJsonSpace b = true → isSpace b = true) (by decide +kernel) b
      (hw b (List.mem_of_mem_filter hb))
  exact ⟨hspaces _ h.beforeKey, hspaces _ h.afterKey, hspaces _ h.beforeValue,
    hspaces _ h.afterValue⟩

/-! ## Finding a field -/

section Search

variable {key : FieldKey} {ps : Pattern UInt8} {tail : ByteString}

/-- Behind the value of a member there is the next one or the end. -/
theorem endsValue_members (htail : EndsValue tail) {w : ByteString}
    (hw : ∀ b ∈ w, isSpace b = true) (ms : List BodyMember) :
    EndsValue (w ++ membersText tail 44 ms) := by
  cases ms with
  | nil =>
      obtain ⟨w', c, rest, rfl, hw', hc⟩ := htail.exists_spaces
      refine ⟨w ++ w', c, rest, (List.append_assoc _ _ _).symm, fun b hb => ?_, hc⟩
      rcases List.mem_append.1 hb with hb | hb
      · exact hw b hb
      · exact hw' b hb
  | cons m ms => exact ⟨w, 44, _, rfl, hw, .inl rfl⟩

/-- A member with another key. -/
theorem search_skip_member {m : BodyMember} (hm : m.Spaced isSpace)
    (hne : m.key.bytes ≠ key.bytes) {after : ByteString}
    (hafter : EndsValue (m.afterValue ++ after)) :
    search (keyPattern (exactly key.bytes) ++ ps) (m.field ++ after) =
      search (keyPattern (exactly key.bytes) ++ ps) after := by
  have hfield : m.field ++ after =
      34 :: (m.key.bytes ++ 34 :: (m.afterKey ++ 58 :: (m.beforeValue ++ (m.value.json ++
        (m.afterValue ++ after))))) := by
    simp [BodyMember.field]
  -- neither the key nor what is around it starts a match; the value is left
  rw [hfield, search_skip_key hne hm.afterKey,
    search_skip_plain (mark_not_mem_spaces hm.beforeValue)]
  refine Eq.trans ?_ (search_skip_plain (mark_not_mem_spaces hm.afterValue) _)
  cases m.value with
  | text string =>
      have hstring : BodyValue.json (.text string) ++ (m.afterValue ++ after) =
          34 :: (escape string ++ 34 :: (m.afterValue ++ after)) := by
        simp [BodyValue.json]
      rw [hstring]
      exact search_skip_string hafter string
  | number n =>
      refine search_skip_plain (fun hmem => ?_) _
      exact absurd (isDigit_of_mem_decimal hmem) (by decide)
  | null => exact search_skip_plain (by decide) _

/-- The first member with the key is where the search arrives. -/
theorem search_membersText (htail : EndsValue tail) {pre post : List BodyMember} {m : BodyMember}
    (hspaced : ∀ x ∈ pre ++ m :: post, x.Spaced isSpace)
    (hne : ∀ x ∈ pre, x.key.bytes ≠ key.bytes) {separator : UInt8} (hmark : separator ≠ 34) :
    search (keyPattern (exactly key.bytes) ++ ps) (membersText tail separator (pre ++ m :: post)) =
      search (keyPattern (exactly key.bytes) ++ ps) (m.field ++ membersText tail 44 post) := by
  have hfront : ∀ (x : BodyMember), x.Spaced isSpace → ∀ separator : UInt8, separator ≠ 34 →
      34 ∉ separator :: x.beforeKey := by
    intro x hx separator hsep hmem
    rcases List.mem_cons.1 hmem with heq | hmem
    · exact hsep heq.symm
    · exact mark_not_mem_spaces hx.beforeKey hmem
  induction pre generalizing separator with
  | nil =>
      have hm := hspaced m List.mem_cons_self
      exact search_skip_plain (hfront m hm separator hmark) _
  | cons x pre ih =>
      have hx := hspaced x List.mem_cons_self
      refine (search_skip_plain (hfront x hx separator hmark) _).trans ?_
      refine (search_skip_member hx (hne x List.mem_cons_self)
        (endsValue_members htail hx.afterValue _)).trans ?_
      exact ih (fun y hy => hspaced y (List.mem_cons_of_mem _ hy))
        (fun y hy => hne y (List.mem_cons_of_mem _ hy)) (by decide)

end Search

/-! ## What the agent takes from a body -/

section Body

variable {entries : List (FieldKey × BodyValue)} (body : DumpBody entries)

/-- The members as the agent reads them. -/
def DumpBody.receivedText (tail : ByteString) : ByteString :=
  body.lead.filter (· != 10) ++ membersText tail 123 (body.members.map BodyMember.dropFeeds)

theorem filter_text (tail : ByteString) :
    (body.text tail).filter (· != 10) = body.receivedText (tail.filter (· != 10)) := by
  rw [DumpBody.text, DumpBody.receivedText, List.filter_append, filter_membersText _ (by decide)]

/-- An entry stands in one place, with other keys before it. -/
theorem exists_member (hkeys : (entries.map fun e => e.1.bytes).Nodup) {key : FieldKey}
    {value : BodyValue} (h : (key, value) ∈ entries) :
    ∃ pre m post, body.members.map BodyMember.dropFeeds = pre ++ m :: post ∧ m.key = key ∧
      m.value = value ∧ ∀ x ∈ pre, x.key.bytes ≠ key.bytes := by
  have hkeys : (body.members.map fun m => m.key.bytes).Nodup := by
    have hperm := body.perm.map fun e => e.1.bytes
    rw [List.map_map] at hperm
    exact hperm.nodup_iff.2 hkeys
  obtain ⟨m, hm, hentry⟩ := List.mem_map.1 (body.perm.mem_iff.2 h)
  obtain ⟨pre, post, hsplit⟩ := List.append_of_mem hm
  refine ⟨pre.map BodyMember.dropFeeds, m.dropFeeds, post.map BodyMember.dropFeeds, ?_,
    (Prod.mk.inj hentry).1, (Prod.mk.inj hentry).2, fun x hx => ?_⟩
  · rw [hsplit, List.map_append, List.map_cons]
  · obtain ⟨y, hy, rfl⟩ := List.mem_map.1 hx
    rw [hsplit, List.map_append, List.map_cons] at hkeys
    have hdisjoint := (List.nodup_append.1 hkeys).2.2 y.key.bytes
      (List.mem_map.2 ⟨y, hy, rfl⟩) m.key.bytes List.mem_cons_self
    rw [← (Prod.mk.inj hentry).1]
    exact hdisjoint

theorem spaced_received : ∀ m ∈ body.members.map BodyMember.dropFeeds, m.Spaced isSpace := by
  intro m hm
  obtain ⟨x, hx, rfl⟩ := List.mem_map.1 hm
  exact spaced_dropFeeds (body.spaced x hx)

/-- The search for a key finds the member of the map with it. -/
theorem search_receivedText (hkeys : (entries.map fun e => e.1.bytes).Nodup) {tail : ByteString}
    (htail : EndsValue tail) {key : FieldKey} (value : BodyValue) {ps : Pattern UInt8}
    (h : (key, value) ∈ entries) {groups : List ByteString}
    (hmatch : ∀ w₁ w₂ after, (∀ b ∈ w₁, isSpace b = true) → (∀ b ∈ w₂, isSpace b = true) →
      EndsValue after →
      matchHere (keyPattern (exactly key.bytes) ++ ps)
        (34 :: (key.bytes ++ 34 :: (w₁ ++ 58 :: (w₂ ++ (value.json ++ after))))) = some groups) :
    search (keyPattern (exactly key.bytes) ++ ps) (body.receivedText tail) = some groups := by
  -- the first member with the key is the only one
  obtain ⟨pre, m, post, hms, hkey, hvalue, hne⟩ := exists_member body hkeys h
  have hlead : 34 ∉ body.lead.filter (· != 10) := by
    intro hmem
    exact absurd (body.lead_spaced 34 (List.mem_of_mem_filter hmem)) (by decide)
  have hspaced := spaced_received body
  rw [hms] at hspaced
  have hm := hspaced m (List.mem_append_right _ List.mem_cons_self)
  rw [DumpBody.receivedText, search_skip_plain hlead, hms,
    search_membersText htail hspaced hne (by decide)]
  refine search_of_match ?_
  have hfield := hmatch m.afterKey m.beforeValue _ hm.afterKey hm.beforeValue
    (endsValue_members htail hm.afterValue post)
  rw [← hfield, ← hvalue, ← hkey]
  simp [BodyMember.field]

theorem mark_not_mem_escape {text : ByteString} (hmark : 34 ∉ text) : 34 ∉ escape text := by
  intro hmem
  obtain ⟨b, hb, hmem⟩ := List.mem_flatMap.1 hmem
  rcases escapeByte_cases b with ⟨heq, hb', -⟩ | ⟨rfl, -⟩ | ⟨rest, heq, hrest⟩
  · rw [heq] at hmem
    exact hb' (List.mem_singleton.1 hmem).symm
  · exact hmark hb
  · rw [heq] at hmem
    rcases List.mem_cons.1 hmem with h | h
    · cases h
    · exact hrest h

/-- The agent takes the escaped text of a string. -/
theorem stringField_receivedText (hkeys : (entries.map fun e => e.1.bytes).Nodup)
    {tail : ByteString} (htail : EndsValue tail) {key : FieldKey} {text : ByteString}
    (h : (key, .text text) ∈ entries) (hne : text ≠ []) (hmark : 34 ∉ text) :
    stringField (body.receivedText tail) (exactly key.bytes) = escape text := by
  have hsearch : search (stringFieldPattern (exactly key.bytes)) (body.receivedText tail) =
      some [escape text] := by
    rw [stringFieldPattern_eq]
    refine search_receivedText body hkeys htail (.text text) h fun w₁ w₂ after hw₁ hw₂ _ => ?_
    have hjson : BodyValue.json (.text text) ++ after = 34 :: (escape text ++ 34 :: after) := by
      simp [BodyValue.json]
    rw [hjson, ← stringFieldPattern_eq]
    exact match_stringField hw₁ hw₂ (escape_ne_nil hne) (mark_not_mem_escape hmark)
  rw [stringField, searchGroup, hsearch]
  rfl

end Body

end DeepKernel.System
