import DeepKernel.Agent.JsonFields
import DeepKernel.Lib.JsonText

/-!
# Searching a field in an escaped JSON text

The agent finds a field by its quoted key with a colon behind it. In a JSON text the strings of which
are escaped, no other place looks like that: inside a string a quotation mark has a backslash before
it, and behind a string value there is a comma or a brace. The lemmas go through such a text from the
left, piece by piece, and drop the pieces at which the search finds nothing.
-/

set_option autoImplicit false

namespace DeepKernel.Agent

open DeepKernel.Lib

/-! ## Where a field can begin -/

/-- A lower-case letter or an underscore. -/
def isKeyByte (b : UInt8) : Bool := (97 ≤ b && b ≤ 122) || b == 95

/-- A key of a field. -/
structure FieldKey where
  bytes : ByteString
  bytes_ne_nil : bytes ≠ []
  isKeyByte_of_mem : ∀ b ∈ bytes, isKeyByte b = true

theorem FieldKey.ne_of_mem (key : FieldKey) {b c : UInt8} (h : b ∈ key.bytes)
    (hc : isKeyByte c = false) : b ≠ c := by
  rintro rfl
  exact absurd (key.isKeyByte_of_mem b h) (ne_true_of_eq_false hc)

/-- The text begins with the quoted key and a colon. -/
def StartsField (key : FieldKey) (s : ByteString) : Prop :=
  ∃ w rest, s = 34 :: (key.bytes ++ 34 :: (w ++ 58 :: rest)) ∧ ∀ b ∈ w, isSpace b = true

section Skip

variable {key : FieldKey} {ps : Pattern UInt8}

theorem keyPattern_append :
    keyPattern (exactly key.bytes) ++ ps =
      exactly [34] ++ (exactly key.bytes ++ (exactly [34] ++
        (.run isSpace 0 none false false :: (exactly [58] ++
          (.run isSpace 0 none false false :: ps))))) := by
  simp only [keyPattern, List.append_assoc]
  rfl

theorem startsField_of_match {s : ByteString} {groups : List ByteString}
    (h : matchHere (keyPattern (exactly key.bytes) ++ ps) s = some groups) : StartsField key s := by
  rw [keyPattern_append] at h
  obtain ⟨s₁, hs, h₁⟩ := exists_of_matchHere_exactly h
  obtain ⟨s₂, hs₁, h₂⟩ := exists_of_matchHere_exactly h₁
  obtain ⟨s₃, hs₂, h₃⟩ := exists_of_matchHere_exactly h₂
  obtain ⟨w, s₄, groups', hs₃, -, -, hw, h₄, -⟩ := exists_of_matchHere h₃
  obtain ⟨rest, hs₄, -⟩ := exists_of_matchHere_exactly h₄
  exact ⟨w, rest, by rw [hs, hs₁, hs₂, hs₃, hs₄]; rfl, hw⟩

theorem search_of_not_startsField {b : UInt8} {s : ByteString} (h : ¬ StartsField key (b :: s)) :
    search (keyPattern (exactly key.bytes) ++ ps) (b :: s) =
      search (keyPattern (exactly key.bytes) ++ ps) s := by
  cases hmatch : matchHere (keyPattern (exactly key.bytes) ++ ps) (b :: s) with
  | none => exact search_cons_of_none hmatch
  | some groups => exact absurd (startsField_of_match hmatch) h

/-- A piece without quotation marks. -/
theorem search_skip_plain {piece : ByteString} (h : 34 ∉ piece) (s : ByteString) :
    search (keyPattern (exactly key.bytes) ++ ps) (piece ++ s) =
      search (keyPattern (exactly key.bytes) ++ ps) s := by
  induction piece with
  | nil => rfl
  | cons b piece ih =>
      rw [List.cons_append, search_of_not_startsField, ih fun hmem => h (List.mem_cons_of_mem _ hmem)]
      rintro ⟨w, rest, heq, -⟩
      exact h ((List.cons.inj heq).1 ▸ List.mem_cons_self)

/-- A quotation mark that has no byte of a key behind it. -/
theorem search_skip_mark {s : ByteString} (h : ∀ b ∈ s.head?, isKeyByte b = false) :
    search (keyPattern (exactly key.bytes) ++ ps) (34 :: s) =
      search (keyPattern (exactly key.bytes) ++ ps) s := by
  refine search_of_not_startsField ?_
  rintro ⟨w, rest, heq, -⟩
  have hs := (List.cons.inj heq).2
  cases hkey : key.bytes with
  | nil => exact key.bytes_ne_nil hkey
  | cons c bytes =>
      rw [hkey] at hs
      have hmem : c ∈ key.bytes := hkey ▸ List.mem_cons_self
      exact key.ne_of_mem hmem (h c (hs ▸ rfl)) rfl

theorem not_isKeyByte_of_isSpace (b : UInt8) : isSpace b = true → isKeyByte b = false :=
  forall_byte (p := fun b => isSpace b = true → isKeyByte b = false) (by decide +kernel) b

/-- Spaces, which are not of a class, and then a byte that is not either. -/
theorem head_spaces {p : UInt8 → Bool} (hp : ∀ b, isSpace b = true → p b = false) {w : ByteString}
    (hw : ∀ b ∈ w, isSpace b = true) {c : UInt8} (hc : p c = false) (s : ByteString) :
    ∀ b ∈ (w ++ c :: s).head?, p b = false := by
  intro b hb
  cases w with
  | nil =>
      rw [← Option.some.inj hb]
      exact hc
  | cons x w =>
      rw [← Option.some.inj hb]
      exact hp x (hw x List.mem_cons_self)

theorem mark_not_mem_spaces {w : ByteString} (hw : ∀ b ∈ w, isSpace b = true) : 34 ∉ w :=
  fun hmem => absurd (hw 34 hmem) (by decide)

theorem FieldKey.mark_not_mem (key : FieldKey) : 34 ∉ key.bytes :=
  fun hmem => key.ne_of_mem hmem (by decide) rfl

/-- Another key, with its colon. -/
theorem search_skip_key {other : FieldKey} (hne : other.bytes ≠ key.bytes) {w : ByteString}
    (hw : ∀ b ∈ w, isSpace b = true) (s : ByteString) :
    search (keyPattern (exactly key.bytes) ++ ps) (34 :: (other.bytes ++ 34 :: (w ++ 58 :: s))) =
      search (keyPattern (exactly key.bytes) ++ ps) s := by
  have hfirst : ¬ StartsField key (34 :: (other.bytes ++ 34 :: (w ++ 58 :: s))) := by
    rintro ⟨w', rest, heq, -⟩
    exact hne (append_mark_injective other.mark_not_mem key.mark_not_mem (List.cons.inj heq).2).1
  rw [search_of_not_startsField hfirst, search_skip_plain other.mark_not_mem,
    search_skip_mark (head_spaces not_isKeyByte_of_isSpace hw (by decide) s),
    search_skip_plain (mark_not_mem_spaces hw)]
  have hcolon : 34 ∉ ([58] : ByteString) := by decide
  exact search_skip_plain hcolon s

/-! ## Strings -/

/-- What an escaped byte is: itself, or a backslash with something that is no quotation mark unless
the byte is one. -/
theorem escapeByte_cases (b : UInt8) :
    (escapeByte b = [b] ∧ b ≠ 34 ∧ b ≠ 92) ∨ (b = 34 ∧ escapeByte b = [92, 34]) ∨
      (∃ rest, escapeByte b = 92 :: rest ∧ 34 ∉ rest) := by
  have hhex : ∀ n, n < 16 → 34 ≠ hexDigit n := by
    intro n hn
    have hall : ∀ k : Fin 16, 34 ≠ hexDigit k := by decide
    exact hall ⟨n, hn⟩
  rw [escapeByte]
  split_ifs with h₁ h₂ h₃ h₄ h₅ h₆ h₇ h₈
  · exact .inr (.inl ⟨h₁, rfl⟩)
  · exact .inr (.inr ⟨[92], rfl, by decide⟩)
  · exact .inr (.inr ⟨[98], rfl, by decide⟩)
  · exact .inr (.inr ⟨[116], rfl, by decide⟩)
  · exact .inr (.inr ⟨[110], rfl, by decide⟩)
  · exact .inr (.inr ⟨[102], rfl, by decide⟩)
  · exact .inr (.inr ⟨[114], rfl, by decide⟩)
  · -- the form with four digits, none of which is a mark
    refine .inr (.inr ⟨_, rfl, ?_⟩)
    have hlt : b.toNat < 32 := h₈
    simp [hhex (b.toNat / 16) (by omega), hhex (b.toNat % 16) (by omega)]
  · exact .inl ⟨rfl, h₁, h₂⟩

/-- In an escaped text with a mark behind it, the first mark without a backslash is that one. -/
theorem eq_of_escape_append {text k after rest : ByteString} (hk : ∀ b ∈ k, b ≠ 34 ∧ b ≠ 92)
    (h : escape text ++ 34 :: after = k ++ 34 :: rest) : after = rest := by
  induction text generalizing k with
  | nil =>
      cases k with
      | nil => exact (List.cons.inj h).2
      | cons x k => exact absurd (List.cons.inj h).1.symm (hk x List.mem_cons_self).1
  | cons b text ih =>
      have hcons : escape (b :: text) = escapeByte b ++ escape text := List.flatMap_cons
      rw [hcons, List.append_assoc] at h
      -- a backslash is in no part without escapes
      have hslash : ∀ u, (92 : UInt8) :: u ≠ k ++ 34 :: rest := by
        intro u hu
        cases k with
        | nil => exact absurd (List.cons.inj hu).1 (by decide)
        | cons x k => exact (hk x List.mem_cons_self).2 (List.cons.inj hu).1.symm
      rcases escapeByte_cases b with ⟨hb, hmark, -⟩ | ⟨-, hb⟩ | ⟨u, hb, -⟩
      · rw [hb] at h
        cases k with
        | nil => exact absurd (List.cons.inj h).1 hmark
        | cons x k => exact ih (fun c hc => hk c (List.mem_cons_of_mem _ hc)) (List.cons.inj h).2
      · rw [hb] at h
        exact absurd h (hslash _)
      · rw [hb] at h
        exact absurd h (hslash _)

/-- Between spaces and a byte that is neither a space nor a colon there is no colon. -/
theorem not_colon_of_spaces {w w' : ByteString} (hw : ∀ b ∈ w, isSpace b = true)
    (hw' : ∀ b ∈ w', isSpace b = true) {c : UInt8} (hc : isSpace c = false) (hcolon : c ≠ 58)
    {s rest : ByteString} : w ++ c :: s ≠ w' ++ 58 :: rest := by
  intro h
  induction w generalizing w' with
  | nil =>
      cases w' with
      | nil => exact hcolon (List.cons.inj h).1
      | cons x w' =>
          have hx := hw' x List.mem_cons_self
          rw [← (List.cons.inj h).1, hc] at hx
          cases hx
  | cons y w ih =>
      cases w' with
      | nil =>
          have hy := hw y List.mem_cons_self
          rw [(List.cons.inj h).1] at hy
          cases hy
      | cons x w' =>
          exact ih (fun b hb => hw b (List.mem_cons_of_mem _ hb))
            (fun b hb => hw' b (List.mem_cons_of_mem _ hb)) (List.cons.inj h).2

/-- What stands behind a value: spaces, and then a comma or a brace. -/
structure EndsValue (s : ByteString) : Prop where
  exists_spaces : ∃ w c rest, s = w ++ c :: rest ∧ (∀ b ∈ w, isSpace b = true) ∧ (c = 44 ∨ c = 125)

/-- No field begins at the mark in front of the rest of a string value. -/
theorem not_startsField_escape {after : ByteString} (hafter : EndsValue after) (text : ByteString) :
    ¬ StartsField key (34 :: (escape text ++ 34 :: after)) := by
  rintro ⟨w', rest, heq, hw'⟩
  obtain ⟨w, c, s, rfl, hw, hc⟩ := hafter.exists_spaces
  have hkey : ∀ b ∈ key.bytes, b ≠ 34 ∧ b ≠ 92 := fun b hb =>
    ⟨key.ne_of_mem hb (by decide), key.ne_of_mem hb (by decide)⟩
  refine not_colon_of_spaces hw hw' ?_ ?_ (eq_of_escape_append hkey (List.cons.inj heq).2)
  · rcases hc with rfl | rfl
    · decide
    · decide
  · rcases hc with rfl | rfl
    · decide
    · decide

theorem search_skip_escape {after : ByteString} (hafter : EndsValue after) (text : ByteString) :
    search (keyPattern (exactly key.bytes) ++ ps) (escape text ++ 34 :: after) =
      search (keyPattern (exactly key.bytes) ++ ps) (34 :: after) := by
  induction text with
  | nil => rfl
  | cons b text ih =>
      have hcons : escape (b :: text) = escapeByte b ++ escape text := List.flatMap_cons
      rw [hcons, List.append_assoc]
      rcases escapeByte_cases b with ⟨hb, hmark, -⟩ | ⟨-, hb⟩ | ⟨u, hb, hu⟩
      · rw [hb, search_skip_plain (by simpa using hmark.symm), ih]
      · -- the mark behind the backslash
        have hslash : 34 ∉ ([92] : ByteString) := by decide
        rw [hb]
        refine (search_skip_plain hslash _).trans ?_
        exact (search_of_not_startsField (not_startsField_escape hafter text)).trans ih
      · rw [hb, search_skip_plain (by simpa using hu), ih]

/-- A string value. -/
theorem search_skip_string {after : ByteString} (hafter : EndsValue after) (text : ByteString) :
    search (keyPattern (exactly key.bytes) ++ ps) (34 :: (escape text ++ 34 :: after)) =
      search (keyPattern (exactly key.bytes) ++ ps) after := by
  rw [search_of_not_startsField (not_startsField_escape hafter text),
    search_skip_escape hafter text]
  obtain ⟨w, c, s, rfl, hw, hc⟩ := hafter.exists_spaces
  refine search_skip_mark (head_spaces not_isKeyByte_of_isSpace hw ?_ s)
  rcases hc with rfl | rfl
  · decide
  · decide

end Skip

/-! ## The field itself -/

theorem stringFieldPattern_eq {key : FieldKey} :
    stringFieldPattern (exactly key.bytes) = keyPattern (exactly key.bytes) ++
      (literal "\"" ++ ([.run (· != 34) 1 none false true] ++ literal "\"")) := by
  rw [stringFieldPattern, List.append_assoc, List.append_assoc]

section Match

variable {key : FieldKey} {w w' : ByteString} (hw : ∀ b ∈ w, isSpace b = true)
  (hw' : ∀ b ∈ w', isSpace b = true)

include hw hw'

/-- The key, the colon and the spaces match if the rest, which is no space, does. -/
theorem matchHere_keyPattern {ps : Pattern UInt8} {s : ByteString} {groups : List ByteString}
    (hs : ∀ b ∈ s.head?, isSpace b = false) (h : matchHere ps s = some groups) :
    matchHere (keyPattern (exactly key.bytes) ++ ps)
      (34 :: (key.bytes ++ 34 :: (w ++ 58 :: (w' ++ s)))) = some groups := by
  have hcolon : ∀ b ∈ (58 :: (w' ++ s)).head?, isSpace b = false := by
    rintro b ⟨⟩
    decide
  rw [keyPattern_append]
  refine (matchHere_exactly [34] _ _).trans ?_
  refine (matchHere_exactly key.bytes _ _).trans ?_
  refine (matchHere_exactly [34] _ _).trans ?_
  refine matchHere_run_greedy hw hcolon (Nat.zero_le _) ?_
  refine (matchHere_exactly [58] _ _).trans ?_
  exact matchHere_run_greedy hw' hs (Nat.zero_le _) h

theorem match_stringField {text rest : ByteString} (hne : text ≠ []) (hmark : 34 ∉ text) :
    matchHere (stringFieldPattern (exactly key.bytes))
      (34 :: (key.bytes ++ 34 :: (w ++ 58 :: (w' ++ 34 :: (text ++ 34 :: rest))))) =
        some [text] := by
  rw [stringFieldPattern_eq]
  refine matchHere_keyPattern hw hw' ?_ ?_
  · rintro b ⟨⟩
    decide
  · refine (matchHere_exactly [34] _ _).trans ?_
    refine matchHere_run_greedy (fun b hb => ?_) ?_ (List.length_pos_of_ne_nil hne) ?_
    · exact bne_iff_ne.2 fun heq => hmark (heq ▸ hb)
    · rintro b ⟨⟩
      decide
    · exact matchHere_exactly [34] [] rest

theorem match_intField {digits rest : ByteString} (hne : digits ≠ [])
    (hdigits : ∀ b ∈ digits, isDigit b = true) (hrest : ∀ b ∈ rest.head?, isDigit b = false) :
    matchHere (intFieldPattern (exactly key.bytes))
      (34 :: (key.bytes ++ 34 :: (w ++ 58 :: (w' ++ (digits ++ rest))))) = some [digits] := by
  rw [intFieldPattern]
  refine matchHere_keyPattern hw hw' ?_ ?_
  · intro b hb
    obtain ⟨d, digits, rfl⟩ := List.exists_cons_of_ne_nil hne
    rw [← Option.some.inj hb]
    exact forall_byte (p := fun b => isDigit b = true → isSpace b = false) (by decide +kernel) d
      (hdigits d List.mem_cons_self)
  · exact matchHere_run_greedy hdigits hrest (List.length_pos_of_ne_nil hne) (matchHere_nil rest)

end Match

/-! ## Texts that go on -/

/-- What a match of a string field looks like. -/
theorem exists_of_match_stringField {key : FieldKey} {s : ByteString} {groups : List ByteString}
    (h : matchHere (stringFieldPattern (exactly key.bytes)) s = some groups) :
    ∃ w w' text rest,
      s = 34 :: (key.bytes ++ 34 :: (w ++ 58 :: (w' ++ 34 :: (text ++ 34 :: rest)))) ∧
      (∀ b ∈ w, isSpace b = true) ∧ (∀ b ∈ w', isSpace b = true) ∧ text ≠ [] ∧ 34 ∉ text ∧
      groups = [text] := by
  rw [stringFieldPattern_eq, keyPattern_append] at h
  -- the pattern item by item: mark, key, mark, spaces, colon, spaces, mark, text, mark
  obtain ⟨s₁, hs, h₁⟩ := exists_of_matchHere_exactly h
  obtain ⟨s₂, hs₁, h₂⟩ := exists_of_matchHere_exactly h₁
  obtain ⟨s₃, hs₂, h₃⟩ := exists_of_matchHere_exactly h₂
  obtain ⟨w, s₄, _, hs₃, -, -, hw, h₄, rfl⟩ := exists_of_matchHere h₃
  obtain ⟨s₅, hs₄, h₅⟩ := exists_of_matchHere_exactly h₄
  obtain ⟨w', s₆, _, hs₅, -, -, hw', h₆, rfl⟩ := exists_of_matchHere h₅
  obtain ⟨s₇, hs₆, h₇⟩ := exists_of_matchHere_exactly (l := [34]) h₆
  obtain ⟨text, s₈, none', hs₇, hlen, -, htext, h₈, rfl⟩ := exists_of_matchHere h₇
  have hclose : matchHere (exactly [34] ++ []) s₈ = some none' := h₈
  obtain ⟨rest, hs₈, h₉⟩ := exists_of_matchHere_exactly hclose
  rw [matchHere_nil] at h₉
  refine ⟨w, w', text, rest, by rw [hs, hs₁, hs₂, hs₃, hs₄, hs₅, hs₆, hs₇, hs₈]; rfl, hw, hw',
    List.ne_nil_of_length_pos hlen, fun hmem => absurd (htext 34 hmem) (by decide), ?_⟩
  rw [← Option.some.inj h₉]
  rfl

/-- A field is the text up to the mark that closes its value, the mark, and what follows. -/
theorem field_append (key : FieldKey) (w w' text rest : ByteString) :
    34 :: (key.bytes ++ 34 :: (w ++ 58 :: (w' ++ 34 :: (text ++ 34 :: rest)))) =
      34 :: (key.bytes ++ 34 :: (w ++ 58 :: (w' ++ 34 :: text))) ++ 34 :: rest := by
  simp only [List.cons_append, List.append_assoc]

/-- The text of a field up to the mark that closes its value has three marks. -/
theorem count_mark_field (key : FieldKey) {w w' text : ByteString}
    (hw : ∀ b ∈ w, isSpace b = true) (hw' : ∀ b ∈ w', isSpace b = true) (htext : 34 ∉ text) :
    (34 :: (key.bytes ++ 34 :: (w ++ 58 :: (w' ++ 34 :: text)))).count 34 = 3 := by
  simp only [List.count_cons, List.count_append, List.count_eq_zero_of_not_mem key.mark_not_mem,
    List.count_eq_zero_of_not_mem (mark_not_mem_spaces hw),
    List.count_eq_zero_of_not_mem (mark_not_mem_spaces hw'), List.count_eq_zero_of_not_mem htext]
  rfl

/-- A match needs four marks, so with four of them it does not depend on how the text goes on. -/
theorem match_stringField_append {key : FieldKey} {s more : ByteString} {groups : List ByteString}
    (hmarks : 4 ≤ s.count 34)
    (h : matchHere (stringFieldPattern (exactly key.bytes)) (s ++ more) = some groups) :
    matchHere (stringFieldPattern (exactly key.bytes)) s = some groups := by
  obtain ⟨w, w', text, rest, hs, hw, hw', hne, htext, rfl⟩ := exists_of_match_stringField h
  have hthree := count_mark_field key hw hw' htext
  rw [field_append] at hs
  rcases List.append_eq_append_iff.1 hs with ⟨u, hfield, -⟩ | ⟨u, hpiece, hu⟩
  · -- the text ends inside the field
    rw [hfield, List.count_append] at hthree
    omega
  · cases u with
    | nil =>
        rw [hpiece, List.append_nil] at hmarks
        omega
    | cons b u =>
        rw [hpiece, ← (List.cons.inj hu).1, ← field_append]
        exact match_stringField hw hw' hne htext

theorem count_mark_of_search {key : FieldKey} {s : ByteString} {groups : List ByteString}
    (h : search (stringFieldPattern (exactly key.bytes)) s = some groups) : 4 ≤ s.count 34 := by
  obtain ⟨t, hsuffix, hmatch⟩ := exists_match_of_search h
  obtain ⟨w, w', text, rest, ht, hw, hw', -, htext, -⟩ := exists_of_match_stringField hmatch
  have hcount := count_mark_field key hw hw' htext
  have hle := hsuffix.sublist.count_le (a := 34)
  rw [ht, field_append, List.count_append, hcount, List.count_cons_self] at hle
  omega

/-- A field that is found in a text is found in every text that goes on with it. -/
theorem search_stringField_append {key : FieldKey} {s : ByteString} {groups : List ByteString}
    (h : search (stringFieldPattern (exactly key.bytes)) s = some groups) (more : ByteString) :
    search (stringFieldPattern (exactly key.bytes)) (s ++ more) = some groups := by
  induction s with
  | nil => exact absurd (count_mark_of_search h) (by decide)
  | cons b s ih =>
      cases hmatch : matchHere (stringFieldPattern (exactly key.bytes)) (b :: s) with
      | some found =>
          rw [search_of_match hmatch] at h
          obtain ⟨w, w', text, rest, hs, hw, hw', hne, htext, rfl⟩ :=
            exists_of_match_stringField hmatch
          have hlong : b :: s ++ more =
              34 :: (key.bytes ++ 34 :: (w ++ 58 :: (w' ++ 34 :: (text ++ 34 :: (rest ++ more))))) := by
            rw [hs, field_append, List.append_assoc, field_append]
            rfl
          rw [← h, hlong]
          exact search_of_match (match_stringField hw hw' hne htext)
      | none =>
          rw [search_cons_of_none hmatch] at h
          -- the field further right has four marks, so no match is completed here by what follows
          have hmarks : 4 ≤ (b :: s).count 34 :=
            (count_mark_of_search h).trans (List.count_le_count_cons ..)
          have hnone : matchHere (stringFieldPattern (exactly key.bytes)) (b :: (s ++ more)) =
              none := by
            cases hlong : matchHere (stringFieldPattern (exactly key.bytes)) (b :: (s ++ more)) with
            | none => rfl
            | some found =>
                rw [← List.cons_append] at hlong
                rw [match_stringField_append hmarks hlong] at hmatch
                cases hmatch
          rw [List.cons_append, search_cons_of_none hnone, ih h]

/-- The value of a field that is found in the beginning of a text. -/
theorem stringField_append {key : FieldKey} {s : ByteString}
    (h : stringField s (exactly key.bytes) ≠ []) (more : ByteString) :
    stringField (s ++ more) (exactly key.bytes) = stringField s (exactly key.bytes) := by
  cases hsearch : search (stringFieldPattern (exactly key.bytes)) s with
  | none =>
      rw [stringField, searchGroup, hsearch] at h
      exact absurd rfl h
  | some groups =>
      rw [stringField, searchGroup, search_stringField_append hsearch more, stringField,
        searchGroup, hsearch]

/-! ## Numbers -/

theorem decimal_eq (n : Nat) :
    decimal n = (Nat.toDigits 10 n).map fun ch => UInt8.ofNat ch.toNat := by
  rw [decimal, ascii, Nat.toString_eq_repr, Nat.toList_repr]

theorem toNat_of_isDigit {n : Nat} {ch : Char} (h : ch ∈ Nat.toDigits 10 n) :
    48 ≤ ch.toNat ∧ ch.toNat ≤ 57 ∧ (UInt8.ofNat ch.toNat).toNat = ch.toNat := by
  obtain ⟨hlow, hhigh⟩ := Char.isDigit_iff_toNat.1
    (Nat.isDigit_of_mem_toDigits (by decide) (by decide) h)
  have hnine : ch.toNat ≤ 57 := hhigh
  refine ⟨hlow, hnine, ?_⟩
  rw [UInt8.toNat_ofNat']
  omega

theorem isDigit_of_mem_decimal {n : Nat} {b : UInt8} (h : b ∈ decimal n) : isDigit b = true := by
  rw [decimal_eq] at h
  obtain ⟨ch, hch, rfl⟩ := List.mem_map.1 h
  obtain ⟨hlow, hhigh, hbyte⟩ := toNat_of_isDigit hch
  rw [isDigit, Bool.and_eq_true, decide_eq_true_iff, decide_eq_true_iff, UInt8.le_iff_toNat_le,
    UInt8.le_iff_toNat_le, hbyte]
  exact ⟨hlow, hhigh⟩

theorem decimal_ne_nil (n : Nat) : decimal n ≠ [] := by
  rw [decimal_eq]
  simp

theorem digitsValue_decimal (n : Nat) : digitsValue (decimal n) = n := by
  have hstep : ∀ m, ∀ ch ∈ Nat.toDigits 10 n,
      10 * m + ((UInt8.ofNat ch.toNat).toNat - 48) = 10 * m + (ch.toNat - '0'.toNat) := by
    intro m ch hch
    rw [(toNat_of_isDigit hch).2.2]
    rfl
  rw [decimal_eq, digitsValue, List.foldl_map, List.foldl_ext _ _ 0 hstep,
    ← Nat.ofDigitChars_eq_foldl]
  exact Nat.ofDigitChars_ten_toDigits

theorem decimal_inj {m n : Nat} (h : decimal m = decimal n) : m = n := by
  have hvalue := congrArg digitsValue h
  rwa [digitsValue_decimal, digitsValue_decimal] at hvalue

end DeepKernel.Agent
