import DeepKernel.Lib.OutputStream

/-!
# JSON texts

`escape` is the standard escaping of a string: quotation mark, backslash and control characters, the
latter by their short form if they have one. `decodeObject` reads an object whose members are strings,
numbers or other single words, byte by byte. Both work on UTF-8, in which bytes from 128 on are never
special.

A text that was escaped and put between quotation marks is read back (`readText_escape`).
-/

set_option autoImplicit false

namespace DeepKernel.Lib

/-- A property of bytes is checked on all of them. -/
theorem forall_byte {p : UInt8 → Prop} (h : ∀ n : Fin 256, p (UInt8.ofNat n)) (b : UInt8) : p b := by
  have hb := h ⟨b.toNat, b.toNat_lt⟩
  rwa [UInt8.ofNat_toNat] at hb

/-! ## Escaping -/

/-- An upper-case hexadecimal digit. -/
def hexDigit (n : Nat) : UInt8 := if n < 10 then UInt8.ofNat (48 + n) else UInt8.ofNat (55 + n)

/-- One byte of a string. -/
def escapeByte (b : UInt8) : ByteString :=
  if b = 34 then [92, 34]
  else if b = 92 then [92, 92]
  else if b = 8 then [92, 98]
  else if b = 9 then [92, 116]
  else if b = 10 then [92, 110]
  else if b = 12 then [92, 102]
  else if b = 13 then [92, 114]
  else if b < 32 then [92, 117, 48, 48, hexDigit (b.toNat / 16), hexDigit (b.toNat % 16)]
  else [b]

/-- The text of a string between its quotation marks. -/
def escape (text : ByteString) : ByteString := text.flatMap escapeByte

/-! ## Strings -/

/-- The value of a hexadecimal digit of either case. -/
def hexValue (b : UInt8) : Option Nat :=
  if 48 ≤ b ∧ b ≤ 57 then some (b.toNat - 48)
  else if 65 ≤ b ∧ b ≤ 70 then some (b.toNat - 55)
  else if 97 ≤ b ∧ b ≤ 102 then some (b.toNat - 87)
  else none

/-- The bytes of a code point. -/
def utf8 (n : Nat) : ByteString :=
  if n < 0x80 then [UInt8.ofNat n]
  else if n < 0x800 then [UInt8.ofNat (0xC0 + n / 64), UInt8.ofNat (0x80 + n % 64)]
  else if n < 0x10000 then
    [UInt8.ofNat (0xE0 + n / 4096), UInt8.ofNat (0x80 + n / 64 % 64), UInt8.ofNat (0x80 + n % 64)]
  else
    [UInt8.ofNat (0xF0 + n / 262144), UInt8.ofNat (0x80 + n / 4096 % 64),
      UInt8.ofNat (0x80 + n / 64 % 64), UInt8.ofNat (0x80 + n % 64)]

/-- The byte that a short escape stands for. -/
def shortEscape (b : UInt8) : Option UInt8 :=
  if b = 34 ∨ b = 92 ∨ b = 47 then some b
  else if b = 98 then some 8
  else if b = 116 then some 9
  else if b = 110 then some 10
  else if b = 102 then some 12
  else if b = 114 then some 13
  else none

/-- What is pending inside a string: nothing; a backslash; the digits of a code unit; or a high
surrogate, whose low one may already have begun. -/
inductive TextMode
  | plain
  | backslash (high : Option Nat)
  | unit (high : Option Nat) (value left : Nat)
  | surrogate (high : Nat)
  deriving DecidableEq

/-- A string that is being read. -/
structure TextState where
  text : ByteString
  mode : TextMode
  deriving DecidableEq

/-- A complete code unit, behind a high surrogate if there is one. -/
def codeUnit (text : ByteString) (high : Option Nat) (value : Nat) : Option TextState :=
  match high with
  | none =>
      if 0xD800 ≤ value ∧ value < 0xDC00 then some ⟨text, .surrogate value⟩
      else if 0xDC00 ≤ value ∧ value < 0xE000 then none
      else some ⟨text ++ utf8 value, .plain⟩
  | some h =>
      if 0xDC00 ≤ value ∧ value < 0xE000 then
        some ⟨text ++ utf8 (0x10000 + (h - 0xD800) * 1024 + (value - 0xDC00)), .plain⟩
      else none

/-- One byte inside a string; the mark that closes it is not one. -/
def textByte (s : TextState) (b : UInt8) : Option TextState :=
  match s.mode with
  | .plain =>
      if b = 92 then some ⟨s.text, .backslash none⟩
      else if b = 34 ∨ b < 32 then none
      else some ⟨s.text ++ [b], .plain⟩
  | .backslash none =>
      if b = 117 then some ⟨s.text, .unit none 0 4⟩
      else (shortEscape b).map fun c => ⟨s.text ++ [c], .plain⟩
  | .backslash (some high) => if b = 117 then some ⟨s.text, .unit (some high) 0 4⟩ else none
  | .unit high value left =>
      (hexValue b).bind fun digit =>
        if left ≤ 1 then codeUnit s.text high (16 * value + digit)
        else some ⟨s.text, .unit high (16 * value + digit) (left - 1)⟩
  | .surrogate high => if b = 92 then some ⟨s.text, .backslash (some high)⟩ else none

/-- The bytes between the marks of a string. -/
def readText : TextState → ByteString → Option TextState
  | s, [] => some s
  | s, b :: bytes => (textByte s b).bind fun s' => readText s' bytes

/-- The string that a text between quotation marks stands for. -/
def decodeText (bytes : ByteString) : Option ByteString :=
  ((readText ⟨[], .plain⟩ bytes).filter fun s => s.mode = .plain).map TextState.text

theorem readText_append (s : TextState) (bytes more : ByteString) :
    readText s (bytes ++ more) = (readText s bytes).bind fun s' => readText s' more := by
  induction bytes generalizing s with
  | nil => rfl
  | cons b bytes ih =>
      rw [List.cons_append, readText, readText]
      cases textByte s b with
      | none => rfl
      | some s' => exact ih s'

theorem hexValue_hexDigit {n : Nat} (h : n < 16) : hexValue (hexDigit n) = some n := by
  have hall : ∀ k : Fin 16, hexValue (hexDigit k) = some k := by decide
  exact hall ⟨n, h⟩

theorem readText_escapeByte (text : ByteString) (b : UInt8) :
    readText ⟨text, .plain⟩ (escapeByte b) = some ⟨text ++ [b], .plain⟩ := by
  -- the seven short forms, the form with four digits and a byte that stands for itself
  rw [escapeByte]
  split_ifs with h₁ h₂ h₃ h₄ h₅ h₆ h₇ h₈
  · rw [h₁]; rfl
  · rw [h₂]; rfl
  · rw [h₃]; rfl
  · rw [h₄]; rfl
  · rw [h₅]; rfl
  · rw [h₆]; rfl
  · rw [h₇]; rfl
  · -- a control character without a short form
    have hlt : b.toNat < 32 := h₈
    have hhigh := hexValue_hexDigit (n := b.toNat / 16) (by omega)
    have hlow := hexValue_hexDigit (n := b.toNat % 16) (by omega)
    have hvalue : 16 * (b.toNat / 16) + b.toNat % 16 = b.toNat := Nat.div_add_mod _ _
    have hunit : codeUnit text none b.toNat = some ⟨text ++ [b], .plain⟩ := by
      have hbyte : utf8 b.toNat = [b] := by
        rw [utf8, if_pos (by omega), UInt8.ofNat_toNat]
      rw [codeUnit, if_neg (by omega), if_neg (by omega), hbyte]
    have hzeros : readText ⟨text, .plain⟩ [92, 117, 48, 48] =
        some ⟨text, .unit none 0 2⟩ := rfl
    have hdigits : readText ⟨text, .unit none 0 2⟩
        [hexDigit (b.toNat / 16), hexDigit (b.toNat % 16)] = some ⟨text ++ [b], .plain⟩ := by
      simp [readText, textByte, hhigh, hlow, hvalue, hunit]
    exact (readText_append _ [92, 117, 48, 48] _).trans (by rw [hzeros, Option.bind_some, hdigits])
  · rw [readText, textByte, if_neg h₂, if_neg (not_or.2 ⟨h₁, h₈⟩)]
    rfl

theorem readText_escape (text rest : ByteString) :
    readText ⟨text, .plain⟩ (escape rest) = some ⟨text ++ rest, .plain⟩ := by
  induction rest generalizing text with
  | nil => rw [List.append_nil]; rfl
  | cons b rest ih =>
      have hcons : escape (b :: rest) = escapeByte b ++ escape rest := List.flatMap_cons
      rw [hcons, readText_append, readText_escapeByte, Option.bind_some, ih, List.append_assoc,
        List.singleton_append]

theorem decodeText_escape (text : ByteString) : decodeText (escape text) = some text := by
  rw [decodeText, readText_escape]
  rfl

theorem escape_ne_nil {text : ByteString} (h : text ≠ []) : escape text ≠ [] := by
  intro hnil
  have hdecode := decodeText_escape text
  rw [hnil] at hdecode
  exact h (Option.some.inj hdecode).symm

/-! ## Objects -/

/-- The value of a member: a string, or the word of a number or a constant. -/
inductive JsonValue
  | text (string : ByteString)
  | word (bytes : ByteString)
  deriving DecidableEq

/-- The white space of JSON. -/
def isJsonSpace (b : UInt8) : Bool := b == 32 || b == 9 || b == 10 || b == 13

/-- The bytes of numbers and constants: digits, letters, plus, minus and dot. -/
def isWordByte (b : UInt8) : Bool :=
  (48 ≤ b && b ≤ 57) || (65 ≤ b && b ≤ 90) || (97 ≤ b && b ≤ 122) || b == 43 || b == 45 || b == 46

/-- Where the reader of an object is. -/
inductive ObjectMode
  | start
  | beforeFirst
  | beforeKey
  | inKey (s : TextState)
  | afterKey (key : ByteString)
  | beforeValue (key : ByteString)
  | inText (key : ByteString) (s : TextState)
  | inWord (key bytes : ByteString)
  | afterValue
  | done
  deriving DecidableEq

/-- The members that are complete, and the mode. -/
structure ObjectState where
  members : List (ByteString × JsonValue)
  mode : ObjectMode
  deriving DecidableEq

/-- One byte of an object. -/
def objectByte : ObjectState → UInt8 → Option ObjectState
  | ⟨members, .start⟩, b =>
      if isJsonSpace b then some ⟨members, .start⟩
      else if b = 123 then some ⟨members, .beforeFirst⟩
      else none
  | ⟨members, .beforeFirst⟩, b =>
      if isJsonSpace b then some ⟨members, .beforeFirst⟩
      else if b = 34 then some ⟨members, .inKey ⟨[], .plain⟩⟩
      else if b = 125 then some ⟨members, .done⟩
      else none
  | ⟨members, .beforeKey⟩, b =>
      if isJsonSpace b then some ⟨members, .beforeKey⟩
      else if b = 34 then some ⟨members, .inKey ⟨[], .plain⟩⟩
      else none
  | ⟨members, .inKey s⟩, b =>
      if b = 34 ∧ s.mode = .plain then some ⟨members, .afterKey s.text⟩
      else (textByte s b).map fun s' => ⟨members, .inKey s'⟩
  | ⟨members, .afterKey key⟩, b =>
      if isJsonSpace b then some ⟨members, .afterKey key⟩
      else if b = 58 then some ⟨members, .beforeValue key⟩
      else none
  | ⟨members, .beforeValue key⟩, b =>
      if isJsonSpace b then some ⟨members, .beforeValue key⟩
      else if b = 34 then some ⟨members, .inText key ⟨[], .plain⟩⟩
      else if isWordByte b then some ⟨members, .inWord key [b]⟩
      else none
  | ⟨members, .inText key s⟩, b =>
      if b = 34 ∧ s.mode = .plain then some ⟨members ++ [(key, .text s.text)], .afterValue⟩
      else (textByte s b).map fun s' => ⟨members, .inText key s'⟩
  | ⟨members, .inWord key bytes⟩, b =>
      -- a word ends at the first byte that is not part of it
      if isWordByte b then some ⟨members, .inWord key (bytes ++ [b])⟩
      else if isJsonSpace b then some ⟨members ++ [(key, .word bytes)], .afterValue⟩
      else if b = 44 then some ⟨members ++ [(key, .word bytes)], .beforeKey⟩
      else if b = 125 then some ⟨members ++ [(key, .word bytes)], .done⟩
      else none
  | ⟨members, .afterValue⟩, b =>
      if isJsonSpace b then some ⟨members, .afterValue⟩
      else if b = 44 then some ⟨members, .beforeKey⟩
      else if b = 125 then some ⟨members, .done⟩
      else none
  | ⟨members, .done⟩, b => if isJsonSpace b then some ⟨members, .done⟩ else none

def readObject : ObjectState → ByteString → Option ObjectState
  | s, [] => some s
  | s, b :: bytes => (objectByte s b).bind fun s' => readObject s' bytes

/-- The members of the object that a text stands for. -/
def decodeObject (bytes : ByteString) : Option (List (ByteString × JsonValue)) :=
  ((readObject ⟨[], .start⟩ bytes).filter fun s => s.mode = .done).map ObjectState.members

theorem readObject_append (s : ObjectState) (bytes more : ByteString) :
    readObject s (bytes ++ more) = (readObject s bytes).bind fun s' => readObject s' more := by
  induction bytes generalizing s with
  | nil => rfl
  | cons b bytes ih =>
      rw [List.cons_append, readObject, readObject]
      cases objectByte s b with
      | none => rfl
      | some s' => exact ih s'

theorem readObject_trans {s t u : ObjectState} {bytes more : ByteString}
    (h : readObject s bytes = some t) (hmore : readObject t more = some u) :
    readObject s (bytes ++ more) = some u := by
  rw [readObject_append, h]
  exact hmore

/-- Inside a string value the object's reader is that of the string. -/
theorem readObject_inText (members : List (ByteString × JsonValue)) (key : ByteString)
    {bytes : ByteString} {s s' : TextState} (h : readText s bytes = some s') :
    readObject ⟨members, .inText key s⟩ bytes = some ⟨members, .inText key s'⟩ := by
  induction bytes generalizing s with
  | nil =>
      cases h
      rfl
  | cons b bytes ih =>
      obtain ⟨t, hbyte, hrest⟩ := Option.bind_eq_some_iff.1 h
      have hopen : ¬ (b = 34 ∧ s.mode = .plain) := by
        rintro ⟨rfl, hmode⟩
        rw [textByte, hmode] at hbyte
        cases hbyte
      rw [readObject, objectByte, if_neg hopen, hbyte, Option.map_some, Option.bind_some]
      exact ih hrest

theorem readObject_inWord (members : List (ByteString × JsonValue)) (key : ByteString)
    {bytes : ByteString} (word : ByteString) (h : ∀ b ∈ bytes, isWordByte b = true) :
    readObject ⟨members, .inWord key word⟩ bytes = some ⟨members, .inWord key (word ++ bytes)⟩ := by
  induction bytes generalizing word with
  | nil => rw [List.append_nil]; rfl
  | cons b bytes ih =>
      rw [readObject, objectByte, if_pos (h b List.mem_cons_self), Option.bind_some,
        ih _ fun c hc => h c (List.mem_cons_of_mem _ hc), List.append_assoc, List.singleton_append]

/-- A word that is not empty, behind the colon. -/
theorem readObject_beforeValue (members : List (ByteString × JsonValue)) (key : ByteString)
    {bytes : ByteString} (hne : bytes ≠ []) (h : ∀ b ∈ bytes, isWordByte b = true) :
    readObject ⟨members, .beforeValue key⟩ bytes = some ⟨members, .inWord key bytes⟩ := by
  cases bytes with
  | nil => exact absurd rfl hne
  | cons b bytes =>
      have hb := h b List.mem_cons_self
      have hspace : isJsonSpace b = false := by
        refine eq_false_of_ne_true fun hs => ?_
        simp only [isJsonSpace, Bool.or_eq_true, beq_iff_eq] at hs
        rcases hs with ((rfl | rfl) | rfl) | rfl
        all_goals exact absurd hb (by decide)
      have hmark : b ≠ 34 := by
        rintro rfl
        cases hb
      rw [readObject, objectByte, if_neg (ne_true_of_eq_false hspace), if_neg hmark, if_pos hb,
        Option.bind_some, readObject_inWord _ _ _ fun c hc => h c (List.mem_cons_of_mem _ hc)]
      rfl

end DeepKernel.Lib
