import DeepKernel.Lib.JsonText
import Mathlib.Data.List.TakeWhile

/-!
# Reading JSON

A reader of JSON texts of any depth: one byte at a time, with a stack of the arrays and objects that
are open. Numbers and constants are checked when they end. Strings are read as in `JsonText`.
-/

set_option autoImplicit false

namespace DeepKernel.Lib

/-- A JSON value. A number keeps its digits. -/
inductive JsonTree
  | null
  | boolean (value : Bool)
  | number (bytes : ByteString)
  | text (string : ByteString)
  | array (items : List JsonTree)
  | object (members : List (ByteString × JsonTree))

/-! ## Numbers and constants -/

/-- A decimal digit. -/
def isNumberDigit (b : UInt8) : Bool := 48 ≤ b && b ≤ 57

/-- What follows the digits at the front of a text, of which there must be some. -/
def dropDigits (bytes : ByteString) : Option ByteString :=
  if (bytes.takeWhile isNumberDigit).isEmpty then none else some (bytes.dropWhile isNumberDigit)

/-- What follows the integer part of a number, which has no leading zeros. -/
def dropInteger : ByteString → Option ByteString
  | 48 :: bytes => some bytes
  | bytes => dropDigits bytes

/-- What follows a fraction, if there is one. -/
def dropFraction : ByteString → Option ByteString
  | 46 :: bytes => dropDigits bytes
  | bytes => some bytes

/-- What follows an exponent, if there is one. -/
def dropExponent : ByteString → Option ByteString
  | b :: bytes =>
      if b = 69 ∨ b = 101 then
        match bytes with
        | 43 :: rest => dropDigits rest
        | 45 :: rest => dropDigits rest
        | rest => dropDigits rest
      else some (b :: bytes)
  | [] => some []

/-- The bytes are those of a number. -/
def isNumber (bytes : ByteString) : Bool :=
  let unsigned := if bytes.head? = some 45 then bytes.tail else bytes
  ((dropInteger unsigned).bind fun rest => (dropFraction rest).bind dropExponent) == some []

/-- The value of a word. -/
def wordTree (bytes : ByteString) : Option JsonTree :=
  if bytes = [110, 117, 108, 108] then some .null
  else if bytes = [116, 114, 117, 101] then some (.boolean true)
  else if bytes = [102, 97, 108, 115, 101] then some (.boolean false)
  else if isNumber bytes then some (.number bytes)
  else none

/-! ## The reader -/

/-- What is open: an array with its items, an object with its members, and an object that waits for
the value of a key. -/
inductive JsonFrame
  | array (items : List JsonTree)
  | object (members : List (ByteString × JsonTree))
  | member (members : List (ByteString × JsonTree)) (key : ByteString)

/-- Where the reader is. -/
inductive TreeMode
  | value
  | firstItem
  | firstKey
  | key
  | inKey (s : TextState)
  | afterKey (key : ByteString)
  | inText (s : TextState)
  | inWord (bytes : ByteString)
  | afterValue
  | done (tree : JsonTree)

structure TreeState where
  stack : List JsonFrame
  mode : TreeMode

/-- A value is complete. -/
def closeValue (tree : JsonTree) : List JsonFrame → Option TreeState
  | [] => some ⟨[], .done tree⟩
  | .array items :: stack => some ⟨.array (items ++ [tree]) :: stack, .afterValue⟩
  | .member members key :: stack => some ⟨.object (members ++ [(key, tree)]) :: stack, .afterValue⟩
  | .object _ :: _ => none

/-- A byte at which a value begins. -/
def openValue (stack : List JsonFrame) (b : UInt8) : Option TreeState :=
  if b = 34 then some ⟨stack, .inText ⟨[], .plain⟩⟩
  else if b = 91 then some ⟨.array [] :: stack, .firstItem⟩
  else if b = 123 then some ⟨.object [] :: stack, .firstKey⟩
  else if isWordByte b then some ⟨stack, .inWord [b]⟩
  else none

/-- A byte behind a value: a comma, or the end of what is open. -/
def afterValueByte (stack : List JsonFrame) (b : UInt8) : Option TreeState :=
  match stack with
  | .array items :: rest =>
      if b = 44 then some ⟨stack, .value⟩
      else if b = 93 then closeValue (.array items) rest
      else none
  | .object members :: rest =>
      if b = 44 then some ⟨stack, .key⟩
      else if b = 125 then closeValue (.object members) rest
      else none
  | _ => none

/-- One byte of a JSON text. -/
def treeByte : TreeState → UInt8 → Option TreeState
  | ⟨stack, .value⟩, b =>
      if isJsonSpace b then some ⟨stack, .value⟩ else openValue stack b
  | ⟨stack, .firstItem⟩, b =>
      if isJsonSpace b then some ⟨stack, .firstItem⟩
      else if b = 93 then afterValueByte stack b
      else openValue stack b
  | ⟨stack, .firstKey⟩, b =>
      if isJsonSpace b then some ⟨stack, .firstKey⟩
      else if b = 34 then some ⟨stack, .inKey ⟨[], .plain⟩⟩
      else if b = 125 then afterValueByte stack b
      else none
  | ⟨stack, .key⟩, b =>
      if isJsonSpace b then some ⟨stack, .key⟩
      else if b = 34 then some ⟨stack, .inKey ⟨[], .plain⟩⟩
      else none
  | ⟨stack, .inKey s⟩, b =>
      if b = 34 ∧ s.mode = .plain then some ⟨stack, .afterKey s.text⟩
      else (textByte s b).map fun s' => ⟨stack, .inKey s'⟩
  | ⟨stack, .afterKey key⟩, b =>
      if isJsonSpace b then some ⟨stack, .afterKey key⟩
      else if b = 58 then
        match stack with
        | .object members :: rest => some ⟨.member members key :: rest, .value⟩
        | _ => none
      else none
  | ⟨stack, .inText s⟩, b =>
      if b = 34 ∧ s.mode = .plain then closeValue (.text s.text) stack
      else (textByte s b).map fun s' => ⟨stack, .inText s'⟩
  | ⟨stack, .inWord bytes⟩, b =>
      if isWordByte b then some ⟨stack, .inWord (bytes ++ [b])⟩
      else
        -- the byte behind a word belongs to what is around it
        ((wordTree bytes).bind fun tree => closeValue tree stack).bind fun s =>
          if isJsonSpace b then some s else afterValueByte s.stack b
  | ⟨stack, .afterValue⟩, b =>
      if isJsonSpace b then some ⟨stack, .afterValue⟩ else afterValueByte stack b
  | ⟨stack, .done tree⟩, b => if isJsonSpace b then some ⟨stack, .done tree⟩ else none

def readTree : TreeState → ByteString → Option TreeState
  | s, [] => some s
  | s, b :: bytes => (treeByte s b).bind fun s' => readTree s' bytes

/-- The value at the end of a text: a word may still be open. -/
def finishTree : TreeState → Option JsonTree
  | ⟨[], .done tree⟩ => some tree
  | ⟨[], .inWord bytes⟩ => wordTree bytes
  | _ => none

/-- The value that a text stands for. -/
def decodeTree (bytes : ByteString) : Option JsonTree :=
  (readTree ⟨[], .value⟩ bytes).bind finishTree

/-! ## Pieces of a text -/

theorem readTree_append (s : TreeState) (bytes more : ByteString) :
    readTree s (bytes ++ more) = (readTree s bytes).bind fun s' => readTree s' more := by
  induction bytes generalizing s with
  | nil => rfl
  | cons b bytes ih =>
      rw [List.cons_append, readTree, readTree]
      cases treeByte s b with
      | none => rfl
      | some s' => exact ih s'

theorem readTree_trans {s t u : TreeState} {bytes more : ByteString}
    (h : readTree s bytes = some t) (hmore : readTree t more = some u) :
    readTree s (bytes ++ more) = some u := by
  rw [readTree_append, h]
  exact hmore

/-- A text in which nothing is escaped. -/
theorem readTree_inText (stack : List JsonFrame) (text : ByteString) {bytes : ByteString}
    (h : ∀ b ∈ bytes, b ≠ 34 ∧ b ≠ 92 ∧ 32 ≤ b) :
    readTree ⟨stack, .inText ⟨text, .plain⟩⟩ bytes =
      some ⟨stack, .inText ⟨text ++ bytes, .plain⟩⟩ := by
  induction bytes generalizing text with
  | nil => rw [List.append_nil]; rfl
  | cons b bytes ih =>
      obtain ⟨hmark, hslash, hcontrol⟩ := h b List.mem_cons_self
      have hbyte : textByte ⟨text, .plain⟩ b = some ⟨text ++ [b], .plain⟩ := by
        rw [textByte]
        simp only [if_neg hslash]
        exact if_neg (not_or.2 ⟨hmark, UInt8.not_lt.2 hcontrol⟩)
      rw [readTree, treeByte, if_neg fun hb => hmark hb.1, hbyte, Option.map_some, Option.bind_some,
        ih _ fun c hc => h c (List.mem_cons_of_mem _ hc), List.append_assoc, List.singleton_append]

theorem readTree_inWord (stack : List JsonFrame) (word : ByteString) {bytes : ByteString}
    (h : ∀ b ∈ bytes, isWordByte b = true) :
    readTree ⟨stack, .inWord word⟩ bytes = some ⟨stack, .inWord (word ++ bytes)⟩ := by
  induction bytes generalizing word with
  | nil => rw [List.append_nil]; rfl
  | cons b bytes ih =>
      rw [readTree, treeByte, if_pos (h b List.mem_cons_self), Option.bind_some,
        ih _ fun c hc => h c (List.mem_cons_of_mem _ hc), List.append_assoc, List.singleton_append]

/-- A number where a value is expected. -/
theorem readTree_digits (stack : List JsonFrame) {digits : ByteString} (hne : digits ≠ [])
    (h : ∀ b ∈ digits, isNumberDigit b = true) :
    readTree ⟨stack, .value⟩ digits = some ⟨stack, .inWord digits⟩ := by
  have hclass : ∀ b, isNumberDigit b = true →
      isWordByte b = true ∧ isJsonSpace b = false ∧ b ≠ 34 ∧ b ≠ 91 ∧ b ≠ 123 :=
    forall_byte (p := fun b => isNumberDigit b = true →
      isWordByte b = true ∧ isJsonSpace b = false ∧ b ≠ 34 ∧ b ≠ 91 ∧ b ≠ 123) (by decide +kernel)
  cases digits with
  | nil => exact absurd rfl hne
  | cons b digits =>
      obtain ⟨hword, hspace, hmark, hbracket, hbrace⟩ := hclass b (h b List.mem_cons_self)
      have hrest : ∀ c ∈ digits, isWordByte c = true :=
        fun c hc => (hclass c (h c (List.mem_cons_of_mem _ hc))).1
      rw [readTree, treeByte, if_neg (ne_true_of_eq_false hspace), openValue, if_neg hmark,
        if_neg hbracket, if_neg hbrace, if_pos hword, Option.bind_some,
        readTree_inWord _ _ hrest]
      rfl

/-- Digits without a leading zero are a number. -/
theorem isNumber_digits {b : UInt8} {digits : ByteString}
    (h : ∀ c ∈ b :: digits, isNumberDigit c = true) (hzero : b = 48 → digits = []) :
    isNumber (b :: digits) = true := by
  have hsign : (b :: digits).head? ≠ some 45 := by
    intro heq
    have hb := h b List.mem_cons_self
    rw [Option.some.inj heq] at hb
    cases hb
  -- a zero in front has to stand alone
  have hinteger : dropInteger (b :: digits) = some [] := by
    by_cases hb : b = 48
    · rw [hb, hzero hb]
      rfl
    · have hdrop : dropInteger (b :: digits) = dropDigits (b :: digits) := by
        unfold dropInteger
        split
        · rename_i heq
          exact absurd (List.cons.inj heq).1 hb
        · rfl
      rw [hdrop, dropDigits, List.takeWhile_cons_of_pos (h b List.mem_cons_self),
        List.dropWhile_eq_nil_iff.2 h]
      rfl
  rw [isNumber]
  simp only [if_neg hsign, hinteger]
  rfl

end DeepKernel.Lib
