import DeepKernel.Lib.OutputStream
import Mathlib.Data.List.TakeWhile

/-!
# Words of a shell command

How a POSIX shell reads a command that has unquoted words, words in double quotes and redirections at
its end. The reader is a state machine over the bytes. It stops (`none`) at everything that makes the
shell do more than put words together: expansions, operators other than `>`, patterns, single quotes
and backslashes outside double quotes.

Inside double quotes the shell leaves a byte alone unless it is one of four, and a backslash before
any of these or a line feed. `isLiteral` says that a text has no such place. Texts that are put between
double quotes are read back exactly if they are literal (`readQuotedWords_iff`): every byte that is
read comes from a byte other than a quotation mark, so no text can be shortened by one reading and
lengthened by another.
-/

set_option autoImplicit false

namespace DeepKernel.Lib

/-! ## The reader -/

/-- Space and tab. -/
def isBlank (b : UInt8) : Bool := b == 32 || b == 9

/-- The bytes that need quoting: NUL, tab, line feed, space and the punctuation `!"#$&'()*;<>?[\`, the
backtick, the braces, the bar and the tilde. -/
def needsQuoting (b : UInt8) : Bool :=
  [0, 9, 10, 32, 33, 34, 35, 36, 38, 39, 40, 41, 42, 59, 60, 62, 63, 91, 92, 96, 123, 124, 125,
    126].contains b

/-- The bytes before which a backslash is special inside double quotes: `$`, the backtick, the
quotation mark, the backslash and the line feed. -/
def isActive (b : UInt8) : Bool := b == 36 || b == 96 || b == 34 || b == 92 || b == 10

/-- Where the reader is: between words, in a word, inside double quotes, behind a backslash there, or
behind the first redirection. -/
inductive ReaderMode
  | between
  | word (text : ByteString)
  | quoted (text : ByteString)
  | escaped (text : ByteString)
  | redirected (tail : ByteString)
  deriving DecidableEq

/-- The words that are complete, and the mode. -/
structure ReaderState where
  words : List ByteString
  mode : ReaderMode
  deriving DecidableEq

/-- One byte of the command. -/
def readByte : ReaderState → UInt8 → Option ReaderState
  | ⟨words, .between⟩, b =>
      if isBlank b then some ⟨words, .between⟩
      else if b = 62 then some ⟨words, .redirected [b]⟩
      else if b = 34 then some ⟨words, .quoted []⟩
      else if needsQuoting b then none
      else some ⟨words, .word [b]⟩
  | ⟨words, .word text⟩, b =>
      if isBlank b then some ⟨words ++ [text], .between⟩
      else if b = 62 then
        -- digits right before the operator would be a file descriptor
        if text.all fun d => 48 ≤ d && d ≤ 57 then none
        else some ⟨words ++ [text], .redirected [b]⟩
      else if b = 34 then some ⟨words, .quoted text⟩
      else if needsQuoting b then none
      else some ⟨words, .word (text ++ [b])⟩
  | ⟨words, .quoted text⟩, b =>
      if b = 34 then some ⟨words, .word text⟩
      else if b = 36 ∨ b = 96 then none
      else if b = 92 then some ⟨words, .escaped text⟩
      else some ⟨words, .quoted (text ++ [b])⟩
  | ⟨words, .escaped text⟩, b =>
      if b = 10 then some ⟨words, .quoted text⟩
      else if isActive b then some ⟨words, .quoted (text ++ [b])⟩
      else some ⟨words, .quoted (text ++ [92, b])⟩
  | ⟨words, .redirected tail⟩, b => some ⟨words, .redirected (tail ++ [b])⟩

/-- All bytes of a text. -/
def readBytes : ReaderState → ByteString → Option ReaderState
  | s, [] => some s
  | s, b :: text => (readByte s b).bind fun s' => readBytes s' text

/-- The words of the command and the text of its redirections. -/
def ReaderState.finish : ReaderState → Option (List ByteString × ByteString)
  | ⟨words, .between⟩ => some (words, [])
  | ⟨words, .word text⟩ => some (words ++ [text], [])
  | ⟨_, .quoted _⟩ => none
  | ⟨_, .escaped _⟩ => none
  | ⟨words, .redirected tail⟩ => some (words, tail)

/-- What a C string keeps of a text. -/
def cString (text : ByteString) : ByteString := text.takeWhile (· != 0)

/-- How the shell reads a command. A first word with an equals sign would be an assignment. -/
def readCommand (command : ByteString) : Option (List ByteString × ByteString) :=
  ((readBytes ⟨[], .between⟩ (cString command)).bind ReaderState.finish).filter fun r =>
    !(r.1.headD []).contains 61

/-! ## Literal texts -/

/-- The shell leaves every byte of the text alone between double quotes. -/
def isLiteral : ByteString → Bool
  | [] => true
  | b :: rest =>
      b != 0 && b != 34 && b != 36 && b != 96 && (b != 92 || !isActive (rest.headD 34)) &&
        isLiteral rest

theorem isLiteral_cons {b : UInt8} {rest : ByteString} :
    isLiteral (b :: rest) = true ↔ b ≠ 0 ∧ b ≠ 34 ∧ b ≠ 36 ∧ b ≠ 96 ∧
      (b = 92 → isActive (rest.headD 34) = false) ∧ isLiteral rest = true := by
  simp [isLiteral, and_assoc, imp_iff_not_or]

theorem isLiteral_append {text rest : ByteString} (h : isLiteral text = true)
    (h' : isLiteral rest = true) : isLiteral (text ++ rest) = true := by
  induction text with
  | nil => exact h'
  | cons b text ih =>
      obtain ⟨hnul, hmark, hdollar, htick, hslash, htext⟩ := isLiteral_cons.1 h
      refine isLiteral_cons.2 ⟨hnul, hmark, hdollar, htick, fun hb => ?_, ih htext⟩
      -- a literal text does not end with a backslash
      cases text with
      | nil => exact absurd (hslash hb) (by decide)
      | cons b' text => exact hslash hb

theorem readBytes_append (s : ReaderState) (text rest : ByteString) :
    readBytes s (text ++ rest) = (readBytes s text).bind fun s' => readBytes s' rest := by
  induction text generalizing s with
  | nil => rfl
  | cons b text ih =>
      rw [List.cons_append, readBytes, readBytes]
      cases readByte s b with
      | none => rfl
      | some s' => exact ih s'

/-! ## Where the bytes of words come from -/

/-- The number of bytes that are not quotation marks. -/
def weigh (text : ByteString) : Nat := text.countP (· != 34)

@[simp] theorem weigh_nil : weigh [] = 0 := rfl

@[simp] theorem weigh_append (text rest : ByteString) :
    weigh (text ++ rest) = weigh text + weigh rest := List.countP_append

theorem weigh_cons (b : UInt8) (text : ByteString) :
    weigh (b :: text) = weigh [b] + weigh text := weigh_append [b] text

theorem weigh_le_one (b : UInt8) : weigh [b] ≤ 1 := List.countP_le_length

theorem weigh_of_ne {b : UInt8} (h : b ≠ 34) : weigh [b] = 1 := by
  simp [weigh, h]

theorem weigh_le_length (text : ByteString) : weigh text ≤ text.length := List.countP_le_length

theorem weigh_eq_length {text : ByteString} (h : 34 ∉ text) : weigh text = text.length := by
  refine List.countP_eq_length.2 fun b hb => ?_
  exact bne_iff_ne.2 fun heq => h (heq ▸ hb)

theorem not_mem_of_length_le_weigh {text : ByteString} (h : text.length ≤ weigh text) :
    34 ∉ text := by
  intro hmem
  have hall := List.countP_eq_length.1 (le_antisymm (weigh_le_length text) h)
  exact absurd rfl (bne_iff_ne.1 (hall 34 hmem))

/-- What a state has read, with texts measured by `c`: a complete word counts one more for the blank
behind it, and a backslash that waits for the next byte counts for one. -/
def ReaderState.measure (c : ByteString → Nat) (s : ReaderState) : Nat :=
  (s.words.map fun w => c w + 1).sum +
    match s.mode with
    | .between => 0
    | .word text => c text
    | .quoted text => c text
    | .escaped text => c text + 1
    | .redirected _ => 0

section Measure

variable {c : ByteString → Nat} (hnil : c [] = 0) (happ : ∀ u v, c (u ++ v) = c u + c v)
  (hone : ∀ b, c [b] ≤ 1)

include hnil happ hone in
/-- A byte that is read adds at most one, and a quotation mark adds nothing. -/
theorem measure_readByte_le {s s' : ReaderState} {b : UInt8} (h : readByte s b = some s') :
    s'.measure c ≤ s.measure c + weigh [b] := by
  -- One case for each mode of the reader. A byte that goes into the text counts once, and one that
  -- only moves the mode counts nothing.
  have hb := hone b
  obtain ⟨words, mode⟩ := s
  cases mode with
  | between =>
      rw [readByte] at h
      split_ifs at h with h₁ h₂ h₃ h₄
      · cases h; exact Nat.le_add_right _ _
      · cases h; exact Nat.le_add_right _ _
      · cases h; simp [ReaderState.measure, hnil]
      · cases h
        have hw := weigh_of_ne h₃
        simp only [ReaderState.measure]
        omega
  | word text =>
      rw [readByte] at h
      split_ifs at h with h₁ h₂ h₃ h₄ h₅
      · cases h
        have hw := weigh_of_ne (b := b) (by rintro rfl; cases h₁)
        simp only [ReaderState.measure, List.map_append, List.sum_append, List.map_cons,
          List.map_nil, List.sum_singleton]
        omega
      · cases h
        have hw := weigh_of_ne (b := b) (by rintro rfl; cases h₂)
        simp only [ReaderState.measure, List.map_append, List.sum_append, List.map_cons,
          List.map_nil, List.sum_singleton]
        omega
      · cases h; exact Nat.le_add_right _ _
      · cases h
        have hw := weigh_of_ne h₄
        simp only [ReaderState.measure, happ]
        omega
  | quoted text =>
      rw [readByte] at h
      split_ifs at h with h₁ h₂ h₃
      · cases h; exact Nat.le_add_right _ _
      · cases h
        have hw := weigh_of_ne h₁
        simp only [ReaderState.measure]
        omega
      · cases h
        have hw := weigh_of_ne h₁
        simp only [ReaderState.measure, happ]
        omega
  | escaped text =>
      rw [readByte] at h
      split_ifs at h with h₁ h₂
      · cases h
        simp only [ReaderState.measure]
        omega
      · cases h
        simp only [ReaderState.measure, happ]
        omega
      · cases h
        have hw := weigh_of_ne (b := b) (by rintro rfl; exact h₂ rfl)
        -- the backslash stays in the text, in front of a byte that it does not escape
        have hpair : c [92, b] = c [92] + c [b] := happ [92] [b]
        have hslash := hone 92
        simp only [ReaderState.measure, happ, hpair]
        omega
  | redirected tail =>
      cases h
      exact Nat.le_add_right _ _

include hnil happ hone in
theorem measure_readBytes_le {s s' : ReaderState} {text : ByteString}
    (h : readBytes s text = some s') : s'.measure c ≤ s.measure c + weigh text := by
  induction text generalizing s with
  | nil =>
      cases h
      exact le_refl _
  | cons b text ih =>
      obtain ⟨t, hbyte, hrest⟩ := Option.bind_eq_some_iff.1 h
      have hstep := measure_readByte_le hnil happ hone hbyte
      have hrun := ih hrest
      rw [weigh_cons]
      omega

end Measure

/-! ## Texts between double quotes -/

theorem readByte_quoted {words : List ByteString} {text : ByteString} {b : UInt8} (hmark : b ≠ 34)
    (hdollar : b ≠ 36) (htick : b ≠ 96) :
    readByte ⟨words, .quoted text⟩ b =
      if b = 92 then some ⟨words, .escaped text⟩ else some ⟨words, .quoted (text ++ [b])⟩ := by
  rw [readByte, if_neg hmark, if_neg (not_or.2 ⟨hdollar, htick⟩)]

theorem readByte_escaped {words : List ByteString} {text : ByteString} {b : UInt8}
    (h : isActive b = false) :
    readByte ⟨words, .escaped text⟩ b = some ⟨words, .quoted (text ++ [92, b])⟩ := by
  have hfeed : b ≠ 10 := by
    rintro rfl
    cases h
  rw [readByte, if_neg hfeed, if_neg (ne_true_of_eq_false h)]

/-- A literal text up to the closing mark, from inside the quotes and from behind a backslash. -/
theorem readBytes_literal {text : ByteString} (h : isLiteral text = true) :
    (∀ words w, readBytes ⟨words, .quoted w⟩ (text ++ [34]) = some ⟨words, .word (w ++ text)⟩) ∧
      (isActive (text.headD 34) = false → ∀ words w,
        readBytes ⟨words, .escaped w⟩ (text ++ [34]) = some ⟨words, .word (w ++ 92 :: text)⟩) := by
  -- Both modes at once: a backslash leads into the escaped mode, and the byte behind it, which is not
  -- active, leads back.
  induction text with
  | nil =>
      refine ⟨fun words w => ?_, fun hactive => by cases hactive⟩
      rw [List.append_nil]
      rfl
  | cons b rest ih =>
      obtain ⟨-, hmark, hdollar, htick, hslash, hrest⟩ := isLiteral_cons.1 h
      obtain ⟨ihquoted, ihescaped⟩ := ih hrest
      refine ⟨fun words w => ?_, fun hactive words w => ?_⟩
      · rw [List.cons_append, readBytes, readByte_quoted hmark hdollar htick]
        by_cases hb : b = 92
        · rw [if_pos hb, Option.bind_some, ihescaped (hslash hb), hb]
        · rw [if_neg hb, Option.bind_some, ihquoted, List.append_assoc, List.singleton_append]
      · have hb : isActive b = false := hactive
        rw [List.cons_append, readBytes, readByte_escaped hb, Option.bind_some, ihquoted,
          List.append_assoc]
        rfl

/-- Conversely, a text without quotation marks that is read without losing a byte is literal, apart
from NUL. -/
theorem literal_of_tight {text : ByteString} (hmark : 34 ∉ text) (hzero : 0 ∉ text) :
    (∀ words w s, readBytes ⟨words, .quoted w⟩ (text ++ [34]) = some s →
      ReaderState.measure weigh ⟨words, .quoted w⟩ + text.length ≤ s.measure weigh →
      isLiteral text = true) ∧
    (∀ words w s, readBytes ⟨words, .escaped w⟩ (text ++ [34]) = some s →
      ReaderState.measure weigh ⟨words, .escaped w⟩ + text.length ≤ s.measure weigh →
      isActive (text.headD 34) = false ∧ isLiteral text = true) := by
  induction text with
  | nil =>
      refine ⟨fun _ _ _ _ _ => rfl, fun words w s hread htight => ?_⟩
      -- a backslash in front of the closing mark is lost
      cases hread
      simp [ReaderState.measure, weigh] at htight
  | cons b rest ih =>
      have hb : b ≠ 34 := fun h => hmark (h ▸ List.mem_cons_self)
      have hb₀ : b ≠ 0 := fun h => hzero (h ▸ List.mem_cons_self)
      obtain ⟨ihquoted, ihescaped⟩ := ih (fun h => hmark (List.mem_cons_of_mem _ h))
        (fun h => hzero (List.mem_cons_of_mem _ h))
      have hweigh : weigh (rest ++ [34]) ≤ rest.length := by
        rw [weigh_append]
        exact weigh_le_length rest
      refine ⟨fun words w s hread htight => ?_, fun words w s hread htight => ?_⟩
      · obtain ⟨t, hbyte, hrest⟩ := Option.bind_eq_some_iff.1 hread
        have hdollar : b ≠ 36 := by
          rintro rfl
          cases hbyte
        have htick : b ≠ 96 := by
          rintro rfl
          cases hbyte
        rw [readByte_quoted hb hdollar htick] at hbyte
        by_cases hslash : b = 92
        · rw [if_pos hslash] at hbyte
          cases hbyte
          obtain ⟨hactive, hliteral⟩ := ihescaped words w s hrest (by
            simp only [ReaderState.measure, List.length_cons] at htight ⊢
            omega)
          exact isLiteral_cons.2 ⟨hb₀, hb, hdollar, htick, fun _ => hactive, hliteral⟩
        · rw [if_neg hslash] at hbyte
          cases hbyte
          have hliteral := ihquoted words (w ++ [b]) s hrest (by
            have hone := weigh_of_ne hb
            simp only [ReaderState.measure, weigh_append, List.length_cons] at htight ⊢
            omega)
          exact isLiteral_cons.2 ⟨hb₀, hb, hdollar, htick, fun h => absurd h hslash, hliteral⟩
      · obtain ⟨t, hbyte, hrest⟩ := Option.bind_eq_some_iff.1 hread
        have hbound : s.measure weigh ≤ t.measure weigh + weigh (rest ++ [34]) :=
          measure_readBytes_le weigh_nil weigh_append weigh_le_one hrest
        by_cases hactive : isActive b = true
        · -- the backslash is lost
          exfalso
          rw [readByte] at hbyte
          have hone := weigh_of_ne hb
          split_ifs at hbyte
          · cases hbyte
            simp only [ReaderState.measure, List.length_cons] at htight hbound
            omega
          · cases hbyte
            have hadd := weigh_append w [b]
            simp only [ReaderState.measure, List.length_cons] at htight hbound
            omega
        · have hinactive := eq_false_of_ne_true hactive
          rw [readByte_escaped hinactive] at hbyte
          cases hbyte
          have hliteral := ihquoted words (w ++ [92, b]) s hrest (by
            have hone := weigh_of_ne hb
            have hpair : weigh [92, b] = 1 + weigh [b] := weigh_cons 92 [b]
            simp only [ReaderState.measure, weigh_append, hpair, List.length_cons] at htight ⊢
            omega)
          have hparts : b ≠ 36 ∧ b ≠ 96 ∧ b ≠ 34 ∧ b ≠ 92 ∧ b ≠ 10 := by
            simpa [isActive, and_assoc] using hinactive
          exact ⟨hinactive, isLiteral_cons.2 ⟨hb₀, hb, hparts.1, hparts.2.1,
            fun h => absurd h hparts.2.2.2.1, hliteral⟩⟩

/-! ## Several quoted words -/

/-- Texts with a closing mark, a blank and an opening mark between them. -/
def joinQuoted (first : ByteString) (rest : List ByteString) : ByteString :=
  first ++ rest.flatMap fun text => 34 :: 32 :: 34 :: text

theorem joinQuoted_cons (first text : ByteString) (rest : List ByteString) :
    joinQuoted first (text :: rest) = first ++ [34] ++ [32, 34] ++ joinQuoted text rest := by
  simp [joinQuoted]

theorem weigh_joinQuoted (first : ByteString) (rest : List ByteString) :
    weigh (joinQuoted first rest) = weigh first + (rest.map fun text => weigh text + 1).sum := by
  induction rest generalizing first with
  | nil => simp [joinQuoted]
  | cons text rest ih =>
      have hgap : weigh [34] = 0 ∧ weigh [32, 34] = 1 := ⟨rfl, rfl⟩
      rw [joinQuoted_cons, weigh_append, weigh_append, weigh_append, ih, List.map_cons,
        List.sum_cons]
      omega

theorem readBytes_gap (words : List ByteString) (w : ByteString) :
    readBytes ⟨words, .word w⟩ [32, 34] = some ⟨words ++ [w], .quoted []⟩ := rfl

/-- Literal texts are read as the words they are. -/
theorem readBytes_joinQuoted {first : ByteString} {rest : List ByteString}
    (hfirst : isLiteral first = true) (hrest : ∀ text ∈ rest, isLiteral text = true)
    (words : List ByteString) (w : ByteString) :
    ∃ s last, readBytes ⟨words, .quoted w⟩ (joinQuoted first rest ++ [34]) = some s ∧
      s.mode = .word last ∧ s.words ++ [last] = words ++ (w ++ first) :: rest := by
  induction rest generalizing first words w with
  | nil =>
      refine ⟨⟨words, .word (w ++ first)⟩, w ++ first, ?_, rfl, rfl⟩
      rw [joinQuoted, List.flatMap_nil, List.append_nil, (readBytes_literal hfirst).1]
  | cons text rest ih =>
      obtain ⟨s, last, hread, hmode, hwords⟩ := ih (hrest text List.mem_cons_self)
        (fun t ht => hrest t (List.mem_cons_of_mem _ ht)) (words ++ [w ++ first]) []
      refine ⟨s, last, ?_, hmode, ?_⟩
      · rw [joinQuoted_cons, List.append_assoc, List.append_assoc, readBytes_append,
          (readBytes_literal hfirst).1, Option.bind_some, readBytes_append, readBytes_gap,
          Option.bind_some, hread]
      · rw [hwords, List.append_assoc]
        rfl

/-- Texts without quotation marks and NUL that are read without losing a byte are literal. -/
theorem literal_of_tight_joinQuoted {first : ByteString} {rest : List ByteString}
    (hmark : ∀ text ∈ first :: rest, 34 ∉ text) (hzero : ∀ text ∈ first :: rest, 0 ∉ text)
    {words : List ByteString} {w : ByteString} {s : ReaderState}
    (hread : readBytes ⟨words, .quoted w⟩ (joinQuoted first rest ++ [34]) = some s)
    (htight : ReaderState.measure weigh ⟨words, .quoted w⟩ + weigh (joinQuoted first rest) ≤
      s.measure weigh) : ∀ text ∈ first :: rest, isLiteral text = true := by
  induction rest generalizing first words w with
  | nil =>
      have hlen := weigh_eq_length (hmark first List.mem_cons_self)
      rw [joinQuoted, List.flatMap_nil, List.append_nil] at hread htight
      rw [hlen] at htight
      intro text htext
      rw [List.mem_singleton.1 htext]
      exact (literal_of_tight (hmark first List.mem_cons_self) (hzero first List.mem_cons_self)).1
        words w s hread htight
  | cons text rest ih =>
      have hlen := weigh_eq_length (hmark first List.mem_cons_self)
      rw [joinQuoted_cons, List.append_assoc, List.append_assoc, readBytes_append] at hread
      obtain ⟨t, hfirst, hread⟩ := Option.bind_eq_some_iff.1 hread
      have hgap : weigh [34] = 0 ∧ weigh [32, 34] = 1 := ⟨rfl, rfl⟩
      have hbound := measure_readBytes_le weigh_nil weigh_append weigh_le_one hread
      rw [weigh_append, weigh_append] at hbound
      rw [joinQuoted_cons, weigh_append, weigh_append, weigh_append] at htight
      have hliteral : isLiteral first = true := by
        refine (literal_of_tight (hmark first List.mem_cons_self)
          (hzero first List.mem_cons_self)).1 words w t hfirst ?_
        omega
      -- the next text is read from inside its own quotes
      rw [(readBytes_literal hliteral).1] at hfirst
      cases hfirst
      rw [readBytes_append, readBytes_gap, Option.bind_some] at hread
      have hrest := ih (fun u hu => hmark u (List.mem_cons_of_mem _ hu))
        (fun u hu => hzero u (List.mem_cons_of_mem _ hu)) hread (by
          have hadd := weigh_append w first
          simp only [ReaderState.measure, List.map_append, List.sum_append, List.map_cons,
            List.map_nil, List.sum_singleton, weigh_nil] at htight ⊢
          omega)
      intro u hu
      rcases List.mem_cons.1 hu with rfl | hu
      · exact hliteral
      · exact hrest u hu

/-! ## Reading back -/

theorem cString_eq {text : ByteString} (h : 0 ∉ text) : cString text = text := by
  refine List.takeWhile_eq_self_iff.2 fun b hb => ?_
  exact bne_iff_ne.2 fun heq => h (heq ▸ hb)

theorem cString_append {text : ByteString} (h : 0 ∉ text) (rest : ByteString) :
    cString (text ++ rest) = text ++ cString rest := by
  rw [cString, List.takeWhile_append_of_pos]
  · rfl
  · exact fun b hb => bne_iff_ne.2 fun heq => h (heq ▸ hb)

/-- A text with a NUL goes on with it where its C string ends. -/
theorem exists_cString_append {text : ByteString} (h : 0 ∈ text) (more : ByteString) :
    cString (text ++ more) = cString text ∧ ∃ rest, text = cString text ++ 0 :: rest := by
  induction text with
  | nil => cases h
  | cons b text ih =>
      by_cases hb : b = 0
      · subst hb
        exact ⟨rfl, text, rfl⟩
      · have htail : 0 ∈ text := by
          rcases List.mem_cons.1 h with h | h
          · exact absurd h.symm hb
          · exact h
        obtain ⟨hmore, rest, hrest⟩ := ih htail
        have hbne : (b != 0) = true := bne_iff_ne.2 hb
        have hcons : ∀ t, cString (b :: t) = b :: cString t := by
          intro t
          rw [cString, List.takeWhile_cons, if_pos hbne]
          rfl
        refine ⟨?_, rest, ?_⟩
        · rw [List.cons_append, hcons, hcons, hmore]
        · rw [hcons, List.cons_append, ← hrest]

theorem readBytes_redirected (words : List ByteString) (tail text : ByteString) :
    readBytes ⟨words, .redirected tail⟩ text = some ⟨words, .redirected (tail ++ text)⟩ := by
  induction text generalizing tail with
  | nil => rw [readBytes, List.append_nil]
  | cons b text ih =>
      rw [readBytes, readByte, Option.bind_some, ih, List.append_assoc, List.singleton_append]

/-- Without a quotation mark the reader does not leave the quotes. -/
theorem finish_readBytes_quoted {text : ByteString} (h : 34 ∉ text) (words : List ByteString)
    (w : ByteString) :
    (readBytes ⟨words, .quoted w⟩ text).bind ReaderState.finish = none ∧
      (readBytes ⟨words, .escaped w⟩ text).bind ReaderState.finish = none := by
  -- in both modes at once, since a backslash changes between them
  induction text generalizing w with
  | nil => exact ⟨rfl, rfl⟩
  | cons b text ih =>
      have hb : b ≠ 34 := fun heq => h (heq ▸ List.mem_cons_self)
      have ih := ih fun hmem => h (List.mem_cons_of_mem _ hmem)
      constructor
      · rw [readBytes, readByte, if_neg hb]
        split_ifs
        · rfl
        · exact (ih w).2
        · exact (ih _).1
      · rw [readBytes, readByte]
        split_ifs
        · exact (ih w).1
        · exact (ih _).1
        · exact (ih _).1

theorem eq_of_finish {s : ReaderState} {words : List ByteString} {b : UInt8} {tail : ByteString}
    (h : s.finish = some (words, b :: tail)) : s = ⟨words, .redirected (b :: tail)⟩ := by
  obtain ⟨words', mode⟩ := s
  cases mode with
  | between => cases h
  | word text => cases h
  | quoted text => cases h
  | escaped text => cases h
  | redirected tail' =>
      cases h
      rfl

/-- The mark in front of the redirections closes the quotes of the last word. -/
theorem quoted_of_finish {s : ReaderState} {words : List ByteString} {tail : ByteString}
    (hmark : 34 ∉ tail)
    (h : (readBytes s (34 :: 32 :: 62 :: tail)).bind ReaderState.finish =
      some (words, 62 :: tail)) :
    ∃ last, s.mode = .quoted last ∧ s.words ++ [last] = words := by
  have hopen : 34 ∉ (32 : UInt8) :: 62 :: tail := by simpa using hmark
  obtain ⟨words', mode⟩ := s
  cases mode with
  -- outside of quotes the mark opens them, and they are never closed
  | between => exact absurd ((finish_readBytes_quoted hopen words' []).1.symm.trans h) nofun
  | word text => exact absurd ((finish_readBytes_quoted hopen words' text).1.symm.trans h) nofun
  | escaped text =>
      exact absurd ((finish_readBytes_quoted hopen words' (text ++ [34])).1.symm.trans h) nofun
  | redirected tail' =>
      -- the mark would be part of the rest
      rw [readBytes_redirected, Option.bind_some] at h
      have htail : tail' ++ 34 :: 32 :: 62 :: tail = 62 :: tail :=
        (Prod.mk.inj (Option.some.inj h)).2
      have hmem : 34 ∈ (62 : UInt8) :: tail := htail ▸ List.mem_append_right _ List.mem_cons_self
      exact absurd hmem (by simpa using hmark)
  | quoted text =>
      refine ⟨text, rfl, ?_⟩
      have hread : readBytes ⟨words', .quoted text⟩ (34 :: 32 :: 62 :: tail) =
          some ⟨words' ++ [text], .redirected ([62] ++ tail)⟩ :=
        readBytes_redirected (words' ++ [text]) [62] tail
      rw [hread] at h
      exact (Prod.mk.inj (Option.some.inj h)).1

theorem measure_of_quoted {c : ByteString → Nat} (happ : ∀ u v, c (u ++ v) = c u + c v)
    {s : ReaderState} {words rest : List ByteString} {w first last : ByteString}
    (hmode : s.mode = .quoted last) (hwords : s.words ++ [last] = words ++ (w ++ first) :: rest) :
    s.measure c + 1 = ReaderState.measure c ⟨words, .quoted w⟩ + c first + 1 +
      (rest.map fun text => c text + 1).sum := by
  have hsum := congrArg (fun l => (l.map fun text => c text + 1).sum) hwords
  simp only [List.map_append, List.sum_append, List.map_cons, List.map_nil, List.sum_cons,
    List.sum_nil, happ] at hsum
  simp only [ReaderState.measure, hmode]
  omega

theorem sum_weigh_le_sum_length (texts : List ByteString) :
    (texts.map fun text => weigh text + 1).sum ≤ (texts.map fun text => text.length + 1).sum := by
  induction texts with
  | nil => exact le_refl _
  | cons text texts ih =>
      have htext := weigh_le_length text
      simp only [List.map_cons, List.sum_cons]
      omega

theorem not_mem_of_sum_length_le {texts : List ByteString}
    (h : (texts.map fun text => text.length + 1).sum ≤
      (texts.map fun text => weigh text + 1).sum) : ∀ text ∈ texts, 34 ∉ text := by
  induction texts with
  | nil => exact fun _ hmem => by cases hmem
  | cons text texts ih =>
      have htext := weigh_le_length text
      have hrest := sum_weigh_le_sum_length texts
      simp only [List.map_cons, List.sum_cons] at h
      intro u hu
      rcases List.mem_cons.1 hu with rfl | hu
      · exact not_mem_of_length_le_weigh (by omega)
      · exact ih (by omega) u hu

theorem not_mem_joinQuoted {b : UInt8} (hmark : b ≠ 34) (hblank : b ≠ 32) {first : ByteString}
    {rest : List ByteString} :
    b ∉ joinQuoted first rest ↔ ∀ text ∈ first :: rest, b ∉ text := by
  simp [joinQuoted, hmark, hblank]

theorem not_mem_of_isLiteral {text : ByteString} (h : isLiteral text = true) : 0 ∉ text := by
  induction text with
  | nil => exact List.not_mem_nil
  | cons b rest ih =>
      obtain ⟨hb, -, -, -, -, hrest⟩ := isLiteral_cons.1 h
      intro hmem
      rcases List.mem_cons.1 hmem with hzero | hmem
      · exact hb hzero.symm
      · exact ih hrest hmem

section ReadBack

variable {first : ByteString} {rest words : List ByteString} {w tail : ByteString}

theorem readBack_of_literal (hzero : 0 ∉ tail)
    (h : ∀ text ∈ first :: rest, isLiteral text = true) :
    (readBytes ⟨words, .quoted w⟩ (cString (joinQuoted first rest ++ 34 :: 32 :: 62 :: tail))).bind
        ReaderState.finish = some (words ++ (w ++ first) :: rest, 62 :: tail) := by
  have hjoin : 0 ∉ joinQuoted first rest :=
    (not_mem_joinQuoted (by decide) (by decide)).2 fun text ht => not_mem_of_isLiteral (h text ht)
  have hall : 0 ∉ joinQuoted first rest ++ 34 :: 32 :: 62 :: tail := by
    simp [hjoin, hzero]
  obtain ⟨⟨swords, smode⟩, last, hread, rfl, hwords⟩ := readBytes_joinQuoted
    (h first List.mem_cons_self) (fun text ht => h text (List.mem_cons_of_mem _ ht)) words w
  have hsplit : joinQuoted first rest ++ 34 :: 32 :: 62 :: tail =
      joinQuoted first rest ++ [34] ++ 32 :: 62 :: tail := by simp
  have htail : readBytes ⟨swords, .word last⟩ (32 :: 62 :: tail) =
      some ⟨swords ++ [last], .redirected ([62] ++ tail)⟩ :=
    readBytes_redirected (swords ++ [last]) [62] tail
  rw [cString_eq hall, hsplit, readBytes_append, hread, Option.bind_some, htail, hwords]
  rfl

/-- A NUL cuts the command off before its last word is complete. -/
theorem not_mem_of_readBack
    (h : (readBytes ⟨words, .quoted w⟩
        (cString (joinQuoted first rest ++ 34 :: 32 :: 62 :: tail))).bind ReaderState.finish =
      some (words ++ (w ++ first) :: rest, 62 :: tail)) : 0 ∉ joinQuoted first rest := by
  intro hmem
  obtain ⟨hcut, more, hmore⟩ := exists_cString_append hmem (34 :: 32 :: 62 :: tail)
  rw [hcut] at h
  obtain ⟨s, hread, hfinish⟩ := Option.bind_eq_some_iff.1 h
  have hbound := measure_readBytes_le List.length_nil (fun _ _ => List.length_append)
    (fun _ => le_refl 1) hread
  have hweigh := congrArg weigh hmore
  have hnul : weigh (0 :: more) = 1 + weigh more := weigh_cons 0 more
  have hsum := sum_weigh_le_sum_length rest
  have hfirst := weigh_le_length first
  rw [weigh_append, hnul, weigh_joinQuoted] at hweigh
  rw [eq_of_finish hfinish] at hbound
  simp only [ReaderState.measure, List.map_append, List.sum_append, List.map_cons, List.sum_cons,
    List.length_append] at hbound
  omega

theorem literal_of_readBack (hmark : 34 ∉ tail) (hzero : 0 ∉ tail)
    (h : (readBytes ⟨words, .quoted w⟩
        (cString (joinQuoted first rest ++ 34 :: 32 :: 62 :: tail))).bind ReaderState.finish =
      some (words ++ (w ++ first) :: rest, 62 :: tail)) :
    ∀ text ∈ first :: rest, isLiteral text = true := by
  have hjoin := not_mem_of_readBack h
  have hall : 0 ∉ joinQuoted first rest ++ 34 :: 32 :: 62 :: tail := by
    simp [hjoin, hzero]
  rw [cString_eq hall, readBytes_append] at h
  obtain ⟨s, hsome, hfinish⟩ := Option.bind_eq_some_iff.1 h
  obtain ⟨t, hread, hrest⟩ := Option.bind_eq_some_iff.1 hsome
  obtain ⟨last, hmode, hwords⟩ := quoted_of_finish hmark
    (Option.bind_eq_some_iff.2 ⟨s, hrest, hfinish⟩)
  -- all bytes of the words come from bytes other than quotation marks, so there are none in them
  have hmarks : ∀ text ∈ first :: rest, 34 ∉ text := by
    refine not_mem_of_sum_length_le ?_
    have hbound := measure_readBytes_le List.length_nil (fun _ _ => List.length_append)
      (fun _ => le_refl 1) hread
    have hmeasure := measure_of_quoted (fun _ _ => List.length_append) hmode hwords
    rw [weigh_joinQuoted] at hbound
    simp only [List.map_cons, List.sum_cons]
    omega
  -- and no byte is lost on the way
  have hclose : readBytes ⟨words, .quoted w⟩ (joinQuoted first rest ++ [34]) =
      some ⟨t.words, .word last⟩ := by
    obtain ⟨twords, tmode⟩ := t
    cases hmode
    rw [readBytes_append, hread]
    rfl
  refine literal_of_tight_joinQuoted hmarks
    ((not_mem_joinQuoted (by decide) (by decide)).1 hjoin) hclose ?_
  have hmeasure := measure_of_quoted weigh_append hmode hwords
  rw [weigh_joinQuoted]
  simp only [ReaderState.measure, hmode] at hmeasure ⊢
  omega

end ReadBack

/-- The texts between double quotes are read back, with a redirection behind them, exactly if all of
them are literal. -/
theorem readQuotedWords_iff {first : ByteString} {rest : List ByteString} {words : List ByteString}
    {w tail : ByteString} (hmark : 34 ∉ tail) (hzero : 0 ∉ tail) :
    (readBytes ⟨words, .quoted w⟩ (cString (joinQuoted first rest ++ 34 :: 32 :: 62 :: tail))).bind
        ReaderState.finish = some (words ++ (w ++ first) :: rest, 62 :: tail) ↔
      ∀ text ∈ first :: rest, isLiteral text = true :=
  ⟨literal_of_readBack hmark hzero, readBack_of_literal hzero⟩

/-- A command with a fixed beginning, up to the first quotation mark, and a fixed redirection. -/
theorem readCommand_iff {opening name w : ByteString} {words : List ByteString}
    (first : ByteString) (rest : List ByteString) (tail : ByteString) (hzero : 0 ∉ opening)
    (hopening : readBytes ⟨[], .between⟩ opening = some ⟨name :: words, .quoted w⟩)
    (hname : 61 ∉ name) (htailmark : 34 ∉ tail) (htailzero : 0 ∉ tail) :
    readCommand (opening ++ (joinQuoted first rest ++ 34 :: 32 :: 62 :: tail)) =
        some (name :: words ++ (w ++ first) :: rest, 62 :: tail) ↔
      ∀ text ∈ first :: rest, isLiteral text = true := by
  rw [readCommand, cString_append hzero, readBytes_append, hopening, Option.bind_some,
    Option.filter_eq_some_iff, readQuotedWords_iff htailmark htailzero]
  refine and_iff_left ?_
  simpa using hname

end DeepKernel.Lib
