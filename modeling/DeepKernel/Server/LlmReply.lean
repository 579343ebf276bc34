import DeepKernel.Lib.Numerals

/-!
# Reading the reply of the language model

The part of `GeminiTriageAdapter` that turns a reply into a verdict: the tree of Jackson, the
extraction of JSON from a fenced block, and the salvage of a broken reply with regular expressions.

What the server uses of the Java library and of Jackson beyond the tree is a parameter
(`Platform`). The regular expressions of the source are matched by hand. None of them can match one
text in two ways: no character of a repeated class can start what follows the repetition, so
greedy matching without backtracking finds what Java finds.
-/

set_option autoImplicit false

namespace DeepKernel.Server

/-! ## The platform -/

/-- `JsonNode`. A number comes with its text. -/
inductive JsonNode (R : Type)
  | missing
  | null
  | boolean (value : Bool)
  | number (literal : String) (value : R)
  | text (value : String)
  | array (items : List (JsonNode R))
  | object (fields : List (String × JsonNode R))

/-- Library functions. `toUpperCase` and `toLowerCase` map characters, `upperString` is
`String.toUpperCase`, `format` is the conversion `%.2f`; `parseDouble` is `none` and `readTree` a
message where the library throws. -/
structure Platform (R : Type) where
  toUpperCase : Char → Char
  toLowerCase : Char → Char
  upperString : String → String
  isWhitespace : Char → Bool
  format : R → String
  parseDouble : String → Option R
  readTree : String → Except String (JsonNode R)
  toJson : JsonNode R → String

variable {R : Type}

namespace Platform

/-- `String.isBlank`. -/
def isBlank (p : Platform R) (s : String) : Bool := s.toList.all p.isWhitespace

/-- The comparison of two characters in `equalsIgnoreCase`. -/
def sameLetter (p : Platform R) (c d : Char) : Bool :=
  decide (c = d ∨ p.toUpperCase c = p.toUpperCase d ∨
    p.toLowerCase (p.toUpperCase c) = p.toLowerCase (p.toUpperCase d))

/-- `equalsIgnoreCase`. -/
def equalsIgnoreCase (p : Platform R) (s t : String) : Bool :=
  decide (s.toList.length = t.toList.length) &&
    (s.toList.zip t.toList).all fun e => p.sameLetter e.1 e.2

theorem equalsIgnoreCase_self (p : Platform R) (s : String) : p.equalsIgnoreCase s s = true := by
  have key : ∀ cs : List Char, (cs.zip cs).all (fun e => p.sameLetter e.1 e.2) = true := by
    intro cs
    induction cs with
    | nil => rfl
    | cons c cs ih =>
        rw [List.zip_cons_cons, List.all_cons, ih]
        simp [sameLetter]
  rw [equalsIgnoreCase, key]
  simp

theorem equalsIgnoreCase_of_length_ne (p : Platform R) {s t : String}
    (h : s.toList.length ≠ t.toList.length) : p.equalsIgnoreCase s t = false := by
  rw [equalsIgnoreCase, decide_eq_false h, Bool.false_and]

end Platform

namespace JsonNode

/-- `path(name)`. -/
def path (name : String) : JsonNode R → JsonNode R
  | .object fields => ((fields.find? fun e => decide (e.1 = name)).map Prod.snd).getD .missing
  | _ => .missing

/-- `get(0)`, `none` for null. -/
def getFirst : JsonNode R → Option (JsonNode R)
  | .array items => items.head?
  | _ => none

/-- `asText()`. -/
def asText : JsonNode R → String
  | .missing => ""
  | .null => "null"
  | .boolean b => if b then "true" else "false"
  | .number literal _ => literal
  | .text s => s
  | .array _ => ""
  | .object _ => ""

/-- `asText(defaultValue)`. -/
def asTextOr (defaultValue : String) : JsonNode R → String
  | .missing => defaultValue
  | .null => defaultValue
  | n => n.asText

/-- `asDouble(defaultValue)`. -/
def asDoubleOr [OfNat R 0] [OfNat R 1] (p : Platform R) (defaultValue : R) : JsonNode R → R
  | .boolean b => if b then 1 else 0
  | .number _ value => value
  | .text s => (p.parseDouble s).getD defaultValue
  | _ => defaultValue

end JsonNode

/-! ## Regular expressions -/

section Regex

/-- `\s`. -/
def isSpace (c : Char) : Bool := [' ', '\t', '\n', '\x0b', '\x0c', '\r'].contains c

/-- `\w`. -/
def isWord (c : Char) : Bool := c.isAlphanum || c = '_'

/-- The text after a literal, if it starts with that; characters are compared after `fold`. -/
def afterLiteral (fold : Char → Char) : List Char → List Char → Option (List Char)
  | [], text => some text
  | _ :: _, [] => none
  | l :: ls, c :: text => if fold l = fold c then afterLiteral fold ls text else none

/-- The text after a quoted key, spaces, a colon and spaces. -/
def afterKey (fold : Char → Char) (key : String) (text : List Char) : Option (List Char) :=
  match afterLiteral fold (['"'] ++ key.toList ++ ['"']) text with
  | none => none
  | some rest =>
      match rest.dropWhile isSpace with
      | ':' :: rest => some (rest.dropWhile isSpace)
      | _ => none

/-- `Matcher.find` and the group: the first position at which the pattern matches. -/
def firstMatch {α : Type} (pattern : List Char → Option α) : List Char → Option α
  | [] => pattern []
  | c :: text =>
      match pattern (c :: text) with
      | some group => some group
      | none => firstMatch pattern text

/-- The pattern of the verdict, which ignores case. -/
def verdictPattern (text : List Char) : Option String :=
  match afterKey Char.toLower "verdict" text with
  | some ('"' :: rest) =>
      if rest.takeWhile isWord ≠ [] ∧ (rest.dropWhile isWord).head? = some '"' then
        some (String.ofList (rest.takeWhile isWord))
      else none
  | _ => none

/-- The pattern of the risk score. -/
def riskPattern (text : List Char) : Option String :=
  match afterKey id "risk_score" text with
  | some rest =>
      let digits := rest.takeWhile fun c => c.isDigit || c = '.'
      if digits ≠ [] then some (String.ofList digits) else none
  | none => none

/-- The pattern of the explanation. -/
def explanationPattern (text : List Char) : Option String :=
  match afterKey id "explanation" text with
  | some ('"' :: rest) =>
      if (rest.dropWhile fun c => decide (c ≠ '"')) ≠ [] then
        some (String.ofList (rest.takeWhile fun c => decide (c ≠ '"')))
      else none
  | _ => none

/-- The three backticks of a fence. -/
def fence : List Char := ['\x60', '\x60', '\x60']

/-- The text up to the next fence. -/
def untilFence : List Char → Option (List Char)
  | [] => none
  | c :: text =>
      if fence.isPrefixOf (c :: text) then some [] else (untilFence text).map (c :: ·)

/-- The pattern of a fenced block. -/
def fencedPattern (text : List Char) : Option (List Char) :=
  match afterLiteral id fence text with
  | none => none
  | some rest =>
      untilFence (((afterLiteral id "json".toList rest).getD rest).dropWhile isSpace)

/-- `String.trim`. -/
def trim (text : List Char) : List Char :=
  ((text.dropWhile fun c => decide (c ≤ ' ')).reverse.dropWhile fun c => decide (c ≤ ' ')).reverse

/-- `extractJson`. -/
def extractJson (text : String) : String :=
  match firstMatch fencedPattern text.toList with
  | some block => String.ofList (trim block)
  | none => String.ofList (trim text.toList)

end Regex

/-! ## The verdict -/

/-- What a triage says about a window. -/
structure Assessment (R : Type) where
  riskScore : R
  verdict : String
  explanation : String
  llmResponseRaw : Option String

variable [OfScientific R]

/-- The handler of `parseGeminiResponse` for an exception with the given message. -/
def salvage (p : Platform R) (rawText response : Option String) (message : String) :
    Assessment R :=
  match rawText with
  | none => ⟨0.7, "UNKNOWN", "Failed to parse LLM response: " ++ message, response⟩
  | some text =>
      { riskScore := ((firstMatch riskPattern text.toList).bind p.parseDouble).getD 0.7
        verdict := ((firstMatch verdictPattern text.toList).map p.upperString).getD "UNKNOWN"
        explanation := (firstMatch explanationPattern text.toList).getD text
        llmResponseRaw := some text }

/-- The message of the exception when `get(0)` gives null. -/
def nullPointerMessage : String :=
  "Cannot invoke \"com.fasterxml.jackson.databind.JsonNode.path(String)\" because the return " ++
    "value of \"com.fasterxml.jackson.databind.JsonNode.get(int)\" is null"

/-- The text of the first part of the first candidate, or the message of an exception. -/
def rawTextOf (p : Platform R) : Option String → Except String String
  | none => .error "argument \"content\" is null"
  | some response =>
      match p.readTree response with
      | .error message => .error message
      | .ok root =>
          match (root.path "candidates").getFirst with
          | none => .error nullPointerMessage
          | some candidate =>
              match ((candidate.path "content").path "parts").getFirst with
              | none => .error nullPointerMessage
              | some part => .ok (part.path "text").asText

/-- `parseGeminiResponse`; the response can be null. -/
def parseGeminiResponse [OfNat R 0] [OfNat R 1] (p : Platform R) (response : Option String) : Assessment R :=
  match rawTextOf p response with
  -- `rawText` is still null when the reply itself cannot be read.
  | .error message => salvage p none response message
  | .ok rawText =>
      match p.readTree (extractJson rawText) with
      | .error message => salvage p (some rawText) response message
      | .ok parsed =>
          { riskScore := (parsed.path "risk_score").asDoubleOr p 0.5
            verdict := p.upperString ((parsed.path "verdict").asTextOr "UNKNOWN")
            explanation := (parsed.path "explanation").asTextOr "No explanation provided."
            llmResponseRaw := some (p.toJson parsed) }

end DeepKernel.Server
