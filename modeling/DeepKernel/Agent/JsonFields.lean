import DeepKernel.Agent.Serialization
import DeepKernel.Lib.Pattern

/-!
# Fields of JSON texts

The agent has no JSON library. It takes a field out of a text with a regular expression that looks for
the quoted key, a colon and the value; the same expression stands in `AgentServer`, `PolicyEnforcer`,
`DockerMapper` and `ContainerMapper`. Nothing is unescaped, and the first place that looks like the
field is taken.
-/

set_option autoImplicit false

namespace DeepKernel.Agent

open DeepKernel.Lib

/-! ## Pattern elements -/

/-- A text of a pattern. -/
def literal (text : String) : Pattern UInt8 := (ascii text).map fun b => .one (· == b)

/-- The characters that `.` stands for. -/
def isNotLineEnd (b : UInt8) : Bool := b != 10 && b != 13

/-- `\s`. -/
def isSpace (b : UInt8) : Bool := b == 32 || (9 ≤ b && b ≤ 13)

/-- `\d`. -/
def isDigit (b : UInt8) : Bool := 48 ≤ b && b ≤ 57

/-- A key inside a pattern, in which a dot stands for any character. -/
def keyText (key : String) : Pattern UInt8 :=
  (ascii key).map fun b => .one (if b = 46 then isNotLineEnd else (· == b))

/-- `match[n]` of a search, counted from the first group. -/
def searchGroup (ps : Pattern UInt8) (n : Nat) (text : ByteString) : Option ByteString :=
  (search ps text).bind fun groups => groups[n]?

/-- The only group of a pattern is never shorter than the pattern allows. -/
theorem length_searchGroup {ps : Pattern UInt8} {min : Nat} {text group : ByteString}
    (hps : ∀ groups, FitsGroups ps groups → ∃ g, groups = [g] ∧ min ≤ g.length)
    (h : searchGroup ps 0 text = some group) : min ≤ group.length := by
  obtain ⟨groups, hsearch, hgroup⟩ := Option.bind_eq_some_iff.1 h
  obtain ⟨g, rfl, hmin⟩ := hps groups (fitsGroups_of_search hsearch)
  rw [← Option.some.inj hgroup]
  exact hmin

/-! ## Fields -/

/-- The quoted key and the colon, with the spaces around it. -/
def keyPattern (key : Pattern UInt8) : Pattern UInt8 :=
  literal "\"" ++ key ++ literal "\"" ++ [.run isSpace 0 none false false] ++
    literal ":" ++ [.run isSpace 0 none false false]

/-- The key with a string as its value: everything up to the next quotation mark is the group. -/
def stringFieldPattern (key : Pattern UInt8) : Pattern UInt8 :=
  keyPattern key ++ literal "\"" ++ [.run (· != 34) 1 none false true] ++ literal "\""

/-- The key with digits as its value. -/
def intFieldPattern (key : Pattern UInt8) : Pattern UInt8 :=
  keyPattern key ++ [.run isDigit 1 none false true]

/-- The value of the first string field with the key, empty if there is none. -/
def stringField (json : ByteString) (key : Pattern UInt8) : ByteString :=
  (searchGroup (stringFieldPattern key) 0 json).getD []

/-- `extractJsonString`, `extractJsonField` and `extractJsonStringField`. -/
def extractJsonString (json : ByteString) (key : String) : ByteString :=
  stringField json (keyText key)

/-- The number that decimal digits stand for. -/
def digitsValue (digits : ByteString) : Nat :=
  digits.foldl (fun n b => 10 * n + (b.toNat - 48)) 0

/-- `extractJsonInt`. `std::stoi` throws on a number out of range. -/
def extractJsonInt (json : ByteString) (key : String) (defaultVal : Int32) : Int32 :=
  match searchGroup (intFieldPattern (keyText key)) 0 json with
  | some digits =>
      if digitsValue digits < 2 ^ 31 then Int32.ofNat (digitsValue digits) else defaultVal
  | none => defaultVal

end DeepKernel.Agent
