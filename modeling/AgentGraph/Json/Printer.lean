import AgentGraph.Json.Basic
import AgentGraph.Binary64.Layout

/-!
JSON texts: compact, and indented by two spaces for documents.
-/

namespace AgentGraph

/-- Leading exponents from -5 to 15 are written without an exponent, integral
values keep a point and a zero, and a tie between two digits goes to the even one. -/
def Number.layout : Binary64.Layout := ⟨some (-5, 15), true, .even⟩

def Number.text : Number → String
  | .integer value => toString value
  | .real value => Number.layout.finiteText value

namespace Json

def hexDigits (width code : Nat) : List Char :=
  let digits := Nat.toDigits 16 code
  List.replicate (width - digits.length) '0' ++ digits

def escapedChar (c : Char) : List Char :=
  if c = '"' then ['\\', '"']
  else if c = '\\' then ['\\', '\\']
  else if c = '\x08' then ['\\', 'b']
  else if c = '\x0c' then ['\\', 'f']
  else if c = '\n' then ['\\', 'n']
  else if c = '\r' then ['\\', 'r']
  else if c = '\t' then ['\\', 't']
  else if c.toNat < 0x20 then ['\\', 'u'] ++ hexDigits 4 c.toNat
  else [c]

def quoted (text : String) : String :=
  "\"" ++ String.ofList (text.toList.flatMap escapedChar) ++ "\""

mutual

def text : Json → String
  | .null => "null"
  | .bool true => "true"
  | .bool false => "false"
  | .number value => value.text
  | .string value => quoted value
  | .array items => "[" ++ ",".intercalate (itemTexts items) ++ "]"
  | .object members => "\x7b" ++ ",".intercalate (memberTexts members) ++ "\x7d"

def itemTexts : List Json → List String
  | [] => []
  | item :: rest => item.text :: itemTexts rest

def memberTexts : List (String × Json) → List String
  | [] => []
  | (key, value) :: rest => (quoted key ++ ":" ++ value.text) :: memberTexts rest

end

/-- The lines of a value's indented text joined, where `margin` begins each new line. -/
def block (opening closing margin : String) (parts : List String) : String :=
  let inner := margin ++ "  "
  opening ++ "\n" ++ inner ++ (",\n" ++ inner).intercalate parts ++
    "\n" ++ margin ++ closing

mutual

/-- The text of a value, one item or member a line, indented by two spaces. -/
def pretty (margin : String) : Json → String
  | .array [] => "[]"
  | .array items => block "[" "]" margin (prettyItems (margin ++ "  ") items)
  | .object [] => "\x7b\x7d"
  | .object members =>
      block "\x7b" "\x7d" margin (prettyMembers (margin ++ "  ") members)
  | .null => "null"
  | .bool value => if value then "true" else "false"
  | .number value => value.text
  | .string value => quoted value

def prettyItems (margin : String) : List Json → List String
  | [] => []
  | item :: rest => item.pretty margin :: prettyItems margin rest

def prettyMembers (margin : String) : List (String × Json) → List String
  | [] => []
  | (key, value) :: rest =>
      (quoted key ++ ": " ++ value.pretty margin) :: prettyMembers margin rest

end

end Json

end AgentGraph
