import AgentGraph.Binary64.Layout
import AgentGraph.Json.Printer
import AgentGraph.Json.Parser
import AgentGraph.Text.Blank

/-!
Literals of the generated program. Whatever was typed as data reaches the program
through them.
-/

namespace AgentGraph.Literal

/-- A character inside a literal; control characters stand as their code. -/
def escapedChar (c : Char) : List Char :=
  if c = '"' then ['\\', '"']
  else if c = '\\' then ['\\', '\\']
  else if c = '\n' then ['\\', 'n']
  else if c = '\r' then ['\\', 'r']
  else if c = '\t' then ['\\', 't']
  else if c.toNat < 0x20 ∨ c = '\x7f' then
    ['\\', 'x', Nat.digitChar (c.toNat / 16), Nat.digitChar (c.toNat % 16)]
  else [c]

def string (text : String) : String :=
  "\"" ++ String.ofList (text.toList.flatMap escapedChar) ++ "\""

def bool (value : Bool) : String := if value then "True" else "False"

/-- A double: whole values below 10^15 as integers, and no exponents. -/
def number : Binary64 → String
  | .finite value =>
      if value.isIntegral && value.whole < Nat.pow 10 15 then
        toString (if value.negative then -(value.whole : Int) else value.whole)
      else Binary64.plain.finiteText value
  | other => Binary64.plain.text other

mutual

/-- The literal of a JSON value; numbers stand as JSON has them. -/
def value : Json → String
  | .null => "None"
  | .bool truth => bool truth
  | .number number => number.text
  | .string text => string text
  | .array items => "[" ++ ", ".intercalate (itemValues items) ++ "]"
  | .object members => "\x7b" ++ ", ".intercalate (memberValues members) ++ "\x7d"

def itemValues : List Json → List String
  | [] => []
  | item :: rest => value item :: itemValues rest

def memberValues : List (String × Json) → List String
  | [] => []
  | (key, item) :: rest => (string key ++ ": " ++ value item) :: memberValues rest

end

/-- The array or object that a text writes, white space around it aside. -/
def structure? (text : String) : Option Json :=
  match Json.parse? (Text.trim text) with
  | some (.array items) => some (.array items)
  | some (.object members) => some (.object members)
  | _ => none

/-- The literal of a typed text: of the array or object that it writes, or of itself. -/
def typedText (text : String) : String :=
  match structure? text with
  | some written => value written
  | none => string text

/-- The literal of a value that was typed: a text is read as in `typedText`. -/
def typedValue : Json → String
  | .string text => typedText text
  | other => value other

end AgentGraph.Literal
