import AgentGraph.Json.Printer
import AgentGraph.Text.Quoted
import AgentGraph.Calendar.Pattern

/-!
Why a JSON value does not decode, and how that is said.
-/

namespace AgentGraph

inductive Shape where
  | string
  | boolean
  | double
  | word16
  | unit
  | sequence
  | map
  | variant
  | timestamp
  | record (name : String)
deriving DecidableEq

def Shape.text : Shape → String
  | .string => "a string"
  | .boolean => "a boolean"
  | .double => "f64"
  | .word16 => "u16"
  | .unit => "unit"
  | .sequence => "a sequence"
  | .map => "a map"
  | .variant => "string or map"
  | .timestamp => "an RFC 3339 formatted date and time string"
  | .record name => "struct " ++ name

inductive DecodeError where
  | wrongType (found : Json) (expected : Shape)
  | outOfRange (value : Int) (expected : Shape)
  /-- An object stands for a variant, and has no member or several. -/
  | notOneMember
  | unknownVariant (name : String) (variants : List String)
  | missingField (name : String)
  | duplicateField (name : String)
  /-- An array ends before the field at `index`, which `record` needs. -/
  | tooShort (index : Nat) (record : String) (size : Nat)
  | tooLong (size : Nat)
  | badTimestamp (fault : Calendar.Fault)
  | unknownNodeType (id type : String)
  /-- An error in the data of the node `id`. -/
  | inNode (id : String) (error : DecodeError)
deriving DecidableEq

/-- What a message calls a value: its kind, and its text where that is short. -/
def Json.description : Json → String
  | .null => "null"
  | .bool value => "boolean `" ++ (if value then "true" else "false") ++ "`"
  | .number (.integer value) => "integer `" ++ toString value ++ "`"
  | .number (.real value) => "floating point `" ++ (Number.real value).text ++ "`"
  | .string value => "string " ++ Text.quoted value
  | .array _ => "sequence"
  | .object _ => "map"

private def inTicks (name : String) : String := "`" ++ name ++ "`"

private def oneOf : List String → String
  | [] => "there are no variants"
  | [name] => "expected " ++ inTicks name
  | [name, other] => "expected " ++ inTicks name ++ " or " ++ inTicks other
  | names => "expected one of " ++ ", ".intercalate (names.map inTicks)

private def elements (size : Nat) : String :=
  size.repr ++ (if size = 1 then " element" else " elements")

def DecodeError.message : DecodeError → String
  | .wrongType found expected =>
      "invalid type: " ++ found.description ++ ", expected " ++ expected.text
  | .outOfRange value expected =>
      "invalid value: integer `" ++ toString value ++ "`, expected " ++ expected.text
  | .notOneMember => "invalid value: map, expected map with a single key"
  | .unknownVariant name variants =>
      "unknown variant " ++ inTicks name ++ ", " ++ oneOf variants
  | .missingField name => "missing field " ++ inTicks name
  | .duplicateField name => "duplicate field " ++ inTicks name
  | .tooShort index record size =>
      "invalid length " ++ index.repr ++ ", expected struct " ++ record ++ " with " ++
        elements size
  | .tooLong size =>
      "invalid length " ++ size.repr ++ ", expected fewer elements in array"
  | .badTimestamp fault => fault.message
  | .unknownNodeType id type => "node '" ++ id ++ "': unknown node type '" ++ type ++ "'"
  | .inNode id error => "node '" ++ id ++ "': " ++ error.message

abbrev Decoded (α : Type) := Except DecodeError α

end AgentGraph
