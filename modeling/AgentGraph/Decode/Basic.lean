import AgentGraph.Binary64.Numeral
import AgentGraph.Decode.Error

/-!
Decoders of single values, lists and maps. The lenient ones at the end take
whatever a form may have written, and what they cannot use is absent.
-/

namespace AgentGraph.Decode

def string : Json → Decoded String
  | .string value => .ok value
  | other => .error (.wrongType other .string)

def boolean : Json → Decoded Bool
  | .bool value => .ok value
  | other => .error (.wrongType other .boolean)

def double : Json → Decoded Binary64
  | .number value => .ok value.toBinary64
  | other => .error (.wrongType other .double)

def word16 : Json → Decoded UInt16
  | .number (.integer value) =>
      if 0 ≤ value ∧ value < 65536 then .ok (UInt16.ofNat value.toNat)
      else .error (.outOfRange value .word16)
  | other => .error (.wrongType other .word16)

def unit : Json → Decoded Unit
  | .null => .ok ()
  | other => .error (.wrongType other .unit)

/-- Null is absence. -/
def optional {α : Type} (decode : Json → Decoded α) : Json → Decoded (Option α)
  | .null => .ok none
  | value => some <$> decode value

/-- Null is the empty text. -/
def text : Json → Decoded String
  | .null => .ok ""
  | value => string value

/-- The items of an array in order; the first one that fails is reported. -/
def list {α : Type} (item : Json → Decoded α) : Json → Decoded (List α)
  | .array items => items.mapM item
  | other => .error (.wrongType other .sequence)

def dict {α : Type} (value : Json → Decoded α) : Json → Decoded (Dict α)
  | .object members => do
      let entries ← members.mapM fun member => do
        return (member.1, ← value member.2)
      return Dict.ofList entries
  | other => .error (.wrongType other .map)

def lookupVariant {α : Type} (variants : List (String × α)) (name : String) :
    Decoded α :=
  match variants.lookup name with
  | some value => .ok value
  | none => .error (.unknownVariant name (variants.map Prod.fst))

/-- A variant by its name, or as the name of a null. -/
def variant {α : Type} (variants : List (String × α)) : Json → Decoded α
  | .string name => lookupVariant variants name
  | .object [(name, value)] => do
      let found ← lookupVariant variants name
      let () ← unit value
      return found
  | .object _ => .error .notOneMember
  | other => .error (.wrongType other .variant)

def number? : Json → Option Binary64
  | .number value => some value.toBinary64
  | .string value => Binary64.ofText? (Text.trim value)
  | _ => none

def port? (value : Json) : Option UInt16 :=
  match number? value with
  | some (.finite port) =>
      if port.isIntegral && !port.negative && 1 ≤ port.whole && port.whole ≤ 65535 then
        some (UInt16.ofNat port.whole)
      else none
  | _ => none

/-- A text that is not blank, as it is, or the text of a number. -/
def string? : Json → Option String
  | .string value => if Text.isBlankText value then none else some value
  | .number value => some value.text
  | _ => none

/-- A variant by its name, in any letter case and with white space around it. -/
def variant? {α : Type} (variants : List (String × α)) : Json → Option α
  | .string name => variants.lookup (String.map Char.toLower (Text.trim name))
  | _ => none

/-- A truth value, or the text `true` in any letter case. -/
def truth : Json → Bool
  | .bool value => value
  | .string value => String.map Char.toLower (Text.trim value) == "true"
  | _ => false

end AgentGraph.Decode
