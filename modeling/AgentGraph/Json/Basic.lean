import AgentGraph.Dict
import AgentGraph.Binary64.Basic

/-!
JSON values. Integers and binary fractions stay apart, and the members of an
object stand in a list; values that were read have each key once, in order.
-/

namespace AgentGraph

inductive Number where
  | integer (value : Int)
  | real (value : Binary64.Finite)
deriving DecidableEq

inductive Json where
  | null
  | bool (value : Bool)
  | number (value : Number)
  | string (value : String)
  | array (items : List Json)
  | object (members : List (String × Json))

namespace Json

instance : Inhabited Json := ⟨.null⟩

mutual

def decEq : (first second : Json) → Decidable (first = second)
  | .null, .null => isTrue rfl
  | .bool first, .bool second => decidable_of_iff (first = second) (by simp)
  | .number first, .number second => decidable_of_iff (first = second) (by simp)
  | .string first, .string second => decidable_of_iff (first = second) (by simp)
  | .array first, .array second =>
      match decEqItems first second with
      | isTrue same => isTrue (congrArg _ same)
      | isFalse different => isFalse fun same => different (array.inj same)
  | .object first, .object second =>
      match decEqMembers first second with
      | isTrue same => isTrue (congrArg _ same)
      | isFalse different => isFalse fun same => different (object.inj same)
  | .null, .bool _ | .null, .number _ | .null, .string _ | .null, .array _
  | .null, .object _ | .bool _, .null | .bool _, .number _ | .bool _, .string _
  | .bool _, .array _ | .bool _, .object _ | .number _, .null | .number _, .bool _
  | .number _, .string _ | .number _, .array _ | .number _, .object _
  | .string _, .null | .string _, .bool _ | .string _, .number _
  | .string _, .array _ | .string _, .object _ | .array _, .null
  | .array _, .bool _ | .array _, .number _ | .array _, .string _
  | .array _, .object _ | .object _, .null | .object _, .bool _
  | .object _, .number _ | .object _, .string _ | .object _, .array _ =>
      isFalse nofun

def decEqItems : (first second : List Json) → Decidable (first = second)
  | [], [] => isTrue rfl
  | [], _ :: _ | _ :: _, [] => isFalse nofun
  | item :: rest, other :: others =>
      match decEq item other, decEqItems rest others with
      | isTrue head, isTrue tail => isTrue (by rw [head, tail])
      | isFalse different, _ => isFalse fun same => different (List.cons.inj same).1
      | _, isFalse different => isFalse fun same => different (List.cons.inj same).2

def decEqMembers :
    (first second : List (String × Json)) → Decidable (first = second)
  | [], [] => isTrue rfl
  | [], _ :: _ | _ :: _, [] => isFalse nofun
  | (key, value) :: rest, (other, held) :: others =>
      match decEq value held, decEqMembers rest others with
      | isTrue head, isTrue tail =>
          decidable_of_iff (key = other) (by simp [head, tail])
      | isFalse different, _ => isFalse fun same => different (by simp_all)
      | _, isFalse different => isFalse fun same => different (by simp_all)

end

instance : DecidableEq Json := decEq

def nat (value : Nat) : Json := .number (.integer value)

/-- A double as JSON has it: what is not finite becomes null. -/
def ofBinary64 : Binary64 → Json
  | .finite value => .number (.real value)
  | _ => .null

def ofOption : Option Json → Json
  | some value => value
  | none => .null

def strings (values : List String) : Json := .array (values.map .string)

def ofDict (dict : Dict Json) : Json := .object dict.entries

end Json

def Number.toBinary64 : Number → Binary64
  | .integer value => Binary64.ofInt value
  | .real value => .finite value

end AgentGraph
