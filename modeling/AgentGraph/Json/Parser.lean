import AgentGraph.Json.Basic
import AgentGraph.Binary64.Numeral

/-!
Reading JSON. Arrays and objects nest at most 127 deep, a repeated key keeps its
last value, and white space is the space, the tab, the line feed and the carriage
return only.
-/

namespace AgentGraph.Json

open Binary64

/-- A reader of the head of a text: what it read, and the rest. -/
abbrev Reader (α : Type) := List Char → Option (α × List Char)

def isSpace (c : Char) : Bool :=
  c == ' ' || c == '\t' || c == '\n' || c == '\r'

def skipSpace (text : List Char) : List Char := text.dropWhile isSpace

/-- The greatest number of nested arrays and objects. -/
def maxDepth : Nat := 127

/-- An integer as long as 64 bits hold it; any other number is a double, which
has to be finite. A negative zero is a double. -/
def numberOf? (numeral : Numeral) (integral : Bool) : Option Number :=
  let digits := digitsValue numeral.whole
  if integral && !numeral.negative && digits < UInt64.size then
    some (.integer digits)
  else if integral && numeral.negative && 0 < digits && digits ≤ Nat.pow 2 63 then
    some (.integer (-(digits : Int)))
  else numeral.scaled?.map Number.real

/-- The digits before the point: a single zero, or digits that begin with none. -/
def wholeDigits? (text : List Char) : Option (List Char × List Char) :=
  match digits? text with
  | some ('0' :: _ :: _, _) => none
  | other => other

def readNumber (negative : Bool) (text : List Char) : Option (Number × List Char) := do
  let (whole, rest) ← wholeDigits? text
  let (fraction, rest) ← match rest with
    | '.' :: rest => digits? rest
    | _ => some ([], rest)
  let integral := fraction.isEmpty && !(rest.head?.any fun c => c == 'e' || c == 'E')
  let (exponent, rest) ← exponent? rest
  let number ← numberOf? ⟨negative, whole, fraction, exponent⟩ integral
  return (number, rest)

def hexValue? (c : Char) : Option Nat :=
  if '0' ≤ c ∧ c ≤ '9' then some (c.toNat - '0'.toNat)
  else if 'a' ≤ c ∧ c ≤ 'f' then some (c.toNat - 'a'.toNat + 10)
  else if 'A' ≤ c ∧ c ≤ 'F' then some (c.toNat - 'A'.toNat + 10)
  else none

/-- The 16-bit unit that four hexadecimal digits write. -/
def unit? (a b c d : Char) : Option Nat := do
  let a ← hexValue? a
  let b ← hexValue? b
  let c ← hexValue? c
  let d ← hexValue? d
  return ((a * 16 + b) * 16 + c) * 16 + d

def surrogatePair? (high low : Nat) : Option Char :=
  if 0xDC00 ≤ low ∧ low ≤ 0xDFFF then
    some (Char.ofNat (0x10000 + (high - 0xD800) * 0x400 + (low - 0xDC00)))
  else none

def simpleEscape? (c : Char) : Option Char :=
  match c with
  | '"' => some '"'
  | '\\' => some '\\'
  | '/' => some '/'
  | 'b' => some '\x08'
  | 'f' => some '\x0c'
  | 'n' => some '\n'
  | 'r' => some '\r'
  | 't' => some '\t'
  | _ => none

def followedBy (c : Char) :
    Option (List Char × List Char) → Option (List Char × List Char)
  | some (text, rest) => some (c :: text, rest)
  | none => none

/-- The characters of a string up to its closing quote, which is dropped. -/
def readCharacters : List Char → Option (List Char × List Char)
  | [] => none
  | '"' :: rest => some ([], rest)
  | '\\' :: 'u' :: a :: b :: c :: d :: rest =>
      match unit? a b c d with
      | none => none
      | some unit =>
          if 0xD800 ≤ unit ∧ unit ≤ 0xDBFF then
            match rest with
            | '\\' :: 'u' :: e :: f :: g :: h :: rest =>
                match (unit? e f g h).bind (surrogatePair? unit) with
                | none => none
                | some pair => followedBy pair (readCharacters rest)
            | _ => none
          else if 0xDC00 ≤ unit ∧ unit ≤ 0xDFFF then none
          else followedBy (Char.ofNat unit) (readCharacters rest)
  | '\\' :: c :: rest =>
      match simpleEscape? c with
      | none => none
      | some escaped => followedBy escaped (readCharacters rest)
  | c :: rest =>
      if c = '\\' ∨ c.toNat < 0x20 then none else followedBy c (readCharacters rest)

def readString (text : List Char) : Option (String × List Char) :=
  (readCharacters text).map fun (characters, rest) => (String.ofList characters, rest)

def literal? (word : String) (value : Json) (text : List Char) :
    Option (Json × List Char) :=
  (word.toList.isPrefixOf? text).map fun rest => (value, rest)

/-- Items parted by commas up to `closing`, at least one; `fuel` bounds their number. -/
def readItems {α : Type} (item : Reader α) (closing : Char) :
    Nat → Reader (List α)
  | 0, _ => none
  | fuel + 1, text => do
      let (value, rest) ← item (skipSpace text)
      match skipSpace rest with
      | c :: rest =>
          if c = closing then some ([value], rest)
          else if c = ',' then do
            let (values, rest) ← readItems item closing fuel rest
            return (value :: values, rest)
          else none
      | [] => none

/-- What stands between an opening bracket, which is dropped, and `closing`. -/
def readSequence {α : Type} (item : Reader α) (closing : Char) : Reader (List α) :=
  fun text =>
    match skipSpace text with
    | c :: rest =>
        if c = closing then some ([], rest)
        else readItems item closing text.length (c :: rest)
    | [] => none

def readMember (value : Reader Json) : Reader (String × Json) := fun text =>
  match text with
  | '"' :: text => do
      let (key, rest) ← readString text
      match skipSpace rest with
      | ':' :: rest => do
          let (value, rest) ← value (skipSpace rest)
          return ((key, value), rest)
      | _ => none
  | _ => none

/-- The value at the head of a text that begins with no white space; `depth`
counts the arrays and objects that may still be opened. -/
def readValue : (depth : Nat) → Reader Json
  | _, [] => none
  | _, 'n' :: text => literal? "ull" .null text
  | _, 't' :: text => literal? "rue" (.bool true) text
  | _, 'f' :: text => literal? "alse" (.bool false) text
  | _, '"' :: text => (readString text).map fun (value, rest) => (.string value, rest)
  | depth + 1, '[' :: text =>
      (readSequence (readValue depth) ']' text).map fun (items, rest) =>
        (.array items, rest)
  | depth + 1, '\x7b' :: text =>
      (readSequence (readMember (readValue depth)) '\x7d' text).map fun (members, rest) =>
        (ofDict (Dict.ofList members), rest)
  | _, '-' :: text => (readNumber true text).map fun (value, rest) =>
      (.number value, rest)
  | _, text => (readNumber false text).map fun (value, rest) =>
      (.number value, rest)

def parse? (text : String) : Option Json :=
  match readValue maxDepth (skipSpace text.toList) with
  | some (value, rest) => if (skipSpace rest).isEmpty then some value else none
  | none => none

end AgentGraph.Json
