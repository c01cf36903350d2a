import AgentGraph.Toml.Basic
import AgentGraph.Binary64.Numeral
import AgentGraph.Calendar.Basic

/-!
The tokens of TOML: line ends and comments, keys, strings, numbers, and dates and
times.
-/

namespace AgentGraph.Toml

/-- A reader of the head of a text: what it read, and the rest. -/
abbrev Reader (α : Type) := List Char → Option (α × List Char)

def isBlank (c : Char) : Bool := c == ' ' || c == '\t'

def skipBlank (text : List Char) : List Char := text.dropWhile isBlank

/-- Every character but the controls; the tab is one of them. -/
def isVisible (c : Char) : Bool :=
  c == '\t' || (0x20 ≤ c.toNat && c.toNat ≠ 0x7F)

def dropNewline? : List Char → Option (List Char)
  | '\n' :: rest => some rest
  | '\r' :: '\n' :: rest => some rest
  | _ => none

def skipComment : List Char → List Char
  | '#' :: rest => rest.dropWhile isVisible
  | text => text

def dropLineEnd? (text : List Char) : Option (List Char) :=
  match skipComment (skipBlank text) with
  | [] => some []
  | rest => dropNewline? rest

/-- Blanks, comments and line ends skipped; `fuel` bounds the number of lines. -/
def skipLines : (fuel : Nat) → List Char → List Char
  | 0, text => text
  | fuel + 1, text =>
      let text := skipBlank text
      match dropNewline? (skipComment text) with
      | some rest => skipLines fuel rest
      | none => text

def skipSpace (text : List Char) : List Char := skipLines text.length text

def isBareKeyChar (c : Char) : Bool := c.isAlphanum || c == '_' || c == '-'

def hexValue? (c : Char) : Option Nat :=
  if c.isDigit then some (c.toNat - '0'.toNat)
  else if 'a' ≤ c ∧ c ≤ 'f' then some (c.toNat - 'a'.toNat + 10)
  else if 'A' ≤ c ∧ c ≤ 'F' then some (c.toNat - 'A'.toNat + 10)
  else none

/-- The character whose code is written by exactly `count` hexadecimal digits. -/
def readCode (count : Nat) (text : List Char) : Option (Char × List Char) := do
  let digits ← (text.take count).mapM hexValue?
  let code := digits.foldl (fun value digit => 16 * value + digit) 0
  if digits.length = count ∧ code.isValidChar then
    some (Char.ofNat code, text.drop count)
  else none

/-- The character that an escape stands for; its backslash is dropped. -/
def readEscape : List Char → Option (Char × List Char)
  | 'b' :: rest => some ('\x08', rest)
  | 'f' :: rest => some ('\x0c', rest)
  | 'n' :: rest => some ('\n', rest)
  | 'r' :: rest => some ('\r', rest)
  | 't' :: rest => some ('\t', rest)
  | '"' :: rest => some ('"', rest)
  | '\\' :: rest => some ('\\', rest)
  | 'u' :: rest => readCode 4 rest
  | 'U' :: rest => readCode 8 rest
  | _ => none

/-- The four kinds of strings: quoted by one mark or three, with escapes or without. -/
structure Quotation where
  mark : Char
  isEscaped : Bool
  isMultiline : Bool

def skipBlankLines : List Char → List Char
  | ' ' :: rest | '\t' :: rest | '\n' :: rest | '\r' :: '\n' :: rest => skipBlankLines rest
  | text => text

/-- What follows a backslash at the end of a line: the next character that is neither
blank nor a line end. -/
def dropLineJoin? (text : List Char) : Option (List Char) :=
  (dropNewline? (skipBlank text)).map skipBlankLines

/-- The characters of a string up to its closing marks, which are dropped. Of more
than three marks in a row the last three close, and at most two come before them. -/
def readQuoted (quotation : Quotation) : (fuel : Nat) → List Char →
    Option (List Char × List Char)
  | 0, _ => none
  | fuel + 1, text =>
      match text with
      | [] => none
      | c :: rest =>
          if c = quotation.mark then
            if quotation.isMultiline then
              let marks := (c :: rest).takeWhile (· == quotation.mark)
              let count := marks.length
              if count < 3 then do
                let (value, rest) ← readQuoted quotation fuel (rest.drop (count - 1))
                return (marks ++ value, rest)
              else if count ≤ 5 then
                some (marks.drop 3, rest.drop (count - 1))
              else none
            else some ([], rest)
          else if c = '\\' ∧ quotation.isEscaped then
            match if quotation.isMultiline then dropLineJoin? rest else none with
            | some rest => readQuoted quotation fuel rest
            | none => do
                let (escaped, rest) ← readEscape rest
                let (value, rest) ← readQuoted quotation fuel rest
                return (escaped :: value, rest)
          else if isVisible c then do
            let (value, rest) ← readQuoted quotation fuel rest
            return (c :: value, rest)
          else if quotation.isMultiline then do
            let (value, rest) ← readQuoted quotation fuel (← dropNewline? (c :: rest))
            return ('\n' :: value, rest)
          else none

private def quotedBy (mark : Char) (isMultiline : Bool) : Reader String := fun text => do
  let (value, rest) ← readQuoted ⟨mark, mark == '"', isMultiline⟩ (text.length + 1) text
  return (String.ofList value, rest)

def readLineString (mark : Char) : Reader String := quotedBy mark false

/-- A string of any kind. A line end right after three opening marks is dropped. -/
def readString (mark : Char) : Reader String
  | a :: b :: c :: rest =>
      if a = mark ∧ b = mark ∧ c = mark then
        quotedBy mark true ((dropNewline? rest).getD rest)
      else if a = mark then readLineString mark (b :: c :: rest)
      else none
  | a :: rest => if a = mark then readLineString mark rest else none
  | [] => none

def readSimpleKey (text : List Char) : Option (String × List Char) :=
  match text with
  | '"' :: rest => readLineString '"' rest
  | '\'' :: rest => readLineString '\'' rest
  | _ =>
      match text.takeWhile isBareKeyChar with
      | [] => none
      | key => some (String.ofList key, text.dropWhile isBareKeyChar)

def readKeyParts : (fuel : Nat) → Reader (List String)
  | 0, _ => none
  | fuel + 1, text => do
      let (part, rest) ← readSimpleKey (skipBlank text)
      match skipBlank rest with
      | '.' :: rest => do
          let (parts, rest) ← readKeyParts fuel rest
          return (part :: parts, rest)
      | rest => some ([part], rest)

/-- How deep keys, arrays and inline tables may nest. -/
def maxDepth : Nat := 79

def readKey (text : List Char) : Option ((List String × String) × List Char) := do
  let (parts, rest) ← readKeyParts maxDepth text
  let key ← parts.getLast?
  return ((parts.dropLast, key), rest)

def moreDigits (isDigit : Char → Bool) : List Char → List Char × List Char
  | [] => ([], [])
  | '_' :: d :: rest =>
      if isDigit d then
        let (digits, rest) := moreDigits isDigit rest
        (d :: digits, rest)
      else ([], '_' :: d :: rest)
  | c :: rest =>
      if isDigit c then
        let (digits, rest) := moreDigits isDigit rest
        (c :: digits, rest)
      else ([], c :: rest)

def readDigits (isDigit : Char → Bool) : List Char → Option (List Char × List Char)
  | [] => none
  | c :: rest =>
      if isDigit c then
        let (digits, rest) := moreDigits isDigit rest
        some (c :: digits, rest)
      else none

def readSign : List Char → Bool × List Char
  | '-' :: rest => (true, rest)
  | '+' :: rest => (false, rest)
  | text => (false, text)

/-- Decimal digits without leading zeros, with an optional sign. -/
def readDecimal (text : List Char) : Option ((Bool × List Char) × List Char) :=
  let (negative, text) := readSign text
  match text with
  | '0' :: rest => some ((negative, ['0']), rest)
  | text => (readDigits Char.isDigit text).map fun (digits, rest) => ((negative, digits), rest)

def integer? (value : Int) : Option Scalar :=
  if Int64.minValue.toInt ≤ value ∧ value ≤ Int64.maxValue.toInt then some (.integer value)
  else none

private def ofDigits (base : Nat) (digits : List Char) : Nat :=
  digits.foldl (fun value digit => base * value + (hexValue? digit).getD 0) 0

def base? : Char → Option Nat
  | 'x' => some 16
  | 'o' => some 8
  | 'b' => some 2
  | _ => none

def isDigitOf (base : Nat) (c : Char) : Bool := (hexValue? c).any fun value => value < base

def readDecimalInteger (text : List Char) : Option (Scalar × List Char) := do
  let ((negative, digits), rest) ← readDecimal text
  let value := (ofDigits 10 digits : Int)
  return (← integer? (if negative then -value else value), rest)

def readInteger (text : List Char) : Option (Scalar × List Char) :=
  match text with
  | '0' :: letter :: rest =>
      match base? letter with
      | some base => do
          let (digits, rest) ← readDigits (isDigitOf base) rest
          return (← integer? (ofDigits base digits), rest)
      | none => readDecimalInteger text
  | _ => readDecimalInteger text

def readExponent : Reader Int
  | letter :: rest =>
      if letter = 'e' ∨ letter = 'E' then do
        let (negative, rest) := readSign rest
        let (digits, rest) ← readDigits Char.isDigit rest
        let value := (ofDigits 10 digits : Int)
        return (if negative then -value else value, rest)
      else none
  | [] => none

def readScale : List Char → Option ((List Char × Int) × List Char)
  | '.' :: text => do
      let (fraction, rest) ← readDigits Char.isDigit text
      match readExponent rest with
      | some (exponent, rest) => return ((fraction, exponent), rest)
      | none => return ((fraction, 0), rest)
  | text => do
      let (exponent, rest) ← readExponent text
      return (([], exponent), rest)

/-- Digits with a point or an exponent. What exceeds the greatest double is refused;
what lies below the least one is infinite. -/
def readNumeral (text : List Char) : Option (Scalar × List Char) := do
  let ((negative, whole), rest) ← readDecimal text
  let ((fraction, exponent), rest) ← readScale rest
  let value := Binary64.Numeral.nearest ⟨negative, whole, fraction, exponent⟩
  if value = .infinite false then none else some (.float value, rest)

def readFloat (text : List Char) : Option (Scalar × List Char) :=
  (readNumeral text).or (
    let (negative, rest) := readSign text
    match rest with
    | 'i' :: 'n' :: 'f' :: rest => some (.float (.infinite negative), rest)
    | 'n' :: 'a' :: 'n' :: rest => some (.float .nan, rest)
    | _ => none)

def readBounded (width least greatest : Nat) (text : List Char) :
    Option (Nat × List Char) :=
  let digits := text.take width
  let value := ofDigits 10 digits
  if digits.length = width ∧ digits.all Char.isDigit ∧ least ≤ value ∧ value ≤ greatest then
    some (value, text.drop width)
  else none

def drop? (c : Char) : List Char → Option (List Char)
  | d :: rest => if c = d then some rest else none
  | [] => none

def dropDate? (text : List Char) : Option (List Char) := do
  let (year, rest) ← readBounded 4 0 9999 text
  let (month, rest) ← readBounded 2 1 12 (← drop? '-' rest)
  let (_, rest) ← readBounded 2 1 (Calendar.daysInMonth year month) (← drop? '-' rest)
  return rest

/-- What follows a time of day. A second may be 60. -/
def dropTime? (text : List Char) : Option (List Char) := do
  let (_, rest) ← readBounded 2 0 23 text
  let (_, rest) ← readBounded 2 0 59 (← drop? ':' rest)
  let (_, rest) ← readBounded 2 0 60 (← drop? ':' rest)
  match rest with
  | '.' :: c :: fraction =>
      if c.isDigit then some (fraction.dropWhile Char.isDigit) else some rest
  | _ => some rest

def dropOffset? (text : List Char) : Option (List Char) :=
  match text with
  | 'Z' :: rest | 'z' :: rest => some rest
  | '+' :: rest | '-' :: rest => do
      let (_, rest) ← readBounded 2 0 23 rest
      let (_, rest) ← readBounded 2 0 59 (← drop? ':' rest)
      return rest
  | _ => none

/-- What follows a date with a time and an offset, a date with a time, a date alone or
a time alone. -/
def dropDatetime? (text : List Char) : Option (List Char) :=
  match dropDate? text with
  | none => dropTime? text
  | some rest =>
      match rest with
      | c :: after =>
          if c = 'T' ∨ c = 't' ∨ c = ' ' then
            match dropTime? after with
            | some rest => some ((dropOffset? rest).getD rest)
            | none => some rest
          else some rest
      | [] => some rest

def readDatetime (text : List Char) : Option (Scalar × List Char) := do
  let rest ← dropDatetime? text
  let read := text.take (text.length - rest.length)
  return (.datetime (String.ofList read), rest)

def readWord (word : String) (value : Scalar) (text : List Char) :
    Option (Scalar × List Char) :=
  (word.toList.isPrefixOf? text).map fun rest => (value, rest)

/-- A value that is neither an array nor an inline table. -/
def readScalar (text : List Char) : Option (Scalar × List Char) :=
  match text with
  | '"' :: _ => (readString '"' text).map fun (value, rest) => (.string value, rest)
  | '\'' :: _ => (readString '\'' text).map fun (value, rest) => (.string value, rest)
  | 't' :: _ => readWord "true" (.boolean true) text
  | 'f' :: _ => readWord "false" (.boolean false) text
  | _ => (readDatetime text).or ((readFloat text).or (readInteger text))

end AgentGraph.Toml
