import AgentGraph.Calendar.Basic
import AgentGraph.Text.Blank

/-!
Patterns of dates and times. A pattern is a list of parts; each part reads the
head of a text and passes on the rest, and a number is checked against the range
of its component as soon as it is read.
-/

namespace AgentGraph.Calendar

inductive Fault where
  | premature
  | invalid
  | outOfRange
  | impossible
  | trailing
deriving DecidableEq

def Fault.message : Fault → String
  | .premature => "premature end of input"
  | .invalid => "input contains invalid characters"
  | .outOfRange => "input is out of range"
  | .impossible => "no possible date and time matching input"
  | .trailing => "trailing input"

inductive Component where
  | year
  | month
  | day
  | hour
  | minute
  | second
deriving DecidableEq

/-- The least and the greatest value that is taken. A second may be 60. -/
def Component.bounds : Component → Int × Int
  | .year => (Int32.minValue.toInt, Int32.maxValue.toInt)
  | .month => (1, 12)
  | .day => (1, 31)
  | .hour => (0, 23)
  | .minute => (0, 59)
  | .second => (0, 60)

/-- The greatest number of digits without a sign. -/
def Component.width : Component → Nat
  | .year => 4
  | _ => 2

/-- The numbers read so far; those that a pattern leaves out are zero. -/
structure Fields where
  year : Int := 0
  month : Nat := 0
  day : Nat := 0
  hour : Nat := 0
  minute : Nat := 0
  second : Nat := 0
  nanosecond : Nat := 0

def Fields.put (fields : Fields) (component : Component) (value : Int) :
    Except Fault Fields :=
  if component.bounds.1 ≤ value ∧ value ≤ component.bounds.2 then
    .ok (match component with
      | .year => { fields with year := value }
      | .month => { fields with month := value.toNat }
      | .day => { fields with day := value.toNat }
      | .hour => { fields with hour := value.toNat }
      | .minute => { fields with minute := value.toNat }
      | .second => { fields with second := value.toNat })
  else .error .outOfRange

inductive Part where
  /-- A number of exactly as many digits as its component is wide. -/
  | exact (component : Component)
  /-- White space and a number of one digit or more. A year may carry a sign, and
  then has any number of digits. -/
  | number (component : Component)
  /-- Nothing, or a point and digits; those after the ninth are dropped. -/
  | fraction
  | gap
  | mark (c : Char)
  /-- A letter T of either case, or a space. -/
  | divider

/-- At least `least` and at most `most` digits at the head of `text`. -/
def readDigits (least most : Nat) (text : List Char) :
    Except Fault (List Char × List Char) :=
  let digits := (text.takeWhile Char.isDigit).take most
  let rest := text.drop digits.length
  if least ≤ digits.length then .ok (digits, rest)
  else if rest.isEmpty then .error .premature
  else .error .invalid

def readNatural (least most : Nat) (text : List Char) :
    Except Fault (Nat × List Char) := do
  let (digits, rest) ← readDigits least most text
  return (Nat.ofDigitChars 10 digits 0, rest)

/-- A number with an explicit sign if its component may have one. -/
def readSigned (component : Component) (text : List Char) :
    Except Fault (Int × List Char) :=
  match component, text with
  | .year, '-' :: rest => do
      let (value, rest) ← readNatural 1 rest.length rest
      return (-(value : Int), rest)
  | .year, '+' :: rest => do
      let (value, rest) ← readNatural 1 rest.length rest
      return ((value : Int), rest)
  | component, text => do
      let (value, rest) ← readNatural 1 component.width text
      return ((value : Int), rest)

def nanoseconds (digits : List Char) : Nat :=
  Nat.ofDigitChars 10 ((digits.take 9).rightpad 9 '0') 0

def dropChar (fits : Char → Bool) : List Char → Except Fault (List Char)
  | [] => .error .premature
  | c :: rest => if fits c then .ok rest else .error .invalid

def isDivider (c : Char) : Bool := c == 'T' || c == 't' || c == ' '

def Part.read (part : Part) (fields : Fields) (text : List Char) :
    Except Fault (Fields × List Char) :=
  match part with
  | .exact component => do
      let (value, rest) ← readNatural component.width component.width text
      return (← fields.put component value, rest)
  | .number component => do
      let (value, rest) ← readSigned component (Text.dropBlank text)
      return (← fields.put component value, rest)
  | .fraction =>
      match text with
      | '.' :: text => do
          let (digits, rest) ← readDigits 1 text.length text
          return ({ fields with nanosecond := nanoseconds digits }, rest)
      | _ => .ok (fields, text)
  | .gap => .ok (fields, Text.dropBlank text)
  | .mark c => do
      return (fields, ← dropChar (· == c) text)
  | .divider => do
      return (fields, ← dropChar isDivider text)

def readParts : List Part → Fields → List Char →
    Except Fault (Fields × List Char)
  | [], fields, text => .ok (fields, text)
  | part :: parts, fields, text => do
      let (fields, rest) ← part.read fields text
      readParts parts fields rest

def leastYear : Int := -262143

def greatestYear : Int := 262142

def isSupported (date : Date) : Bool :=
  leastYear ≤ date.year && date.year ≤ greatestYear

/-- The time of day that the fields tell; second 60 is a leap second. -/
def Fields.clock (fields : Fields) : Clock :=
  let leap := fields.second == 60
  .ofNat fields.hour fields.minute (if leap then 59 else fields.second)
    (fields.nanosecond + if leap then 1000000000 else 0)

def Fields.moment (fields : Fields) : Except Fault Moment :=
  match Date.of? fields.year fields.month fields.day with
  | some date =>
      if isSupported date then .ok ⟨date, fields.clock⟩ else .error .outOfRange
  | none => .error .outOfRange

def readMoment (parts : List Part) (text : List Char) : Except Fault Moment := do
  let (fields, rest) ← readParts parts {} text
  if rest.isEmpty then fields.moment else .error .trailing

end AgentGraph.Calendar
