import AgentGraph.Calendar.Pattern

/-!
Timestamps with a UTC offset. The strict form fixes the width of every number;
the lenient form takes short numbers, signed years, white space between the parts
and the zone `UTC`. Both give the moment in UTC.
-/

namespace AgentGraph.Calendar

def strictParts : List Part :=
  [.exact .year, .mark '-', .exact .month, .mark '-', .exact .day, .divider,
    .exact .hour, .mark ':', .exact .minute, .mark ':', .exact .second, .fraction]

def lenientParts : List Part :=
  [.number .year, .gap, .mark '-', .number .month, .gap, .mark '-', .number .day,
    .divider, .number .hour, .gap, .mark ':', .number .minute, .gap, .mark ':',
    .number .second, .fraction, .gap]

private def digitValue (c : Char) : Nat := c.toNat - '0'.toNat

/-- Two digits of an offset; `bound` is the least character that is too great for
the first one. A text of one byte is too short, also where its character is wrong. -/
def readPair (bound : Char) : List Char → Except Fault (Nat × List Char)
  | [] => .error .premature
  | [c] => if c.toNat < 0x80 then .error .premature else .error .invalid
  | c :: d :: rest =>
      if c.isDigit && d.isDigit then
        if c < bound then .ok (10 * digitValue c + digitValue d, rest)
        else .error .outOfRange
      else .error .invalid

/-- The seconds of a signed offset in hours and minutes, with `gap` between them. -/
def readHoursMinutes (gap : List Char → Except Fault (List Char)) (text : List Char) :
    Except Fault (Nat × List Char) := do
  let (hours, rest) ← readPair ':' text
  let (minutes, rest) ← readPair '6' (← gap rest)
  return (hours * 3600 + minutes * 60, rest)

/-- The seconds by which a zone is ahead of UTC. -/
def readOffset (gap : List Char → Except Fault (List Char)) :
    List Char → Except Fault (Int × List Char)
  | [] => .error .premature
  | c :: rest =>
      if c = 'Z' ∨ c = 'z' then .ok (0, rest)
      else if c = '+' then do
        let (seconds, rest) ← readHoursMinutes gap rest
        return ((seconds : Int), rest)
      else if c = '-' ∨ c = '\u2212' then do
        let (seconds, rest) ← readHoursMinutes gap rest
        return (-(seconds : Int), rest)
      else .error .invalid

def skipColons (text : List Char) : List Char :=
  text.dropWhile fun c => c == ':' || Text.isBlank c

def readZone (text : List Char) : Except Fault (Int × List Char) :=
  if (text.take 3).map Char.toUpper = ['U', 'T', 'C'] then .ok (0, text.drop 3)
  else readOffset (fun rest => .ok (skipColons rest)) text

def Fields.instant (fields : Fields) (offset : Int) : Except Fault Moment := do
  let moment ← fields.moment
  if secondsPerDay ≤ offset.natAbs then .error .outOfRange
  else
    let instant := moment.plus (-offset)
    if isSupported instant.date then .ok instant else .error .impossible

def strict? (text : String) : Option Moment :=
  let read : Except Fault Moment := do
    let (fields, rest) ← readParts strictParts {} text.toList
    let (offset, rest) ← readOffset (dropChar (· == ':')) rest
    if rest.isEmpty then fields.instant offset else .error .trailing
  read.toOption

/-- The moment in UTC that a text tells in the lenient form; white space may follow. -/
def lenient (text : String) : Except Fault Moment := do
  let (fields, rest) ← readParts lenientParts {} text.toList
  let (offset, rest) ← readZone rest
  if rest.all Text.isBlank then fields.instant offset else .error .trailing

def padded (width value : Nat) : String :=
  let digits := value.repr
  String.ofList (List.replicate (width - digits.length) '0') ++ digits

/-- Four digits, and a sign outside of the years 0 to 9999. -/
def yearText (year : Int) : String :=
  if 0 ≤ year ∧ year ≤ 9999 then padded 4 year.toNat
  else (if year < 0 then "-" else "+") ++ padded 4 year.natAbs

/-- The fewest of three, six and nine places that keep the value; none for zero. -/
def fractionText (nanosecond : Nat) : String :=
  if nanosecond = 0 then ""
  else if nanosecond % 1000000 = 0 then "." ++ padded 3 (nanosecond / 1000000)
  else if nanosecond % 1000 = 0 then "." ++ padded 6 (nanosecond / 1000)
  else "." ++ padded 9 nanosecond

/-- A moment in UTC in the strict form. A leap second is second 60. -/
def Moment.text (moment : Moment) : String :=
  let clock := moment.clock
  let leap := 1000000000 ≤ clock.nanosecond.val
  yearText moment.date.year ++ "-" ++ padded 2 moment.date.month ++ "-" ++
    padded 2 moment.date.day ++ "T" ++ padded 2 clock.hour ++ ":" ++
    padded 2 clock.minute ++ ":" ++
    padded 2 (clock.second.val + if leap then 1 else 0) ++
    fractionText (clock.nanosecond.val % 1000000000) ++ "Z"

def epoch : Moment := ⟨.newYear 1970, .ofNat 0 0 0 0⟩

end AgentGraph.Calendar
