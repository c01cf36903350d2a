import AgentGraph.Calendar.Timestamp
import AgentGraph.Literal.Basic
import AgentGraph.Node.Basic

/-!
When a timed behaviour starts.
-/

namespace AgentGraph

open Calendar

inductive StartTime where
  /-- A date and time of day without a zone. -/
  | wallClock (moment : Moment)
  /-- A date and time in UTC. -/
  | instant (moment : Moment)
  /-- Seconds after the program's start. -/
  | delay (seconds : Binary64)
deriving DecidableEq

namespace StartTime

def wallClockPatterns : List (List Part) :=
  let date : List Part := [.number .year, .mark '-', .number .month, .mark '-', .number .day]
  let minutes : List Part := [.number .hour, .mark ':', .number .minute]
  let seconds : List Part := minutes ++ [.mark ':', .number .second]
  [date ++ [.mark 'T'] ++ seconds,
    date ++ [.mark 'T'] ++ seconds ++ [.fraction],
    date ++ [.mark 'T'] ++ minutes,
    date ++ [.gap] ++ seconds]

def ofText? (text : String) : Option StartTime :=
  let text := Text.trim text
  match strict? text with
  | some moment => some (.instant moment)
  | none =>
      (wallClockPatterns.findSome? fun parts => (readMoment parts text.toList).toOption).map
        wallClock

/-- Year, month, day, hour, minute and second, and microseconds where there are any. -/
def momentFields (moment : Moment) : List String :=
  let clock := moment.clock
  let microseconds := clock.nanosecond.val / 1000
  [toString moment.date.year, moment.date.month.repr, moment.date.day.repr,
    clock.hour.val.repr, clock.minute.val.repr, clock.second.val.repr] ++
  (if microseconds = 0 then [] else [microseconds.repr])

def momentText (moment : Moment) : String :=
  ", ".intercalate (momentFields moment)

def expression : StartTime → String
  | .wallClock moment => "datetime.datetime(" ++ momentText moment ++ ")"
  | .instant moment =>
      "datetime.datetime(" ++ momentText moment ++ ", tzinfo=datetime.timezone.utc)"
  | .delay seconds =>
      "datetime.datetime.now() + datetime.timedelta(seconds=" ++ Literal.number seconds ++
        ")"

end StartTime

def validDelay? (seconds : Binary64) : Option Binary64 :=
  if seconds.isFinite && seconds.isNonnegative then some seconds else none

/-- When the behaviour starts; a mode left out is absolute. -/
def Behaviour.start? (behaviour : Behaviour) : Option StartTime :=
  match behaviour.startMode.getD .absolute with
  | .absolute => behaviour.startAt.bind StartTime.ofText?
  | .relative => (behaviour.startOffset.bind validDelay?).map .delay

end AgentGraph
