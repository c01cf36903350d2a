/-!
Dates of the proleptic Gregorian calendar, times of day, and moving a moment by
seconds. The year 0 is a leap year, and years before it are negative.
-/

namespace AgentGraph.Calendar

def isLeapYear (year : Int) : Bool :=
  year % 4 == 0 && (year % 100 != 0 || year % 400 == 0)

def daysInMonth (year : Int) (month : Nat) : Nat :=
  if month = 2 then (if isLeapYear year then 29 else 28)
  else if month = 4 ∨ month = 6 ∨ month = 9 ∨ month = 11 then 30
  else 31

theorem twentyEight_le_daysInMonth (year : Int) (month : Nat) :
    28 ≤ daysInMonth year month := by
  unfold daysInMonth
  repeat' split
  all_goals decide

theorem one_le_daysInMonth (year : Int) (month : Nat) : 1 ≤ daysInMonth year month :=
  Nat.le_trans (by decide) (twentyEight_le_daysInMonth year month)

structure Date where
  year : Int
  month : Nat
  day : Nat
  month_bounds : 1 ≤ month ∧ month ≤ 12
  day_bounds : 1 ≤ day ∧ day ≤ daysInMonth year month
deriving DecidableEq

def Date.of? (year : Int) (month day : Nat) : Option Date :=
  if bounds : (1 ≤ month ∧ month ≤ 12) ∧ (1 ≤ day ∧ day ≤ daysInMonth year month) then
    some ⟨year, month, day, bounds.1, bounds.2⟩
  else none

def Date.newYear (year : Int) : Date :=
  ⟨year, 1, 1, by decide, by decide, one_le_daysInMonth _ _⟩

def Date.next (date : Date) : Date :=
  if inMonth : date.day + 1 ≤ daysInMonth date.year date.month then
    ⟨date.year, date.month, date.day + 1, date.month_bounds, by omega, inMonth⟩
  else if inYear : date.month + 1 ≤ 12 then
    ⟨date.year, date.month + 1, 1, ⟨by omega, inYear⟩, by decide,
      one_le_daysInMonth _ _⟩
  else .newYear (date.year + 1)

def Date.previous (date : Date) : Date :=
  if inMonth : 2 ≤ date.day then
    ⟨date.year, date.month, date.day - 1, date.month_bounds, by omega,
      Nat.le_trans (Nat.sub_le _ _) date.day_bounds.2⟩
  else if inYear : 2 ≤ date.month then
    ⟨date.year, date.month - 1, daysInMonth date.year (date.month - 1),
      ⟨by omega, Nat.le_trans (Nat.sub_le _ _) date.month_bounds.2⟩,
      one_le_daysInMonth _ _, Nat.le_refl _⟩
  else ⟨date.year - 1, 12, 31, by decide, by decide, Nat.le_refl _⟩

def Date.plus (date : Date) : Int → Date
  | .ofNat days => Nat.repeat Date.next days date
  | .negSucc days => Nat.repeat Date.previous (days + 1) date

def secondsPerDay : Nat := 86400

/-- A time of day. A leap second is the second before it with a whole second
more of nanoseconds. -/
structure Clock where
  hour : Fin 24
  minute : Fin 60
  second : Fin 60
  nanosecond : Fin 2000000000
deriving DecidableEq

def Clock.secondOfDay (clock : Clock) : Nat :=
  clock.hour.val * 3600 + clock.minute.val * 60 + clock.second.val

/-- The time of day that these numbers tell, each of them modulo its range. -/
def Clock.ofNat (hour minute second nanosecond : Nat) : Clock :=
  ⟨Fin.ofNat 24 hour, Fin.ofNat 60 minute, Fin.ofNat 60 second,
    Fin.ofNat 2000000000 nanosecond⟩

def Clock.ofSecondOfDay (second : Nat) (nanosecond : Fin 2000000000) : Clock :=
  .ofNat (second / 3600) (second / 60) second nanosecond.val

structure Moment where
  date : Date
  clock : Clock
deriving DecidableEq

def Moment.plus (moment : Moment) (seconds : Int) : Moment :=
  let total := (moment.clock.secondOfDay : Int) + seconds
  ⟨moment.date.plus (total / secondsPerDay),
    Clock.ofSecondOfDay (total % secondsPerDay).toNat moment.clock.nanosecond⟩

end AgentGraph.Calendar
