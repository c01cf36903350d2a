import AgentGraph.Proofs.Calendar.OffsetTime
import AgentGraph.Proofs.Program.StartTimes
import Mathlib.Algebra.Order.Floor.Semifield

/-!
Start times with an offset. The program gets the instant that was typed, in UTC and down to whole
microseconds, so that it does not matter in which zone the instant was typed.
-/

namespace AgentGraph

open Calendar

namespace DatetimeCall

/-- Which microsecond a call in UTC denotes, counted as the days of dates are. -/
inductive Denotes : DatetimeCall → Int → Prop
  | whole (date : Date) (hour : Fin 24) (minute second : Fin 60) :
      Denotes ⟨[date.year, date.month, date.day, hour, minute, second], true⟩
        ((date.number * 86400 + hour * 3600 + minute * 60 + second) * 1000000)
  | fractional (date : Date) (hour : Fin 24) (minute second : Fin 60)
      (microsecond : Fin 1000000) :
      Denotes ⟨[date.year, date.month, date.day, hour, minute, second, microsecond], true⟩
        ((date.number * 86400 + hour * 3600 + minute * 60 + second) * 1000000 + microsecond)

end DatetimeCall

namespace StartTime

theorem denotes_momentNumbers {moment : Moment}
    (ordinary : moment.clock.nanosecond.val < 1000000000) :
    (DatetimeCall.mk (momentNumbers moment) true).Denotes
      (moment.secondNumber * 1000000 + (moment.clock.nanosecond.val / 1000 : Nat)) := by
  obtain ⟨date, ⟨hour, minute, second, nanosecond⟩⟩ := moment
  have seconds : date.number * 86400 + hour * 3600 + minute * 60 + second =
      Moment.secondNumber ⟨date, ⟨hour, minute, second, nanosecond⟩⟩ := by
    simp only [Moment.secondNumber, Clock.secondOfDay]
    omega
  dsimp only at ordinary ⊢
  rw [← seconds]
  unfold momentNumbers
  dsimp only
  split
  · next whole =>
      rw [whole, Nat.cast_zero, Int.add_zero]
      exact .whole date hour minute second
  · exact .fractional date hour minute second ⟨nanosecond.val / 1000, by omega⟩

theorem ofText?_offsetTime {text : String} {time : OffsetTime}
    (written : Text.trim text = time.text) : ofText? text = some (.instant time.utcMoment) := by
  unfold ofText?
  simp only [written, time.strict?_text]

end StartTime

namespace Calendar

theorem microseconds_digitChars (digits : List (Fin 10)) :
    ((nanoseconds (digitChars digits) / 1000 : Nat) : Int) = ⌊fraction digits * 1000000⌋ := by
  have nonnegative : 0 ≤ fraction digits * 1000000 :=
    mul_nonneg (fraction_bounds digits).1 (by positivity)
  have scaled : fraction digits * 1000000 = fraction digits * 10 ^ 9 / (1000 : Nat) := by
    push_cast
    ring
  rw [← Int.natCast_floor_eq_floor nonnegative, scaled, Nat.floor_div_natCast,
    nanoseconds_digitChars]

theorem OffsetTime.utcMoment_eq {time other : OffsetTime} (same : other.instant = time.instant) :
    other.utcMoment = time.utcMoment := by
  have floor (time : OffsetTime) : ⌊time.instant⌋ = time.utcSecond := by
    rw [instant, Int.floor_intCast_add, Int.floor_eq_zero_iff.mpr (fraction_bounds _), Int.add_zero]
  have seconds : other.utcSecond = time.utcSecond := by
    rw [← floor, ← floor, same]
  have fractions : fraction other.digits = fraction time.digits := by
    unfold instant at same
    rw [seconds] at same
    exact add_left_cancel same
  apply Moment.eq_of_secondNumber_eq
  · rw [secondNumber_utcMoment, secondNumber_utcMoment, seconds]
  · apply Fin.ext
    rw [nanosecond_utcMoment, nanosecond_utcMoment, nanoseconds_digitChars,
      nanoseconds_digitChars, fractions]

end Calendar

namespace StartTime

/-- A typed time with an offset starts a behaviour at a call in UTC, which denotes the local time
less its offset, the fraction cut to whole microseconds; and what is typed for the same instant in
another zone, or with other digits, becomes the same call. -/
theorem denotes_offsetTime (time : OffsetTime) {text : String}
    (written : Text.trim text = time.text) :
    ∃ (start : StartTime) (call : DatetimeCall),
      ofText? text = some start ∧ start.expression = call.text ∧ call.inUtc = true ∧
        call.Denotes ((time.localSecond - time.zone.seconds) * 1000000 +
          ⌊fraction time.digits * 1000000⌋) ∧
        ∀ (other : OffsetTime) (typed : String), Text.trim typed = other.text →
          other.instant = time.instant →
            (ofText? typed).map expression = some start.expression := by
  have ordinary : time.utcMoment.clock.nanosecond.val < 1000000000 := by
    rw [time.nanosecond_utcMoment]
    exact nanoseconds_lt time.digits
  refine ⟨.instant time.utcMoment, ⟨momentNumbers time.utcMoment, true⟩,
    ofText?_offsetTime written, expression_instant _, rfl, ?_, ?_⟩
  · have denotes := denotes_momentNumbers ordinary
    rwa [time.secondNumber_utcMoment, time.nanosecond_utcMoment, microseconds_digitChars]
      at denotes
  · intro other typed otherWritten same
    rw [ofText?_offsetTime otherWritten, OffsetTime.utcMoment_eq same]
    rfl

def marchAhead : OffsetTime where
  date := ⟨2024, 3, 1, by decide, by decide⟩
  year_bounds := by decide
  divider := 'T'
  isDivider := by decide
  hour := ⟨0, by decide⟩
  minute := ⟨59, by decide⟩
  second := ⟨59, by decide⟩
  digits := [9, 9, 9, 9, 9, 9, 9, 9, 9, 9]
  zone := .ahead ⟨1, by decide⟩ ⟨0, by decide⟩

def leapDayBehind : OffsetTime where
  date := marchAhead.date.previous
  year_bounds := by decide
  divider := ' '
  isDivider := by decide
  hour := ⟨18, by decide⟩
  minute := ⟨29, by decide⟩
  second := marchAhead.second
  digits := [9, 9, 9, 9, 9, 9, 9, 9, 9, 9, 0]
  zone := .behind '-' (by decide) ⟨5, by decide⟩ ⟨30, by decide⟩

theorem denotes_offsetTime_leapDay :
    Text.trim "\t2024-03-01T00:59:59.9999999999+01:00\n" = marchAhead.text ∧
    Text.trim "2024-02-29 18:29:59.99999999990-05:30" = leapDayBehind.text ∧
    leapDayBehind.instant = marchAhead.instant ∧
    (ofText? "2024-02-29 18:29:59.99999999990-05:30").map expression =
      some "datetime.datetime(2024, 2, 29, 23, 59, 59, 999999, tzinfo=datetime.timezone.utc)" := by
  have ahead : Text.trim "\t2024-03-01T00:59:59.9999999999+01:00\n" = marchAhead.text := by
    decide +kernel
  have behind : Text.trim "2024-02-29 18:29:59.99999999990-05:30" = leapDayBehind.text := by
    decide +kernel
  have same : leapDayBehind.instant = marchAhead.instant := by
    decide +kernel
  refine ⟨ahead, behind, same, ?_⟩
  obtain ⟨start, call, parsed, -, -, -, others⟩ := denotes_offsetTime marchAhead ahead
  have expressed : (ofText? "\t2024-03-01T00:59:59.9999999999+01:00\n").map expression =
      some "datetime.datetime(2024, 2, 29, 23, 59, 59, 999999, tzinfo=datetime.timezone.utc)" := by
    decide +kernel
  rw [others leapDayBehind _ behind same, ← expressed, parsed]
  rfl

end StartTime

end AgentGraph
