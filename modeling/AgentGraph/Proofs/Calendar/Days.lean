import AgentGraph.Calendar.Basic
import Mathlib.Algebra.BigOperators.Intervals
import Mathlib.Algebra.Order.BigOperators.Group.Finset
import Mathlib.Tactic.IntervalCases

/-!
Days and seconds in a row. Every date has a number, and every moment a number of seconds, so that
moving a moment by seconds adds them to its number, over the ends of months and years; and no two
dates have the same number.
-/

namespace AgentGraph.Calendar

/-- The days from the first day of the year 1 to that of `year`. -/
def daysBeforeYear (year : Int) : Int :=
  365 * (year - 1) + (year - 1) / 4 - (year - 1) / 100 + (year - 1) / 400

/-- The days of a year before the first one of a month. -/
def daysBeforeMonth (year : Int) (month : Nat) : Nat :=
  ∑ earlier ∈ Finset.Ico 1 month, daysInMonth year earlier

/-- The number of a date, where the first day of the year 1 has the number 1. -/
def Date.number (date : Date) : Int :=
  daysBeforeYear date.year + daysBeforeMonth date.year date.month + date.day

/-- The number of a moment's second, counted from the same day on. -/
def Moment.secondNumber (moment : Moment) : Int :=
  moment.date.number * 86400 + moment.clock.secondOfDay

section Bounds

variable {year : Int} {month : Nat}

theorem daysBeforeMonth_succ (positive : 1 ≤ month) :
    daysBeforeMonth year (month + 1) = daysBeforeMonth year month + daysInMonth year month :=
  Finset.sum_Ico_succ_top positive _

theorem daysBeforeMonth_mono {later : Nat} (order : month ≤ later) :
    daysBeforeMonth year month ≤ daysBeforeMonth year later :=
  Finset.sum_le_sum_of_subset (Finset.Ico_subset_Ico_right order)

theorem daysBeforeMonth_one : daysBeforeMonth year 1 = 0 := rfl

theorem daysBeforeYear_succ :
    daysBeforeYear (year + 1) = daysBeforeYear year + daysBeforeMonth year 13 := by
  have months : daysBeforeMonth year 13 = if isLeapYear year then 366 else 365 := by
    unfold daysBeforeMonth daysInMonth
    cases isLeapYear year with
    | false | true => rfl
  rw [months]
  simp only [daysBeforeYear, isLeapYear, Bool.and_eq_true, Bool.or_eq_true, beq_iff_eq,
    bne_iff_ne]
  split
  · omega
  · omega

theorem daysBeforeYear_mono {later : Int} (order : year ≤ later) :
    daysBeforeYear year ≤ daysBeforeYear later := by
  unfold daysBeforeYear
  omega

end Bounds

section Numbers

variable (date : Date)

theorem Date.number_next : date.next.number = date.number + 1 := by
  have months := date.month_bounds
  have days := date.day_bounds
  unfold Date.next
  split
  · simp only [number]
    omega
  · next lastDay =>
      split
      · simp only [number, daysBeforeMonth_succ months.1]
        omega
      · next lastMonth =>
          have december : date.month = 12 := by omega
          rw [december] at days lastDay
          simp only [newYear, number, daysBeforeYear_succ, daysBeforeMonth_one, december,
            @daysBeforeMonth_succ date.year 12 (by decide)]
          omega

theorem Date.number_previous : date.previous.number = date.number - 1 := by
  have months := date.month_bounds
  have days := date.day_bounds
  unfold Date.previous
  split
  · simp only [number]
    omega
  · next firstDay =>
      split
      · next laterMonth =>
          obtain ⟨month, isMonth⟩ : ∃ month, date.month = month + 1 := ⟨date.month - 1, by omega⟩
          simp only [number, isMonth, Nat.add_sub_cancel,
            @daysBeforeMonth_succ date.year month (by omega)]
          omega
      · next firstMonth =>
          have january : date.month = 1 := by omega
          have year := @daysBeforeYear_succ (date.year - 1)
          rw [Int.sub_add_cancel, @daysBeforeMonth_succ _ 12 (by decide)] at year
          have december : daysInMonth (date.year - 1) 12 = 31 := rfl
          simp only [number, january, daysBeforeMonth_one, year, december]
          omega

theorem Date.number_plus (days : Int) : (date.plus days).number = date.number + days := by
  cases days with
  | ofNat days =>
      induction days with
      | zero => simp [Date.plus, Nat.repeat]
      | succ days ih =>
          simp only [Date.plus, Nat.repeat, number_next] at ih ⊢
          rw [ih]
          simp only [Int.ofNat_eq_natCast]
          omega
  | negSucc days =>
      induction days with
      | zero => simp only [Date.plus, Nat.repeat, number_previous, Int.negSucc_eq]; omega
      | succ days ih =>
          simp only [Date.plus, Nat.repeat, number_previous, Int.negSucc_eq] at ih ⊢
          omega

/-- The number of a date lies among those of its year. -/
theorem Date.number_bounds :
    daysBeforeYear date.year < date.number ∧ date.number ≤ daysBeforeYear (date.year + 1) := by
  have months := date.month_bounds
  have days := date.day_bounds
  have inYear : daysBeforeMonth date.year (date.month + 1) ≤ daysBeforeMonth date.year 13 :=
    daysBeforeMonth_mono (by omega)
  rw [daysBeforeMonth_succ months.1] at inYear
  rw [daysBeforeYear_succ, number]
  omega

end Numbers

theorem Date.number_injective : Function.Injective Date.number := by
  intro first second same
  have firstYear := first.number_bounds
  have secondYear := second.number_bounds
  have years : first.year = second.year := by
    rcases Int.lt_trichotomy first.year second.year with before | same | after
    · have order := daysBeforeYear_mono (show first.year + 1 ≤ second.year by omega)
      omega
    · exact same
    · have order := daysBeforeYear_mono (show second.year + 1 ≤ first.year by omega)
      omega
  obtain ⟨year, month, day, months, days⟩ := first
  obtain ⟨_, other, otherDay, otherMonths, otherDays⟩ := second
  obtain rfl : year = _ := years
  simp only [number] at same
  have sameMonth : month = other := by
    rcases Nat.lt_trichotomy month other with before | same | after
    · have order := @daysBeforeMonth_mono year (month + 1) other (by omega)
      rw [daysBeforeMonth_succ months.1] at order
      omega
    · exact same
    · have order := @daysBeforeMonth_mono year (other + 1) month (by omega)
      rw [daysBeforeMonth_succ otherMonths.1] at order
      omega
  subst sameMonth
  obtain rfl : day = otherDay := by omega
  rfl

section Seconds

variable (moment : Moment) (seconds : Int)

theorem Clock.secondOfDay_lt (clock : Clock) : clock.secondOfDay < 86400 := by
  have hour := clock.hour.isLt
  have minute := clock.minute.isLt
  have second := clock.second.isLt
  unfold secondOfDay
  omega

theorem Clock.secondOfDay_ofSecondOfDay {second : Nat} (inDay : second < 86400)
    (nanosecond : Fin 2000000000) : (ofSecondOfDay second nanosecond).secondOfDay = second := by
  simp only [ofSecondOfDay, ofNat, secondOfDay, Fin.val_ofNat]
  omega

theorem Moment.secondNumber_plus :
    (moment.plus seconds).secondNumber = moment.secondNumber + seconds := by
  simp only [plus, secondNumber, Date.number_plus, secondsPerDay]
  rw [Clock.secondOfDay_ofSecondOfDay (by omega)]
  omega

/-- A moment is told by its second and what goes beyond it. -/
theorem Moment.eq_of_secondNumber_eq {first second : Moment}
    (seconds : first.secondNumber = second.secondNumber)
    (nanoseconds : first.clock.nanosecond = second.clock.nanosecond) : first = second := by
  obtain ⟨date, ⟨hour, minute, rest, nanosecond⟩⟩ := first
  obtain ⟨other, ⟨otherHour, otherMinute, otherRest, otherNanosecond⟩⟩ := second
  have inDay := Clock.secondOfDay_lt ⟨hour, minute, rest, nanosecond⟩
  have inOtherDay := Clock.secondOfDay_lt ⟨otherHour, otherMinute, otherRest, otherNanosecond⟩
  simp only [secondNumber, Clock.secondOfDay] at seconds inDay inOtherDay
  have dates : date = other := Date.number_injective (by omega)
  obtain rfl : hour = otherHour := Fin.ext (by omega)
  obtain rfl : minute = otherMinute := Fin.ext (by omega)
  obtain rfl : rest = otherRest := Fin.ext (by omega)
  rw [dates, show nanosecond = otherNanosecond from nanoseconds]

theorem Moment.nanosecond_plus :
    (moment.plus seconds).clock.nanosecond = moment.clock.nanosecond := by
  simp only [plus, Clock.ofSecondOfDay, Clock.ofNat]
  exact Fin.ofNat_val_eq_self _

end Seconds

end AgentGraph.Calendar
