import AgentGraph.Program.BehaviourClass
import AgentGraph.Proofs.Program.Datetime

/-!
Start times as the program tells them. A moment that was read from a text always has a day of the
calendar and a time of day; only its year, or a leap second, can be one that the constructor of
dates and times does not take. A text that is no moment gives no start at all.
-/

namespace AgentGraph

open Calendar DatetimeCall

namespace StartTime

def momentNumbers (moment : Moment) : List Int :=
  let clock := moment.clock
  let microseconds := clock.nanosecond.val / 1000
  [moment.date.year, moment.date.month, moment.date.day, clock.hour.val, clock.minute.val,
    clock.second.val] ++ if microseconds = 0 then [] else [(microseconds : Int)]

theorem momentFields_eq (moment : Moment) :
    momentFields moment = (momentNumbers moment).map toString := by
  unfold momentFields momentNumbers
  dsimp only
  split <;> rfl

theorem momentNumbers_ne_nil (moment : Moment) : momentNumbers moment ≠ [] :=
  List.cons_ne_nil _ _

theorem expression_wallClock (moment : Moment) :
    (wallClock moment).expression = (DatetimeCall.mk (momentNumbers moment) false).text := by
  rw [text_local, ← momentFields_eq]
  rfl

theorem expression_instant (moment : Moment) :
    (instant moment).expression = (DatetimeCall.mk (momentNumbers moment) true).text := by
  rw [text_utc (momentNumbers_ne_nil moment), ← momentFields_eq]
  rfl

/-- A text gives no delay. -/
theorem exists_moment_of_ofText? {text : String} {start : StartTime}
    (parsed : ofText? text = some start) :
    ∃ moment, start = .wallClock moment ∨ start = .instant moment := by
  unfold ofText? at parsed
  dsimp only at parsed
  split at parsed
  · next moment _ =>
      exact ⟨moment, .inr (Option.some.inj parsed).symm⟩
  · obtain ⟨moment, _, same⟩ := Option.map_eq_some_iff.mp parsed
    exact ⟨moment, .inl same.symm⟩

section Numbers

variable (moment : Moment)

theorem isTime_clock :
    IsTime moment.clock.hour.val moment.clock.minute.val moment.clock.second.val where
  hour_bounds := by omega
  minute_bounds := by omega
  second_bounds := by omega

theorem isDate_date_iff :
    IsDate moment.date.year moment.date.month moment.date.day ↔
      1 ≤ moment.date.year ∧ moment.date.year ≤ 9999 := by
  constructor
  · exact fun date => date.year_bounds
  · intro years
    have months := moment.date.month_bounds
    have days := moment.date.day_bounds
    refine ⟨years, by omega, ?_⟩
    rw [lastDay_eq]
    omega

/-- Of a moment only the year and a leap second can be out of range. -/
theorem takes_momentNumbers_iff :
    Takes (momentNumbers moment) ↔
      (1 ≤ moment.date.year ∧ moment.date.year ≤ 9999) ∧
        moment.clock.nanosecond.val < 1000000000 := by
  rw [← isDate_date_iff]
  have time := isTime_clock moment
  unfold momentNumbers
  dsimp only
  split
  · next none_left =>
      have ordinary : moment.clock.nanosecond.val < 1000000000 := by omega
      rw [List.append_nil]
      constructor
      · intro takes
        cases takes with
        | whole date _ => exact ⟨date, ordinary⟩
      · exact fun fits => .whole fits.1 time
  · next some_left =>
      constructor
      · intro takes
        cases takes with
        | fractional date _ fraction => exact ⟨date, by omega⟩
      · exact fun fits => .fractional fits.1 time (by omega)

end Numbers

theorem isTaken_expression_iff {moment : Moment} {start : StartTime}
    (tells : start = .wallClock moment ∨ start = .instant moment) :
    IsTaken start.expression ↔
      (1 ≤ moment.date.year ∧ moment.date.year ≤ 9999) ∧
        moment.clock.nanosecond.val < 1000000000 := by
  rw [← takes_momentNumbers_iff]
  rcases tells with rfl | rfl
  · rw [expression_wallClock]
    exact isTaken_text_iff (momentNumbers_ne_nil moment)
  · rw [expression_instant]
    exact isTaken_text_iff (momentNumbers_ne_nil moment)

end StartTime

namespace Behaviour

theorem cases_of_mem_arguments {behaviour : Behaviour} {template : Option String}
    {argument : Argument} (inside : argument ∈ behaviour.arguments template) :
    (∃ seconds, behaviour.validPeriod? = some seconds ∧ argument = .period seconds) ∨
      (∃ start, behaviour.start? = some start ∧ argument = .startAt start) ∨
      ∃ name, template = some name ∧ argument = .template name := by
  have held {α : Type} {wrap : α → Argument} {value : Option α}
      (inside : argument ∈ (value.map wrap).toList) :
      ∃ inner, value = some inner ∧ argument = wrap inner := by
    obtain ⟨inner, found, same⟩ := Option.map_eq_some_iff.mp (Option.mem_toList.mp inside)
    exact ⟨inner, found, same.symm⟩
  unfold arguments at inside
  rcases List.mem_append.mp inside with timed | last
  · unfold timing at timed
    cases kind : behaviour.kind with
    | cyclic | oneShot | fsm =>
        rw [kind] at timed
        exact absurd timed List.not_mem_nil
    | timeout =>
        rw [kind] at timed
        exact .inr (.inl (held timed))
    | periodic =>
        rw [kind] at timed
        rcases List.mem_append.mp timed with period | start
        · exact .inl (held period)
        · exact .inr (.inl (held start))
  · exact .inr (.inr (held last))

/-- An argument that opens with the name of the start is the one on the start. -/
theorem start?_of_mem_arguments {behaviour : Behaviour} {template : Option String}
    {argument : Argument} (inside : argument ∈ behaviour.arguments template)
    (opens : "start_at=".toList <+: argument.text.toList) :
    ∃ start, behaviour.start? = some start ∧ argument = .startAt start := by
  obtain ⟨rest, chars⟩ := opens
  rcases cases_of_mem_arguments inside with ⟨_, -, rfl⟩ | begins | ⟨_, -, rfl⟩
  · unfold Argument.text at chars
    rw [String.toList_append] at chars
    exact absurd (List.cons.inj chars).1 (by decide)
  · exact begins
  · unfold Argument.text at chars
    rw [String.toList_append] at chars
    exact absurd (List.cons.inj chars).1 (by decide)

theorem start?_of_startAt {behaviour : Behaviour} {text : String}
    (typed : behaviour.startAt = some text) (absolute : behaviour.startMode ≠ some .relative) :
    behaviour.start? = StartTime.ofText? text := by
  have mode : behaviour.startMode.getD .absolute = .absolute := by
    cases chosen : behaviour.startMode with
    | none => rfl
    | some mode =>
        cases mode with
        | absolute => rfl
        | relative => exact absurd chosen absolute
  simp only [start?, mode, typed, Option.bind_some]

end Behaviour

namespace StartTime

/-- The call that is written for a text's moment is one that the constructor takes if and only if
the year is one of 1 to 9999 and the second is no leap second; and a behaviour with an absolute
start has an argument on it only where its text is a moment. -/
theorem isTaken_iff (text : String) :
    (∀ start, ofText? text = some start →
      ∃ moment, (start = .wallClock moment ∨ start = .instant moment) ∧
        (IsTaken start.expression ↔
          (1 ≤ moment.date.year ∧ moment.date.year ≤ 9999) ∧
            moment.clock.nanosecond.val < 1000000000)) ∧
    ∀ (behaviour : Behaviour) (template : Option String), behaviour.startAt = some text →
      behaviour.startMode ≠ some .relative →
      ∀ argument ∈ behaviour.arguments template, "start_at=".toList <+: argument.text.toList →
        ∃ start, ofText? text = some start ∧ argument.text = "start_at=" ++ start.expression := by
  constructor
  · intro start parsed
    obtain ⟨moment, tells⟩ := exists_moment_of_ofText? parsed
    exact ⟨moment, tells, isTaken_expression_iff tells⟩
  · intro behaviour template typed absolute argument inside opens
    obtain ⟨start, begins, rfl⟩ := Behaviour.start?_of_mem_arguments inside opens
    rw [Behaviour.start?_of_startAt typed absolute] at begins
    exact ⟨start, begins, rfl⟩

/-- The last moment of a leap day. -/
def leapDay : Moment := ⟨(Date.newYear 2024).plus 59, .ofNat 23 59 59 999999000⟩

def someday : Behaviour := { kind := .timeout, startAt := some "next tuesday" }

theorem isTaken_iff_leapDay :
    (ofText? "2024-02-29T23:59:59.999999Z" = some (.instant leapDay) ∧
      IsTaken (instant leapDay).expression) ∧
    (someday.startAt = some "next tuesday" ∧ someday.startMode ≠ some .relative ∧
      ∀ argument ∈ someday.arguments (some "t"),
        ¬"start_at=".toList <+: argument.text.toList) := by
  have parsed : ofText? "2024-02-29T23:59:59.999999Z" = some (.instant leapDay) := by
    decide +kernel
  have unparsed : ofText? "next tuesday" = none := by decide +kernel
  have absolute : someday.startMode ≠ some .relative := by decide
  refine ⟨⟨parsed, ?_⟩, rfl, absolute, ?_⟩
  · obtain ⟨moment, tells, taken⟩ :=
      (isTaken_iff "2024-02-29T23:59:59.999999Z").1 (.instant leapDay) parsed
    have same : leapDay = moment := by
      rcases tells with different | same
      · nomatch different
      · exact StartTime.instant.inj same
    rw [taken, ← same]
    decide +kernel
  · intro argument inside opens
    obtain ⟨start, begins, _⟩ := (isTaken_iff "next tuesday").2 someday (some "t") rfl absolute
      argument inside opens
    nomatch unparsed.symm.trans begins

def leapSecond : Moment := ⟨(Date.newYear 2017).previous, .ofNat 23 59 59 1000000000⟩

/-- The end of the year 9999 in a zone behind UTC. -/
def yearTenThousand : Moment := ⟨.newYear 10000, .ofNat 0 30 0 0⟩

theorem isTaken_not_always :
    (ofText? "2016-12-31T23:59:60Z" = some (.instant leapSecond) ∧
      ¬IsTaken (instant leapSecond).expression) ∧
    (ofText? "9999-12-31T23:30:00-01:00" = some (.instant yearTenThousand) ∧
      ¬IsTaken (instant yearTenThousand).expression) := by
  have second : ofText? "2016-12-31T23:59:60Z" = some (.instant leapSecond) := by decide +kernel
  have year : ofText? "9999-12-31T23:30:00-01:00" = some (.instant yearTenThousand) := by
    decide +kernel
  refine ⟨⟨second, ?_⟩, year, ?_⟩
  · rw [isTaken_expression_iff (.inr rfl)]
    decide +kernel
  · rw [isTaken_expression_iff (.inr rfl)]
    decide +kernel

example : (instant leapSecond).expression =
    "datetime.datetime(2016, 12, 31, 23, 59, 59, 1000000, tzinfo=datetime.timezone.utc)" := by
  decide +kernel

end StartTime

end AgentGraph
