import AgentGraph.Program.StartTime
import AgentGraph.Proofs.Binary64.Text
import Mathlib.Data.List.Basic
import Mathlib.Tactic.SplitIfs

/-!
Calls of the constructor of dates and times, as start times are written: which number stands at
which place, and which numbers the constructor takes. The text of a call tells its numbers.
-/

namespace AgentGraph

open Calendar

/-- The numbers of a call are the year, the month, the day, the hour, the minute, the second and,
where there are any, the microseconds. -/
structure DatetimeCall where
  numbers : List Int
  inUtc : Bool

namespace DatetimeCall

def zone : String := "tzinfo=datetime.timezone.utc"

def parts (call : DatetimeCall) : List String :=
  call.numbers.map toString ++ if call.inUtc then [zone] else []

def text (call : DatetimeCall) : String :=
  "datetime.datetime(" ++ ", ".intercalate call.parts ++ ")"

/-- The last day of a month. A year is a leap year if 4 divides it, but a full century only if
400 does. -/
def lastDay (year month : Int) : Int :=
  if month = 2 then (if 4 ∣ year ∧ (100 ∣ year → 400 ∣ year) then 29 else 28)
  else if month = 4 ∨ month = 6 ∨ month = 9 ∨ month = 11 then 30
  else 31

structure IsDate (year month day : Int) : Prop where
  year_bounds : 1 ≤ year ∧ year ≤ 9999
  month_bounds : 1 ≤ month ∧ month ≤ 12
  day_bounds : 1 ≤ day ∧ day ≤ lastDay year month

structure IsTime (hour minute second : Int) : Prop where
  hour_bounds : 0 ≤ hour ∧ hour < 24
  minute_bounds : 0 ≤ minute ∧ minute < 60
  second_bounds : 0 ≤ second ∧ second < 60

/-- Whether the constructor takes the numbers. -/
inductive Takes : List Int → Prop
  | whole {year month day hour minute second : Int} (date : IsDate year month day)
      (time : IsTime hour minute second) : Takes [year, month, day, hour, minute, second]
  | fractional {year month day hour minute second microsecond : Int}
      (date : IsDate year month day) (time : IsTime hour minute second)
      (fraction : 1 ≤ microsecond ∧ microsecond ≤ 999999) :
      Takes [year, month, day, hour, minute, second, microsecond]

/-- Whether the text is a call that the constructor takes. -/
def IsTaken (text : String) : Prop :=
  ∃ call : DatetimeCall, text = call.text ∧ Takes call.numbers

theorem isLeapYear_iff (year : Int) :
    isLeapYear year = true ↔ 4 ∣ year ∧ (100 ∣ year → 400 ∣ year) := by
  simp only [isLeapYear, Bool.and_eq_true, Bool.or_eq_true, beq_iff_eq, bne_iff_ne]
  omega

theorem lastDay_eq (year : Int) (month : Nat) : lastDay year month = daysInMonth year month := by
  simp only [lastDay, daysInMonth, isLeapYear_iff]
  split_ifs <;> omega

theorem text_local (numbers : List Int) :
    (DatetimeCall.mk numbers false).text =
      "datetime.datetime(" ++ ", ".intercalate (numbers.map toString) ++ ")" := by
  have parts : (DatetimeCall.mk numbers false).parts = numbers.map toString := List.append_nil _
  unfold text
  rw [parts]

theorem text_utc {numbers : List Int} (some_numbers : numbers ≠ []) :
    (DatetimeCall.mk numbers true).text =
      "datetime.datetime(" ++ ", ".intercalate (numbers.map toString) ++
        ", tzinfo=datetime.timezone.utc)" := by
  have some_parts : numbers.map toString ≠ [] := mt List.map_eq_nil_iff.mp some_numbers
  have parts : (DatetimeCall.mk numbers true).parts = numbers.map toString ++ [zone] := rfl
  have closing : ", " ++ zone ++ ")" = ", tzinfo=datetime.timezone.utc)" := by decide +kernel
  unfold text
  rw [parts, String.intercalate_append_of_ne_nil some_parts (List.cons_ne_nil _ _),
    String.intercalate_singleton, ← closing]
  simp only [String.append_assoc]

theorem Takes.ne_nil {numbers : List Int} (takes : Takes numbers) : numbers ≠ [] := by
  cases takes with
  | whole | fractional => exact List.cons_ne_nil _ _

theorem splitOn_intercalate_comma (head : String) (rest : List String)
    (plain : ∀ part ∈ head :: rest, ',' ∉ part.toList) :
    (", ".intercalate (head :: rest)).toList.splitOn ',' =
      head.toList :: rest.map fun part => ' ' :: part.toList := by
  have text : (", ".intercalate (head :: rest)).toList =
      [','].intercalate (head.toList :: rest.map fun part => ' ' :: part.toList) := by
    -- The space after a comma counts to the part that follows.
    clear plain
    induction rest generalizing head with
    | nil => simp
    | cons next rest ih =>
        rw [String.intercalate_cons_cons, String.toList_append, ih]
        simp
  rw [text]
  apply List.splitOn_intercalate
  · intro part inside
    rcases List.mem_cons.mp inside with rfl | later
    · exact plain head List.mem_cons_self
    · obtain ⟨other, held, rfl⟩ := List.mem_map.mp later
      have none_inside := plain other (List.mem_cons_of_mem _ held)
      simpa using none_inside
  · exact List.cons_ne_nil _ _

/-- Parts without commas are told by the text that lists them. -/
theorem eq_of_intercalate_comma {first second : List String}
    (firstPlain : ∀ part ∈ first, ',' ∉ part.toList)
    (secondPlain : ∀ part ∈ second, ',' ∉ part.toList) (firstSome : first ≠ [])
    (secondSome : second ≠ []) (same : ", ".intercalate first = ", ".intercalate second) :
    first = second := by
  obtain ⟨head, rest, rfl⟩ := List.exists_cons_of_ne_nil firstSome
  obtain ⟨other, others, rfl⟩ := List.exists_cons_of_ne_nil secondSome
  have split := congrArg (fun text => text.toList.splitOn ',') same
  rw [splitOn_intercalate_comma head rest firstPlain,
    splitOn_intercalate_comma other others secondPlain] at split
  obtain ⟨heads, rests⟩ := List.cons.inj split
  have injective : Function.Injective fun part : String => ' ' :: part.toList := by
    intro part another same
    exact String.toList_inj.mp (List.cons.inj same).2
  rw [String.toList_inj.mp heads, List.map_injective_iff.mpr injective rests]

theorem plain_of_mem_parts {call : DatetimeCall} {part : String} (inside : part ∈ call.parts) :
    ',' ∉ part.toList := by
  rcases List.mem_append.mp inside with number | utc
  · obtain ⟨value, _, rfl⟩ := List.mem_map.mp number
    intro comma
    exact absurd (IsNumeralText.of_toString value ',' comma) (by decide)
  · split at utc
    · rw [List.mem_singleton.mp utc]
      decide
    · contradiction

theorem toString_injective : Function.Injective (toString : Int → String) := by
  have plain (number : Nat) : (toString (Int.ofNat number)).toList = Nat.toDigits 10 number :=
    Nat.toList_repr
  have signed (number : Nat) :
      (toString (Int.negSucc number)).toList = '-' :: Nat.toDigits 10 (number + 1) := by
    change ("-" ++ (number + 1).repr).toList = _
    simp
  have unsigned (number : Nat) : '-' ∉ Nat.toDigits 10 number := by
    intro inside
    have digit := Nat.isDigit_of_mem_toDigits (by omega) (by omega) inside
    contradiction
  intro first second same
  have chars := congrArg String.toList same
  cases first with
  | ofNat first =>
      cases second with
      | ofNat second =>
          rw [plain, plain] at chars
          exact congrArg Int.ofNat (toDigits_injective chars)
      | negSucc second =>
          rw [plain, signed] at chars
          exact absurd (chars ▸ List.mem_cons_self) (unsigned first)
  | negSucc first =>
      cases second with
      | ofNat second =>
          rw [plain, signed] at chars
          exact absurd (chars ▸ List.mem_cons_self) (unsigned second)
      | negSucc second =>
          rw [signed, signed] at chars
          have numbers := toDigits_injective (List.cons.inj chars).2
          exact congrArg Int.negSucc (Nat.succ.inj numbers)

/-- The numbers of a call are those of its parts that are numerals. -/
theorem filter_parts (call : DatetimeCall) :
    (call.parts.filter fun part => decide (IsNumeralText part)) = call.numbers.map toString := by
  have numbers : ((call.numbers.map toString).filter fun part => decide (IsNumeralText part)) =
      call.numbers.map toString := by
    apply List.filter_eq_self.mpr
    intro part inside
    obtain ⟨value, _, rfl⟩ := List.mem_map.mp inside
    exact decide_eq_true (IsNumeralText.of_toString value)
  have utc : ((if call.inUtc then [zone] else []).filter fun part =>
      decide (IsNumeralText part)) = [] := by
    split
    · decide
    · rfl
  rw [parts, List.filter_append, numbers, utc, List.append_nil]

theorem numbers_eq_of_text_eq {call other : DatetimeCall} (callSome : call.numbers ≠ [])
    (otherSome : other.numbers ≠ []) (same : call.text = other.text) :
    call.numbers = other.numbers := by
  have lists : ", ".intercalate call.parts = ", ".intercalate other.parts := by
    have chars := congrArg String.toList same
    unfold text at chars
    rw [String.toList_append, String.toList_append, String.toList_append, String.toList_append,
      List.append_cancel_right_eq, List.append_cancel_left_eq] at chars
    exact String.toList_inj.mp chars
  have parts : call.parts = other.parts := by
    apply eq_of_intercalate_comma _ _ _ _ lists
    · exact fun _ => plain_of_mem_parts
    · exact fun _ => plain_of_mem_parts
    · exact List.append_ne_nil_of_left_ne_nil (mt List.map_eq_nil_iff.mp callSome) _
    · exact List.append_ne_nil_of_left_ne_nil (mt List.map_eq_nil_iff.mp otherSome) _
  have texts : call.numbers.map toString = other.numbers.map toString := by
    rw [← filter_parts, ← filter_parts, parts]
  exact List.map_injective_iff.mpr toString_injective texts

/-- The text of a call leaves no doubt whether the constructor takes it. -/
theorem isTaken_text_iff {call : DatetimeCall} (some_numbers : call.numbers ≠ []) :
    IsTaken call.text ↔ Takes call.numbers := by
  constructor
  · rintro ⟨other, same, takes⟩
    rwa [numbers_eq_of_text_eq some_numbers takes.ne_nil same]
  · intro takes
    exact ⟨call, rfl, takes⟩

end DatetimeCall

end AgentGraph
