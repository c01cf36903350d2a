import AgentGraph.Calendar.Timestamp
import AgentGraph.Proofs.Calendar.Days
import AgentGraph.Proofs.Decode.Encoded
import Mathlib.Data.Rat.Floor
import Mathlib.Tactic.Linarith
import Mathlib.Tactic.Positivity
import Mathlib.Tactic.Ring

/-!
Local times with their offset from UTC, in the one form in which they are exchanged: numbers of a
fixed width, a fraction of any length, and a zone. What is written so is read, and read as the
second that the local time is less its offset, with the first nine digits of the fraction.
-/

namespace AgentGraph.Calendar

/-- How far a local time is ahead of UTC, as it is written. -/
inductive Zone where
  | zulu (letter : Char) (isZulu : letter = 'Z' ∨ letter = 'z')
  | ahead (hours : Fin 24) (minutes : Fin 60)
  | behind (sign : Char) (isMinus : sign = '-' ∨ sign = '\u2212') (hours : Fin 24)
      (minutes : Fin 60)

namespace Zone

def hoursMinutes (hours : Fin 24) (minutes : Fin 60) : String :=
  padded 2 hours ++ ":" ++ padded 2 minutes

def text : Zone → String
  | zulu letter _ => String.singleton letter
  | ahead hours minutes => "+" ++ hoursMinutes hours minutes
  | behind sign _ hours minutes => String.singleton sign ++ hoursMinutes hours minutes

/-- The seconds by which the local time is ahead. -/
def seconds : Zone → Int
  | zulu _ _ => 0
  | ahead hours minutes => hours * 3600 + minutes * 60
  | behind _ _ hours minutes => -(hours * 3600 + minutes * 60)

end Zone

/-- A date of the years 0 to 9999, a time of day without leap seconds, and a zone. -/
structure OffsetTime where
  date : Date
  year_bounds : 0 ≤ date.year ∧ date.year ≤ 9999
  divider : Char
  isDivider : isDivider divider = true
  hour : Fin 24
  minute : Fin 60
  second : Fin 60
  /-- The digits after the point; without any the point is left out too. -/
  digits : List (Fin 10)
  zone : Zone

def digitChars (digits : List (Fin 10)) : List Char := digits.map fun digit => digit.val.digitChar

/-- What digits after a point stand for. -/
def fraction : List (Fin 10) → ℚ
  | [] => 0
  | digit :: rest => (digit + fraction rest) / 10

namespace OffsetTime

def fractionText (time : OffsetTime) : String :=
  if time.digits.isEmpty then "" else "." ++ String.ofList (digitChars time.digits)

def text (time : OffsetTime) : String :=
  padded 4 time.date.year.toNat ++ "-" ++ padded 2 time.date.month ++ "-" ++
    padded 2 time.date.day ++ String.singleton time.divider ++ padded 2 time.hour ++ ":" ++
    padded 2 time.minute ++ ":" ++ padded 2 time.second ++ time.fractionText ++ time.zone.text

/-- The number of the local second, as if its zone were UTC. -/
def localSecond (time : OffsetTime) : Int :=
  time.date.number * 86400 + time.hour * 3600 + time.minute * 60 + time.second

/-- The number of the second in UTC. -/
def utcSecond (time : OffsetTime) : Int := time.localSecond - time.zone.seconds

/-- The instant in seconds, to its last digit. -/
def instant (time : OffsetTime) : ℚ := time.utcSecond + fraction time.digits

end OffsetTime

section Numbers

theorem toList_padded (width value : Nat) :
    (padded width value).toList =
      List.replicate (width - (Nat.toDigits 10 value).length) '0' ++ Nat.toDigits 10 value := by
  simp only [padded, String.toList_append, String.toList_ofList, ← String.length_toList,
    Nat.toList_repr]

theorem isDigit_of_mem_padded {width value : Nat} {c : Char}
    (inside : c ∈ (padded width value).toList) : c.isDigit = true := by
  rw [toList_padded, List.mem_append] at inside
  rcases inside with zero | digit
  · rw [List.eq_of_mem_replicate zero]
    decide
  · exact Nat.isDigit_of_mem_toDigits (by decide) (by decide) digit

theorem length_padded {width value : Nat} (positive : 0 < width) (fits : value < 10 ^ width) :
    (padded width value).toList.length = width := by
  have short : (Nat.toDigits 10 value).length ≤ width :=
    (Nat.length_toDigits_le_iff (by decide) positive).mpr fits
  rw [toList_padded, List.length_append, List.length_replicate]
  omega

theorem ofDigitChars_padded (width value : Nat) :
    Nat.ofDigitChars 10 (padded width value).toList 0 = value := by
  rw [toList_padded, Nat.ofDigitChars_append, Nat.ofDigitChars_replicate_zero, Nat.mul_zero,
    Nat.ofDigitChars_ten_toDigits]

theorem readDigits_append {least most : Nat} {digits rest : List Char}
    (areDigits : ∀ c ∈ digits, c.isDigit = true) (enough : least ≤ digits.length)
    (notMore : digits.length ≤ most)
    (ends : digits.length = most ∨ ∀ c ∈ rest.head?, c.isDigit = false) :
    readDigits least most (digits ++ rest) = .ok (digits, rest) := by
  have taken : ((digits ++ rest).takeWhile Char.isDigit).take most = digits := by
    rw [List.takeWhile_append_of_pos areDigits]
    rcases ends with full | stops
    · rw [← full, List.take_left]
    · have none_left : rest.takeWhile Char.isDigit = [] := by
        cases rest with
        | nil => rfl
        | cons c rest => exact List.takeWhile_cons_of_neg (by simp [stops c rfl])
      rw [none_left, List.append_nil, List.take_of_length_le notMore]
  simp only [readDigits, taken, List.drop_left, if_pos enough]

theorem readNatural_padded {width value : Nat} (positive : 0 < width)
    (fits : value < 10 ^ width) (rest : List Char) :
    readNatural width width ((padded width value).toList ++ rest) = .ok (value, rest) := by
  have length := length_padded positive fits
  rw [readNatural, readDigits_append (fun _ => isDigit_of_mem_padded) length.ge length.le
    (.inl length), Decoded.ok_bind]
  simp only [ofDigitChars_padded]
  rfl

end Numbers

section Fraction

theorem fraction_bounds (digits : List (Fin 10)) : 0 ≤ fraction digits ∧ fraction digits < 1 := by
  induction digits with
  | nil => simp [fraction]
  | cons digit rest ih =>
      have small : (digit : ℚ) ≤ 9 := by exact_mod_cast Nat.le_of_lt_succ digit.isLt
      rw [fraction]
      constructor
      · have nonnegative : (0 : ℚ) ≤ (digit : ℕ) := Nat.cast_nonneg _
        linarith [ih.1]
      · linarith [ih.2]

/-- The first digits of a fraction, filled up by zeros, are its whole part at that place. -/
theorem ofDigitChars_digitChars (count : Nat) (digits : List (Fin 10)) :
    Nat.ofDigitChars 10 (((digitChars digits).take count).rightpad count '0') 0 =
      ⌊fraction digits * 10 ^ count⌋₊ := by
  induction count generalizing digits with
  | zero =>
      obtain ⟨nonnegative, small⟩ := fraction_bounds digits
      have none_left : ⌊fraction digits⌋₊ = 0 := Nat.floor_eq_zero.mpr small
      simp [List.rightpad, none_left]
  | succ count ih =>
      cases digits with
      | nil => simp [digitChars, List.rightpad, fraction, Nat.ofDigitChars_replicate_zero]
      | cons digit rest =>
          have padded : ((digitChars (digit :: rest)).take (count + 1)).rightpad (count + 1) '0' =
              digit.val.digitChar :: ((digitChars rest).take count).rightpad count '0' := by
            simp [digitChars, List.rightpad]
          have length : (((digitChars rest).take count).rightpad count '0').length = count := by
            simp [List.rightpad]
          have moved : fraction (digit :: rest) * 10 ^ (count + 1) =
              fraction rest * 10 ^ count + (digit.val * 10 ^ count : ℕ) := by
            rw [fraction]
            push_cast
            ring
          have nonnegative : 0 ≤ fraction rest * 10 ^ count :=
            mul_nonneg (fraction_bounds rest).1 (by positivity)
          rw [padded, Nat.ofDigitChars_cons_digitChar_of_lt_ten digit.isLt,
            Nat.ofDigitChars_eq_ofDigitChars_zero, length, ih, moved,
            Nat.floor_add_natCast nonnegative]
          ring

theorem nanoseconds_digitChars (digits : List (Fin 10)) :
    nanoseconds (digitChars digits) = ⌊fraction digits * 10 ^ 9⌋₊ :=
  ofDigitChars_digitChars 9 digits

theorem nanoseconds_lt (digits : List (Fin 10)) : nanoseconds (digitChars digits) < 10 ^ 9 := by
  obtain ⟨nonnegative, small⟩ := fraction_bounds digits
  rw [nanoseconds_digitChars, Nat.floor_lt (by positivity)]
  push_cast
  linarith

theorem isDigit_of_mem_digitChars {digits : List (Fin 10)} {c : Char}
    (inside : c ∈ digitChars digits) : c.isDigit = true := by
  obtain ⟨digit, _, rfl⟩ := List.mem_map.mp inside
  have all : ∀ digit : Fin 10, digit.val.digitChar.isDigit = true := by decide
  exact all digit

end Fraction

section Zones

/-- A pair of digits is read as its number where the first digit is not too great. -/
theorem readPair_padded {bound : Char} {value : Nat} (rest : List Char) (fits : value < 100)
    (inBound : (value / 10).digitChar < bound) :
    readPair bound ((padded 2 value).toList ++ rest) = .ok (value, rest) := by
  have written : ∀ value : Fin 100, (padded 2 value).toList =
      [(value.val / 10).digitChar, (value.val % 10).digitChar] := by
    decide
  have opened (c d : Char) : readPair bound (c :: d :: rest) =
      if c.isDigit && d.isDigit then
        if c < bound then .ok (10 * (c.toNat - '0'.toNat) + (d.toNat - '0'.toNat), rest)
        else .error .outOfRange
      else .error .invalid := rfl
  have digits : ∀ digit : Fin 10, digit.val.digitChar.isDigit = true ∧
      digit.val.digitChar.toNat - '0'.toNat = digit.val := by
    decide
  obtain ⟨tensDigit, tens⟩ := digits ⟨value / 10, by omega⟩
  obtain ⟨onesDigit, ones⟩ := digits ⟨value % 10, by omega⟩
  rw [written ⟨value, fits⟩]
  simp only [List.cons_append, List.nil_append, opened]
  rw [tensDigit, onesDigit, if_pos inBound, tens, ones, Nat.div_add_mod]
  rfl

theorem readHoursMinutes_hoursMinutes (hours : Fin 24) (minutes : Fin 60) :
    readHoursMinutes (dropChar (· == ':')) (Zone.hoursMinutes hours minutes).toList =
      .ok (hours.val * 3600 + minutes.val * 60, []) := by
  have hour : ∀ hours : Fin 24, (hours.val / 10).digitChar < ':' := by decide
  have minute : ∀ minutes : Fin 60, (minutes.val / 10).digitChar < '6' := by decide
  have last : readPair '6' ((padded 2 minutes).toList ++ []) = .ok (minutes.val, []) :=
    readPair_padded [] (by omega) (minute minutes)
  rw [List.append_nil] at last
  rw [Zone.hoursMinutes, String.toList_append, String.toList_append, List.append_assoc,
    readHoursMinutes, readPair_padded _ (by omega) (hour hours)]
  simp only [Decoded.ok_bind, last, show ":".toList = [':'] from rfl, List.cons_append,
    List.nil_append, dropChar, beq_self_eq_true, if_pos]
  rfl

theorem readOffset_text (zone : Zone) :
    readOffset (dropChar (· == ':')) zone.text.toList = .ok (zone.seconds, []) := by
  cases zone with
  | zulu letter isZulu =>
      simp [Zone.text, readOffset, isZulu, Zone.seconds]
  | ahead hours minutes =>
      simp only [Zone.text, String.toList_append, show "+".toList = ['+'] from rfl,
        List.cons_append, List.nil_append, readOffset, readHoursMinutes_hoursMinutes,
        Decoded.ok_bind]
      rfl
  | behind sign isMinus hours minutes =>
      have notZulu : ¬(sign = 'Z' ∨ sign = 'z') := by
        rcases isMinus with rfl | rfl
        · decide
        · decide
      have notPlus : sign ≠ '+' := by
        rcases isMinus with rfl | rfl
        · decide
        · decide
      simp only [Zone.text, String.toList_append, String.toList_singleton, List.cons_append,
        List.nil_append, readOffset, if_neg notZulu, if_neg notPlus, if_pos isMinus,
        readHoursMinutes_hoursMinutes, Decoded.ok_bind]
      rfl

theorem Zone.text_opens (zone : Zone) :
    ∃ c rest, zone.text.toList = c :: rest ∧ c ≠ '.' ∧ c.isDigit = false := by
  cases zone with
  | zulu letter isZulu =>
      refine ⟨letter, [], by simp [text], ?_⟩
      rcases isZulu with rfl | rfl
      · decide
      · decide
  | ahead hours minutes =>
      exact ⟨'+', _, String.toList_append, by decide⟩
  | behind sign isMinus hours minutes =>
      refine ⟨sign, (hoursMinutes hours minutes).toList, by simp [text], ?_⟩
      rcases isMinus with rfl | rfl
      · decide
      · decide

theorem Zone.seconds_bounds (zone : Zone) : -86400 < zone.seconds ∧ zone.seconds < 86400 := by
  cases zone with
  | zulu letter isZulu => exact ⟨neg_neg_of_pos (by decide), show (0 : Int) < 86400 by decide⟩
  | ahead hours minutes | behind sign isMinus hours minutes =>
      simp only [seconds]
      omega

end Zones

section Parts

variable {fields after : Fields} {text rest : List Char}

theorem readParts_cons {part : Part} (parts : List Part)
    (read : part.read fields text = .ok (after, rest)) :
    readParts (part :: parts) fields text = readParts parts after rest := by
  rw [readParts, read, Decoded.ok_bind]

def Fields.set (fields : Fields) (value : Nat) : Component → Fields
  | .year => { fields with year := value }
  | .month => { fields with month := value }
  | .day => { fields with day := value }
  | .hour => { fields with hour := value }
  | .minute => { fields with minute := value }
  | .second => { fields with second := value }

theorem Fields.put_natCast {component : Component} {value : Nat}
    (inBounds : component.bounds.1 ≤ value ∧ value ≤ component.bounds.2) :
    fields.put component value = .ok (fields.set value component) := by
  unfold put
  rw [if_pos inBounds]
  cases component <;> rfl

theorem read_exact (component : Component) {value : Nat} (width : Nat)
    (wide : component.width = width) (fits : value < 10 ^ width)
    (inBounds : component.bounds.1 ≤ value ∧ value ≤ component.bounds.2) :
    (Part.exact component).read fields ((padded width value).toList ++ rest) =
      .ok (fields.set value component, rest) := by
  have positive : 0 < width := by
    rw [← wide]
    cases component <;> decide
  rw [Part.read, wide, readNatural_padded positive fits, Decoded.ok_bind]
  simp only [Fields.put_natCast inBounds, Decoded.ok_bind]
  rfl

theorem read_mark (c : Char) : (Part.mark c).read fields (c :: rest) = .ok (fields, rest) := by
  simp only [Part.read, dropChar, beq_self_eq_true, if_pos]
  rfl

theorem read_divider {c : Char} (divides : isDivider c = true) :
    Part.divider.read fields (c :: rest) = .ok (fields, rest) := by
  simp only [Part.read, dropChar, divides, if_pos]
  rfl

/-- A fraction ends where the zone begins. -/
theorem read_fraction (time : OffsetTime) (none_yet : fields.nanosecond = 0) :
    Part.fraction.read fields (time.fractionText.toList ++ time.zone.text.toList) =
      .ok ({ fields with nanosecond := nanoseconds (digitChars time.digits) },
        time.zone.text.toList) := by
  obtain ⟨c, zone, opens, notPoint, notDigit⟩ := time.zone.text_opens
  unfold OffsetTime.fractionText
  cases time.digits with
  | nil =>
      have zero : nanoseconds (digitChars []) = 0 := by decide
      rw [zero, ← none_yet, opens]
      simp only [List.isEmpty_nil, if_true, String.toList_empty, List.nil_append, Part.read]
      split
      · next same => exact absurd (List.cons.inj same).1 notPoint
      · rfl
  | cons digit others =>
      have ends : ∀ first ∈ time.zone.text.toList.head?, first.isDigit = false := by
        intro first head
        rw [opens] at head
        exact Option.some.inj head ▸ notDigit
      have read : readDigits 1 (digitChars (digit :: others) ++ time.zone.text.toList).length
          (digitChars (digit :: others) ++ time.zone.text.toList) =
            .ok (digitChars (digit :: others), time.zone.text.toList) := by
        refine readDigits_append (fun _ => isDigit_of_mem_digitChars) (Nat.le_add_left _ _) ?_
          (.inr ends)
        rw [List.length_append]
        exact Nat.le_add_right _ _
      simp only [List.isEmpty_cons, Bool.false_eq_true, if_false, String.toList_append,
        String.toList_ofList, show ".".toList = ['.'] from rfl, List.cons_append, List.nil_append,
        Part.read, read, Decoded.ok_bind]
      rfl

end Parts

namespace OffsetTime

variable (time : OffsetTime)

def fields : Fields where
  year := time.date.year
  month := time.date.month
  day := time.date.day
  hour := time.hour
  minute := time.minute
  second := time.second
  nanosecond := nanoseconds (digitChars time.digits)

theorem readParts_text :
    readParts strictParts {} time.text.toList = .ok (time.fields, time.zone.text.toList) := by
  have years := time.year_bounds
  have months := time.date.month_bounds
  have days := time.date.day_bounds
  have longest : daysInMonth time.date.year time.date.month ≤ 31 := by
    unfold daysInMonth
    split_ifs <;> decide
  obtain ⟨year, isYear⟩ := Int.eq_ofNat_of_zero_le years.1
  have yearBounds : Component.year.bounds = (-2147483648, 2147483647) := by decide
  have hyphen : "-".toList = ['-'] := rfl
  have colon : ":".toList = [':'] := rfl
  simp only [text, isYear, Int.toNat_natCast, String.toList_append, String.toList_singleton,
    hyphen, colon, List.append_assoc, List.cons_append, List.nil_append, strictParts]
  rw [readParts_cons _ (read_exact .year 4 rfl (by omega) (by rw [yearBounds]; omega)),
    readParts_cons _ (read_mark '-'),
    readParts_cons _ (read_exact .month 2 rfl (by omega) (by simp only [Component.bounds]; omega)),
    readParts_cons _ (read_mark '-'),
    readParts_cons _ (read_exact .day 2 rfl (by omega) (by simp only [Component.bounds]; omega)),
    readParts_cons _ (read_divider time.isDivider),
    readParts_cons _ (read_exact .hour 2 rfl (by omega) (by simp only [Component.bounds]; omega)),
    readParts_cons _ (read_mark ':'),
    readParts_cons _ (read_exact .minute 2 rfl (by omega) (by simp only [Component.bounds]; omega)),
    readParts_cons _ (read_mark ':'),
    readParts_cons _ (read_exact .second 2 rfl (by omega) (by simp only [Component.bounds]; omega)),
    readParts_cons _ (read_fraction time rfl)]
  simp only [readParts, Fields.set, fields, isYear]

/-- The local time, before its zone is counted. -/
def localMoment : Moment where
  date := time.date
  clock := .ofNat time.hour time.minute time.second (nanoseconds (digitChars time.digits))

theorem clock_fields : time.fields.clock = time.localMoment.clock := by
  have ordinary : (time.second.val == 60) = false := by
    rw [beq_eq_false_iff_ne]
    omega
  simp only [Fields.clock, fields, localMoment, ordinary, Bool.false_eq_true, if_false,
    Nat.add_zero]

theorem nanosecond_localMoment :
    time.localMoment.clock.nanosecond.val = nanoseconds (digitChars time.digits) := by
  have small := nanoseconds_lt time.digits
  simp only [localMoment, Clock.ofNat, Fin.val_ofNat]
  omega

theorem secondNumber_localMoment : time.localMoment.secondNumber = time.localSecond := by
  simp only [localMoment, Moment.secondNumber, Clock.secondOfDay, Clock.ofNat, Fin.val_ofNat,
    localSecond]
  omega

theorem moment_fields : time.fields.moment = .ok time.localMoment := by
  have date : Date.of? time.fields.year time.fields.month time.fields.day = some time.date :=
    dif_pos ⟨time.date.month_bounds, time.date.day_bounds⟩
  have years := time.year_bounds
  have supported : isSupported time.date = true := by
    simp only [isSupported, leastYear, greatestYear, Bool.and_eq_true]
    exact ⟨decide_eq_true (by omega), decide_eq_true (by omega)⟩
  simp only [Fields.moment, date, supported, if_true, clock_fields]
  rfl

/-- The moment in UTC. -/
def utcMoment : Moment := time.localMoment.plus (-time.zone.seconds)

theorem secondNumber_utcMoment : time.utcMoment.secondNumber = time.utcSecond := by
  rw [utcMoment, Moment.secondNumber_plus, secondNumber_localMoment, utcSecond, Int.sub_eq_add_neg]

theorem nanosecond_utcMoment :
    time.utcMoment.clock.nanosecond.val = nanoseconds (digitChars time.digits) := by
  rw [utcMoment, Moment.nanosecond_plus, nanosecond_localMoment]

/-- A zone moves a date by one day at most, so that its year stays near. -/
theorem year_utcMoment :
    -1 ≤ time.utcMoment.date.year ∧ time.utcMoment.date.year ≤ 10000 := by
  have years := time.year_bounds
  have zone := time.zone.seconds_bounds
  have clock := time.localMoment.clock.secondOfDay_lt
  have bounds := time.utcMoment.date.number_bounds
  have number : time.utcMoment.date.number =
      time.date.number + (time.localMoment.clock.secondOfDay + -time.zone.seconds) / 86400 :=
    Date.number_plus _ _
  have dates := time.date.number_bounds
  constructor
  · by_contra early
    have before := daysBeforeYear_mono (show time.utcMoment.date.year + 1 ≤ -1 by omega)
    have after := daysBeforeYear_mono (show 0 ≤ time.date.year from years.1)
    have gap : daysBeforeYear (-1) + 365 = daysBeforeYear 0 := by decide
    omega
  · by_contra late
    have after := daysBeforeYear_mono (show 10001 ≤ time.utcMoment.date.year by omega)
    have before := daysBeforeYear_mono (show time.date.year + 1 ≤ 10000 by omega)
    have gap : daysBeforeYear 10000 + 366 = daysBeforeYear 10001 := by decide
    omega

theorem instant_fields : time.fields.instant time.zone.seconds = .ok time.utcMoment := by
  have zone := time.zone.seconds_bounds
  have inDay : ¬secondsPerDay ≤ time.zone.seconds.natAbs := by
    rw [secondsPerDay]
    omega
  have years := time.year_utcMoment
  have supported : isSupported time.utcMoment.date = true := by
    simp only [isSupported, leastYear, greatestYear, Bool.and_eq_true]
    exact ⟨decide_eq_true (by omega), decide_eq_true (by omega)⟩
  rw [Fields.instant, moment_fields, Decoded.ok_bind, if_neg inDay]
  exact if_pos supported

/-- What is written in the form is read as the moment in UTC. -/
theorem strict?_text : strict? time.text = some time.utcMoment := by
  unfold strict?
  simp only [readParts_text, readOffset_text, Decoded.ok_bind, List.isEmpty_nil, if_true,
    instant_fields]
  rfl

end OffsetTime

end AgentGraph.Calendar
