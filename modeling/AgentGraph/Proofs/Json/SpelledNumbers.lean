import AgentGraph.Proofs.Json.Numbers

/-!
The spellings of a number: digits, perhaps a point and more of them, and perhaps a power of ten.
The reader takes every spelling as far as it goes, and nothing else.
-/

namespace AgentGraph.Json

open Binary64

def IsDigits (text : List Char) : Prop := text ≠ [] ∧ ∀ c ∈ text, c.isDigit = true

/-- Whether a text spells the digits after the point: none, or a point and digits. -/
inductive SpellsFraction : (digits text : List Char) → Prop
  | absent : SpellsFraction [] []
  | point {digits : List Char} (isDigits : IsDigits digits) : SpellsFraction digits ('.' :: digits)

def IsExponentMark (c : Char) : Prop := c = 'e' ∨ c = 'E'

/-- Whether a text spells a power of ten: none, or a mark, a sign as one likes, and digits. -/
inductive SpellsExponent : (exponent : Int) → (text : List Char) → Prop
  | absent : SpellsExponent 0 []
  | unsigned {mark : Char} {digits : List Char} (isMark : IsExponentMark mark)
      (isDigits : IsDigits digits) : SpellsExponent (digitsValue digits) (mark :: digits)
  | plus {mark : Char} {digits : List Char} (isMark : IsExponentMark mark)
      (isDigits : IsDigits digits) : SpellsExponent (digitsValue digits) (mark :: '+' :: digits)
  | minus {mark : Char} {digits : List Char} (isMark : IsExponentMark mark)
      (isDigits : IsDigits digits) : SpellsExponent (-(digitsValue digits)) (mark :: '-' :: digits)

/-- Whether a text spells a number without its sign. -/
inductive SpellsUnsigned (negative : Bool) (number : Number) : (text : List Char) → Prop
  | parts {whole digits point power : List Char} {exponent : Int} (isDigits : IsDigits whole)
      (noLeadingZero : whole.head? = some '0' → whole = ['0'])
      (fraction : SpellsFraction digits point) (scaled : SpellsExponent exponent power)
      (value : numberOf? ⟨negative, whole, digits, exponent⟩ (point.isEmpty && power.isEmpty) =
        some number) :
      SpellsUnsigned negative number (whole ++ point ++ power)

theorem digits?_append_of_ends {digits rest : List Char} (isDigits : IsDigits digits)
    (ends : ∀ c ∈ rest.head?, c.isDigit = false) :
    digits? (digits ++ rest) = some (digits, rest) := by
  obtain ⟨some_digit, areDigits⟩ := isDigits
  have after : rest.takeWhile Char.isDigit = [] ∧ rest.dropWhile Char.isDigit = rest := by
    cases rest with
    | nil => exact ⟨rfl, rfl⟩
    | cons c rest => simp [ends c rfl]
  rw [digits?, List.takeWhile_append_of_pos areDigits, List.dropWhile_append_of_pos areDigits,
    after.1, after.2, List.append_nil]
  split
  · contradiction
  · rfl

theorem of_digits? {text digits rest : List Char} (read : digits? text = some (digits, rest)) :
    IsDigits digits ∧ text = digits ++ rest := by
  unfold digits? at read
  split at read
  · contradiction
  · next some_digit =>
      injection read with same
      injection same with taken dropped
      subst taken dropped
      refine ⟨⟨some_digit, fun c inside => ?_⟩, List.takeWhile_append_dropWhile.symm⟩
      exact List.mem_takeWhile_imp inside

theorem wholeDigits?_append_of_ends {whole rest : List Char} (isDigits : IsDigits whole)
    (noLeadingZero : whole.head? = some '0' → whole = ['0'])
    (ends : ∀ c ∈ rest.head?, c.isDigit = false) :
    wholeDigits? (whole ++ rest) = some (whole, rest) := by
  rw [wholeDigits?, digits?_append_of_ends isDigits ends]
  split
  · next same =>
      injection same with same
      injection same with same
      rw [same] at noLeadingZero
      exact absurd (noLeadingZero rfl) (by simp)
  · rfl

theorem of_wholeDigits? {text whole rest : List Char}
    (read : wholeDigits? text = some (whole, rest)) :
    IsDigits whole ∧ (whole.head? = some '0' → whole = ['0']) ∧ text = whole ++ rest := by
  unfold wholeDigits? at read
  split at read
  · contradiction
  · next noZeros =>
      obtain ⟨isDigits, split⟩ := of_digits? read
      refine ⟨isDigits, fun leads => ?_, split⟩
      obtain ⟨others, rfl⟩ := List.head?_eq_some_iff.mp leads
      cases others with
      | nil => rfl
      | cons next others => exact absurd read (noZeros next others rest)

namespace SpellsFraction

variable {digits point rest : List Char}

theorem ends (spelled : SpellsFraction digits point)
    (ends : ∀ c ∈ rest.head?, c.isDigit = false) :
    ∀ c ∈ (point ++ rest).head?, c.isDigit = false := by
  cases spelled with
  | absent => exact ends
  | point isDigits =>
      intro c head
      obtain rfl : '.' = c := Option.some.inj head
      decide

theorem isEmpty_eq (spelled : SpellsFraction digits point) : digits.isEmpty = point.isEmpty := by
  cases spelled with
  | absent => rfl
  | point isDigits => exact List.isEmpty_eq_false_iff.mpr isDigits.1

theorem fraction?_append (spelled : SpellsFraction digits point)
    (ends : ∀ c ∈ rest.head?, c.isDigit = false ∧ c ≠ '.') :
    fraction? (point ++ rest) = some (digits, rest) := by
  cases spelled with
  | absent =>
      refine fraction?_none fun after same => ?_
      exact (ends '.' (by rw [List.nil_append] at same; rw [same]; rfl)).2 rfl
  | point isDigits => exact digits?_append_of_ends isDigits fun c head => (ends c head).1

theorem of_fraction? {text : List Char} (read : fraction? text = some (digits, rest)) :
    ∃ point, text = point ++ rest ∧ SpellsFraction digits point := by
  unfold fraction? at read
  split at read
  · obtain ⟨isDigits, split⟩ := of_digits? read
    exact ⟨'.' :: digits, congrArg ('.' :: ·) split, .point isDigits⟩
  · injection read with same
    injection same with first second
    exact ⟨[], second, first ▸ .absent⟩

end SpellsFraction

namespace SpellsExponent

variable {exponent : Int} {power rest : List Char}

theorem ends (spelled : SpellsExponent exponent power) (ends : EndsNumber rest) :
    ∀ c ∈ (power ++ rest).head?, c.isDigit = false ∧ c ≠ '.' := by
  have marked {mark : Char} (isMark : IsExponentMark mark) :
      mark.isDigit = false ∧ mark ≠ '.' := by
    rcases isMark with rfl | rfl
    all_goals decide
  cases spelled with
  | absent => exact fun c head => ⟨(ends c head).1, (ends c head).2.1⟩
  | unsigned isMark | plus isMark | minus isMark =>
      intro c head
      obtain rfl := Option.some.inj head
      exact marked isMark

/-- Whether a power of ten was written shows at the first character after the fraction. -/
theorem any_mark (spelled : SpellsExponent exponent power)
    (ends : power = [] → ∀ c ∈ rest.head?, ¬IsExponentMark c) :
    (!((power ++ rest).head?.any fun c => c == 'e' || c == 'E')) = power.isEmpty := by
  have marked {mark : Char} (isMark : IsExponentMark mark) :
      (mark == 'e' || mark == 'E') = true := by
    rcases isMark with rfl | rfl
    all_goals decide
  cases spelled with
  | absent =>
      cases rest with
      | nil => rfl
      | cons c rest =>
          obtain ⟨notSmall, notLarge⟩ := not_or.mp (ends rfl c rfl)
          simp [notSmall, notLarge]
  | unsigned isMark | plus isMark | minus isMark => simp [marked isMark]

theorem exponent?_append (spelled : SpellsExponent exponent power) (ends : EndsNumber rest) :
    exponent? (power ++ rest) = some (exponent, rest) := by
  have digits {digits : List Char} (isDigits : IsDigits digits) :
      digits? (digits ++ rest) = some (digits, rest) :=
    digits?_append_of_ends isDigits fun c head => (ends c head).1
  cases spelled with
  | absent =>
      cases rest with
      | nil => rfl
      | cons c rest =>
          obtain ⟨_, _, notSmall, notLarge⟩ := ends c rfl
          exact if_neg (not_or.mpr ⟨notSmall, notLarge⟩)
  | @unsigned mark text isMark isDigits =>
      rw [List.cons_append, exponent?_mark _ isMark]
      obtain ⟨c, others, rfl⟩ := List.exists_cons_of_ne_nil isDigits.1
      have digit := isDigits.2 c List.mem_cons_self
      split
      · next same =>
          injection same with same
          exact absurd (same ▸ digit) (by decide)
      · next same =>
          injection same with same
          exact absurd (same ▸ digit) (by decide)
      · rw [digits isDigits, Option.map_some]
  | plus isMark isDigits =>
      rw [List.cons_append, exponent?_mark _ isMark]
      simp only [List.cons_append, digits isDigits, Option.map_some]
  | minus isMark isDigits =>
      rw [List.cons_append, exponent?_mark _ isMark]
      simp only [List.cons_append, digits isDigits, Option.map_some]

theorem of_exponent? {text : List Char} (read : exponent? text = some (exponent, rest)) :
    ∃ power, text = power ++ rest ∧ SpellsExponent exponent power ∧
      (power = [] → ∀ c ∈ rest.head?, ¬IsExponentMark c) := by
  cases text with
  | nil =>
      injection read with same
      injection same with first second
      exact ⟨[], second, first ▸ .absent, fun _ => second ▸ nofun⟩
  | cons mark text =>
      by_cases isMark : IsExponentMark mark
      · rw [exponent?_mark text isMark] at read
        split at read
        all_goals
          obtain ⟨⟨digits, after⟩, digitsRead, same⟩ := Option.map_eq_some_iff.mp read
          obtain ⟨isDigits, split⟩ := of_digits? digitsRead
          injection same with first second
          subst first second
        · exact ⟨mark :: '-' :: digits, congrArg (mark :: '-' :: ·) split,
            .minus isMark isDigits, nofun⟩
        · exact ⟨mark :: '+' :: digits, congrArg (mark :: '+' :: ·) split,
            .plus isMark isDigits, nofun⟩
        · exact ⟨mark :: digits, congrArg (mark :: ·) split, .unsigned isMark isDigits, nofun⟩
      · have unmarked : exponent? (mark :: text) = some (0, mark :: text) := if_neg isMark
        rw [unmarked] at read
        injection read with same
        injection same with first second
        refine ⟨[], second, first ▸ .absent, fun _ c head => ?_⟩
        rw [← second] at head
        exact Option.some.inj head ▸ isMark

end SpellsExponent

section Unsigned

variable {negative : Bool} {number : Number} {text rest : List Char}

theorem SpellsUnsigned.opens (spelled : SpellsUnsigned negative number text) :
    ∃ c after, text = c :: after ∧ c.isDigit = true := by
  obtain ⟨isDigits, _, _, _, _⟩ := spelled
  obtain ⟨c, others, rfl⟩ := List.exists_cons_of_ne_nil isDigits.1
  exact ⟨c, _, rfl, isDigits.2 c List.mem_cons_self⟩

theorem readNumber_spelled (spelled : SpellsUnsigned negative number text)
    (ends : EndsNumber rest) : readNumber negative (text ++ rest) = some (number, rest) := by
  obtain ⟨isDigits, noLeadingZero, fraction, scaled, value⟩ := spelled
  have afterPoint := scaled.ends ends
  have afterWhole := fraction.ends fun c head => (afterPoint c head).1
  have marked := scaled.any_mark fun _ c head => not_or.mpr (ends c head).2.2
  rw [← fraction.isEmpty_eq, ← marked] at value
  rw [List.append_assoc, List.append_assoc, readNumber_eq,
    wholeDigits?_append_of_ends isDigits noLeadingZero afterWhole]
  simp only [Option.bind_some]
  rw [fraction.fraction?_append afterPoint]
  simp only [Option.bind_some, scaled.exponent?_append ends, value, Option.map_some]

theorem spelled_of_readNumber (read : readNumber negative text = some (number, rest)) :
    ∃ spelling, text = spelling ++ rest ∧ SpellsUnsigned negative number spelling := by
  rw [readNumber_eq] at read
  obtain ⟨⟨whole, afterWhole⟩, wholeRead, read⟩ := Option.bind_eq_some_iff.mp read
  obtain ⟨⟨digits, afterPoint⟩, fractionRead, read⟩ := Option.bind_eq_some_iff.mp read
  obtain ⟨⟨exponent, after⟩, exponentRead, read⟩ := Option.bind_eq_some_iff.mp read
  obtain ⟨value, valueRead, same⟩ := Option.map_eq_some_iff.mp read
  injection same with first second
  subst first second
  obtain ⟨isDigits, noLeadingZero, wholeSplit⟩ := of_wholeDigits? wholeRead
  obtain ⟨point, pointSplit, fraction⟩ := SpellsFraction.of_fraction? fractionRead
  obtain ⟨power, powerSplit, scaled, unmarked⟩ := SpellsExponent.of_exponent? exponentRead
  refine ⟨whole ++ point ++ power, ?_, .parts isDigits noLeadingZero fraction scaled ?_⟩
  · rw [wholeSplit, pointSplit, powerSplit]
    simp only [List.append_assoc]
  · rw [← fraction.isEmpty_eq, ← scaled.any_mark unmarked, ← powerSplit]
    exact valueRead

end Unsigned

end AgentGraph.Json
