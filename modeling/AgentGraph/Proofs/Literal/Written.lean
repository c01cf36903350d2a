import AgentGraph.Literal.Basic
import AgentGraph.Proofs.Binary64.Shortest
import AgentGraph.Proofs.Literal.Numerals

/-!
The numbers that the program's doubles are written as: digits with at most a point among them,
and so no sign where the double is not negative. The number rounds to the double again.
-/

namespace AgentGraph

namespace Literal

open Binary64

/-- Whether a text is the decimal notation of `digits / 10 ^ places`, with no sign and no exponent. -/
inductive Writes : (text : List Char) → (digits places : Nat) → Prop
  | whole {text : List Char} (isDigits : IsDigits text) : Writes text (digitsValue text) 0
  | point {whole fraction : List Char} (isWhole : IsDigits whole)
      (isFraction : IsDigits fraction) :
      Writes (whole ++ '.' :: fraction) (digitsValue (whole ++ fraction)) fraction.length

theorem digitsValue_repr (number : Nat) : digitsValue number.repr.toList = number := by
  rw [digitsValue, Nat.toList_repr, Nat.ofDigitChars_ten_toDigits]

theorem digitsValue_zeros (count : Nat) (digits : List Char) :
    digitsValue ((zeros count).toList ++ digits) = digitsValue digits := by
  rw [digitsValue, digitsValue, zeros, String.toList_ofList, Nat.ofDigitChars_append,
    Nat.ofDigitChars_replicate_zero, Nat.mul_zero]

theorem digitsValue_append_zeros (digits : List Char) (count : Nat) :
    digitsValue (digits ++ (zeros count).toList) = digitsValue digits * 10 ^ count := by
  rw [digitsValue, digitsValue, zeros, String.toList_ofList, Nat.ofDigitChars_append,
    Nat.ofDigitChars_replicate_zero, Nat.mul_comm]

theorem IsDigits.append {digits others : List Char} (isDigits : IsDigits digits)
    (areDigits : ∀ c ∈ others, c.isDigit = true) : IsDigits (digits ++ others) :=
  ⟨List.append_ne_nil_of_left_ne_nil isDigits.1 _, fun c inside =>
    (List.mem_append.mp inside).elim (isDigits.2 c) (areDigits c)⟩

/-- Digits with a point among them. -/
theorem writes_split {digits : List Char} (areDigits : ∀ c ∈ digits, c.isDigit = true)
    {places : Nat} (some_place : 0 < places) (fits : places < digits.length) :
    Writes (digits.take (digits.length - places) ++ '.' :: digits.drop (digits.length - places))
      (digitsValue digits) places := by
  have whole : IsDigits (digits.take (digits.length - places)) := by
    refine ⟨?_, fun c inside => areDigits c (List.mem_of_mem_take inside)⟩
    rw [← List.length_pos_iff, List.length_take]
    omega
  have fraction : IsDigits (digits.drop (digits.length - places)) := by
    refine ⟨?_, fun c inside => areDigits c (List.mem_of_mem_drop inside)⟩
    rw [← List.length_pos_iff, List.length_drop]
    omega
  have written := Writes.point whole fraction
  have length : digits.length - (digits.length - places) = places := by omega
  rwa [List.take_append_drop, List.length_drop, length] at written

theorem positionalText_writes (decimal : Decimal) :
    Writes (positionalText false decimal).toList
      (decimal.digits * 10 ^ decimal.exponent.toNat) (-decimal.exponent).toNat := by
  obtain ⟨digits, exponent⟩ := decimal
  have isDigits := isDigits_repr digits
  unfold positionalText
  dsimp only
  split
  · next nonnegative =>
      have none_left : (-exponent).toNat = 0 := by omega
      have written := Writes.whole (isDigits.append (isDigits_zeros exponent.toNat))
      rw [digitsValue_append_zeros, digitsValue_repr] at written
      simpa [none_left] using written
  · next negative =>
      have none_left : exponent.toNat = 0 := by omega
      have some_place : 0 < (-exponent).toNat := by omega
      generalize (-exponent).toNat = places at some_place ⊢
      rw [none_left, Nat.pow_zero, Nat.mul_one]
      generalize padded_eq : zeros (places + 1 - digits.repr.length) ++ digits.repr = padded
      have areDigits : ∀ c ∈ padded.toList, c.isDigit = true := by
        intro c inside
        rw [← padded_eq, String.toList_append] at inside
        exact (List.mem_append.mp inside).elim (isDigits_zeros _ c) (isDigits.2 c)
      have fits : places < padded.toList.length := by
        rw [← padded_eq, String.toList_append, List.length_append, zeros, String.toList_ofList,
          List.length_replicate, String.length_toList]
        omega
      have value : digitsValue padded.toList = digits := by
        rw [← padded_eq, String.toList_append, digitsValue_zeros, digitsValue_repr]
      have written := writes_split areDigits some_place fits
      rw [value, String.length_toList] at written
      simpa [List.splitAt_eq] using written

theorem units_of_isZero {value : Finite} (isZero : value.isZero = true) : value.units = 0 := by
  rw [Finite.units, beq_iff_eq.mp isZero]
  rfl

/-- Both zeros are written without a sign. -/
theorem number_of_isZero {value : Finite} (isZero : value.isZero = true) :
    number (.finite value) = "0" := by
  have integral : value.isIntegral = true := by
    rw [Finite.isIntegral, units_of_isZero isZero, Nat.zero_mod]
    rfl
  have whole : value.whole = 0 := by rw [Finite.whole, units_of_isZero isZero, Nat.zero_div]
  rw [number, integral, whole]
  cases value.negative <;> rfl

/-- A double that is not negative is written as a number that rounds to it. -/
theorem number_writes {value : Finite} (nonnegative : (finite value).isNonnegative = true) :
    ∃ digits places, Writes (number (.finite value)).toList digits places ∧
      roundsTo value.rank.val (digits * (4 * unitsPerOne)) (10 ^ places) = true := by
  cases isZero : value.isZero with
  | true =>
      have zero : Writes "0".toList 0 0 := .whole (by decide)
      refine ⟨0, 0, number_of_isZero isZero ▸ zero, ?_⟩
      rw [beq_iff_eq.mp isZero, Nat.zero_mul]
      decide
  | false =>
      have sign : value.negative = false := by simpa [isNonnegative, isZero] using nonnegative
      have positive : 0 < value.rank.val := Nat.pos_of_ne_zero (ne_of_beq_false isZero)
      rw [number]
      split
      · next isWhole =>
          rw [Bool.and_eq_true] at isWhole
          have units_eq : value.units = value.whole * unitsPerOne :=
            (Nat.div_mul_cancel (Nat.dvd_of_mod_eq_zero (beq_iff_eq.mp isWhole.1))).symm
          have written := Writes.whole (isDigits_repr value.whole)
          rw [digitsValue_repr] at written
          have text : toString (if value.negative then -(value.whole : Int) else value.whole) =
              value.whole.repr := by
            rw [sign]
            rfl
          refine ⟨value.whole, 0, text ▸ written, ?_⟩
          have rounds := roundsTo_quarters positive Nat.one_pos
          have quarters_eq : quarters value.rank.val * 1 = value.whole * (4 * unitsPerOne) := by
            rw [Nat.mul_one, quarters, Nat.mul_left_comm, ← units_eq, Finite.units]
          rwa [quarters_eq] at rounds
      · have text : plain.finiteText value =
            positionalText false (shortest .up value.rank.val) := by
          rw [Layout.finiteText, isZero, sign]
          exact String.empty_append
        refine ⟨_, _, text ▸ positionalText_writes _, ?_⟩
        have rounds := shortest_roundsTo .up positive
        unfold Decimal.RoundsTo gridStep gridUnit at rounds
        rwa [Nat.mul_assoc]

end Literal

end AgentGraph
