import AgentGraph.Binary64.Basic
import Mathlib.Algebra.Group.Nat.Defs

/-!
Integers as doubles. Those of up to 53 bits are exact, and those of up to 64 bits are
finite.
-/

namespace AgentGraph.Binary64

theorem log2_mul_two_pow {number : Nat} (positive : 0 < number) (power : Nat) :
    (number * 2 ^ power).log2 = number.log2 + power := by
  have nonzero : number ≠ 0 := Nat.ne_of_gt positive
  have productNonzero : number * 2 ^ power ≠ 0 :=
    Nat.mul_ne_zero nonzero (Nat.ne_of_gt (Nat.two_pow_pos power))
  rw [Nat.log2_eq_iff productNonzero]
  constructor
  · rw [Nat.pow_add]
    exact Nat.mul_le_mul_right _ (Nat.log2_self_le nonzero)
  · rw [Nat.add_right_comm, Nat.pow_add]
    exact Nat.mul_lt_mul_of_pos_right Nat.lt_log2_self (Nat.two_pow_pos power)

theorem roundedQuotient_mul (quotient : Nat) {denominator : Nat} (positive : 0 < denominator) :
    roundedQuotient (quotient * denominator) denominator = quotient := by
  unfold roundedQuotient
  rw [Nat.mul_div_cancel _ positive, Nat.mul_mod_left]
  simp [positive]

/-- The exponent of a unit, apart so that the power is never computed. -/
private theorem unitsPerOne_eq : ∃ power, unitsPerOne = 2 ^ power ∧ power = 1074 := by
  have named : ∃ power, unitsPerOne = Nat.pow 2 power ∧ power = 1074 :=
    ⟨1074, unitsPerOne.eq_1, rfl⟩
  obtain ⟨power, units, is1074⟩ := named
  exact ⟨power, units.trans Nat.pow_eq, is1074⟩

theorem unitsPerOne_pos : 0 < unitsPerOne := by
  obtain ⟨power, units, _⟩ := unitsPerOne_eq
  rw [units]
  exact Nat.two_pow_pos power

theorem unitsPerOne_le {places : Nat} (enough : 1074 ≤ 3 * places) : unitsPerOne ≤ 10 ^ places := by
  obtain ⟨power, units, is1074⟩ := unitsPerOne_eq
  calc unitsPerOne = 2 ^ power := units
    _ ≤ 2 ^ (3 * places) := Nat.pow_le_pow_right (by decide) (is1074 ▸ enough)
    _ = 8 ^ places := Nat.pow_mul ..
    _ ≤ 10 ^ places := Nat.pow_le_pow_left (by decide) places

/-- The rank of an exact integer: its leading bit counts `2 ^ 52` units of its spacing. -/
theorem nearestRank_of_lt {number : Nat} (positive : 0 < number) (short : number < 2 ^ 53) :
    nearestRank number 1 =
      (1022 + number.log2) * 2 ^ 52 + number * 2 ^ (52 - number.log2) := by
  obtain ⟨power, units, is1074⟩ := unitsPerOne_eq
  have bits : number.log2 < 53 := (Nat.log2_lt (Nat.ne_of_gt positive)).mpr short
  have spacing : (number * unitsPerOne).log2 - 52 = 1022 + number.log2 := by
    rw [units, log2_mul_two_pow positive]
    omega
  have exponents : power = 52 - number.log2 + (1022 + number.log2) := by omega
  have scaled : number * unitsPerOne =
      number * 2 ^ (52 - number.log2) * 2 ^ (1022 + number.log2) := by
    rw [units, exponents, Nat.pow_add, ← Nat.mul_assoc]
  unfold nearestRank
  simp only [Nat.div_one, Nat.one_mul, Nat.pow_eq]
  rw [spacing, scaled, roundedQuotient_mul _ (Nat.two_pow_pos _)]

/-- The significand and the shift of a rank that is given by them. -/
theorem units_of_rank {spacing digits : Nat} (least : 2 ^ 52 ≤ digits)
    (greatest : digits < 2 ^ 53) :
    units (spacing * 2 ^ 52 + digits) = digits * 2 ^ spacing := by
  have large : ¬ spacing * 2 ^ 52 + digits < 2 ^ 52 := by omega
  have quotient : (spacing * 2 ^ 52 + digits) / 2 ^ 52 = spacing + 1 := by omega
  have remainder : 2 ^ 52 + (spacing * 2 ^ 52 + digits) % 2 ^ 52 = digits := by omega
  simp only [units, significand, shift, Nat.pow_eq]
  rw [if_neg large, quotient, remainder, Nat.add_sub_cancel]

theorem leading_bounds {number : Nat} (positive : 0 < number) (short : number < 2 ^ 53) :
    2 ^ 52 ≤ number * 2 ^ (52 - number.log2) ∧ number * 2 ^ (52 - number.log2) < 2 ^ 53 := by
  have nonzero : number ≠ 0 := Nat.ne_of_gt positive
  have bits : number.log2 < 53 := (Nat.log2_lt nonzero).mpr short
  have least : 2 ^ 52 = 2 ^ number.log2 * 2 ^ (52 - number.log2) := by
    rw [← Nat.pow_add]
    congr 1
    omega
  have greatest : 2 ^ 53 = 2 ^ (number.log2 + 1) * 2 ^ (52 - number.log2) := by
    rw [← Nat.pow_add]
    congr 1
    omega
  constructor
  · rw [least]
    exact Nat.mul_le_mul_right _ (Nat.log2_self_le nonzero)
  · rw [greatest]
    exact Nat.mul_lt_mul_of_pos_right Nat.lt_log2_self (Nat.two_pow_pos _)

theorem ofInt_exact {number : Nat} (positive : 0 < number) (short : number < 2 ^ 53) :
    ∃ value : Finite, ofInt number = .finite value ∧ value.negative = false ∧
      value.units = number * unitsPerOne := by
  have bits : number.log2 < 53 := (Nat.log2_lt (Nat.ne_of_gt positive)).mpr short
  obtain ⟨least, greatest⟩ := leading_bounds positive short
  have rank := nearestRank_of_lt positive short
  have inRange : nearestRank number 1 < finiteCount := by
    rw [rank, finiteCount, Nat.pow_eq]
    omega
  refine ⟨⟨false, ⟨nearestRank number 1, inRange⟩⟩, ?_, rfl, ?_⟩
  · have notNegative : ¬ (number : Int) < 0 := by omega
    unfold ofInt ofRatio ofRank
    rw [Int.natAbs_natCast, dif_pos inRange]
    simp [notNegative]
  · obtain ⟨power, units, is1074⟩ := unitsPerOne_eq
    have exponents : 52 - number.log2 + (1022 + number.log2) = power := by omega
    change Binary64.units (nearestRank number 1) = _
    rw [rank, units_of_rank least greatest, units, Nat.mul_assoc, ← Nat.pow_add, exponents]

theorem roundedQuotient_le (numerator denominator : Nat) :
    roundedQuotient numerator denominator ≤ numerator / denominator + 1 := by
  unfold roundedQuotient
  simp only
  split
  · omega
  · split
    · omega
    · omega

theorem isFinite_ofInt {value : Int} (short : value.natAbs ≤ 2 ^ 64) :
    (ofInt value).isFinite = true := by
  have inRange : nearestRank value.natAbs 1 < finiteCount := by
    generalize value.natAbs = number at short
    unfold nearestRank
    simp only [Nat.div_one, Nat.one_mul, Nat.pow_eq]
    generalize scaledEq : number * unitsPerOne = scaled
    obtain ⟨power, units, is1074⟩ := unitsPerOne_eq
    have small : scaled < 2 ^ (64 + power + 1) := by
      rw [← scaledEq, units]
      calc number * 2 ^ power ≤ 2 ^ 64 * 2 ^ power := Nat.mul_le_mul_right _ short
        _ = 2 ^ (64 + power) := (Nat.pow_add ..).symm
        _ < 2 ^ (64 + power + 1) := Nat.pow_lt_pow_succ (by decide)
    have quotient : scaled / 2 ^ (scaled.log2 - 52) < 2 ^ 53 := by
      rw [Nat.div_lt_iff_lt_mul (Nat.two_pow_pos _), ← Nat.pow_add]
      exact Nat.lt_of_lt_of_le Nat.lt_log2_self
        (Nat.pow_le_pow_right (by decide) (by omega))
    have bits : scaled.log2 < 64 + power + 1 := by
      by_cases zero : scaled = 0
      · rw [zero, Nat.log2_zero]
        omega
      · exact (Nat.log2_lt zero).mpr small
    have rounded := roundedQuotient_le scaled (2 ^ (scaled.log2 - 52))
    rw [finiteCount, Nat.pow_eq]
    omega
  unfold ofInt ofRatio ofRank
  rw [dif_pos inRange]
  rfl

theorem units_of_lt {rank : Nat} (small : rank < 2 ^ 52) : units rank = rank := by
  have none : rank / 2 ^ 52 - 1 = 0 := by omega
  simp only [units, significand, shift, Nat.pow_eq]
  rw [if_pos small, none, Nat.pow_zero, Nat.mul_one]

/-- The leading bit of a value tells its spacing, and the other bits its place there. -/
theorem units_of_le {rank : Nat} (large : 2 ^ 52 ≤ rank) :
    units rank = (2 ^ 52 + rank % 2 ^ 52) * 2 ^ (rank / 2 ^ 52 - 1) ∧
      (units rank).log2 = 52 + (rank / 2 ^ 52 - 1) := by
  have units_eq : units rank = (2 ^ 52 + rank % 2 ^ 52) * 2 ^ (rank / 2 ^ 52 - 1) := by
    simp only [units, significand, shift, Nat.pow_eq]
    rw [if_neg (Nat.not_lt.mpr large)]
  have leading : (2 ^ 52 + rank % 2 ^ 52).log2 = 52 := by
    rw [Nat.log2_eq_iff (by omega)]
    omega
  refine ⟨units_eq, ?_⟩
  rw [units_eq, log2_mul_two_pow (by omega), leading]

theorem units_injective {rank other : Nat} (same : units rank = units other) : rank = other := by
  have apart {rank other : Nat} (small : rank < 2 ^ 52) (large : 2 ^ 52 ≤ other) :
      units rank ≠ units other := by
    rw [units_of_lt small, (units_of_le large).1]
    have least := Nat.le_mul_of_pos_right (2 ^ 52 + other % 2 ^ 52)
      (Nat.two_pow_pos (other / 2 ^ 52 - 1))
    omega
  rcases Nat.lt_or_ge rank (2 ^ 52) with small | large
  · rcases Nat.lt_or_ge other (2 ^ 52) with otherSmall | otherLarge
    · rwa [units_of_lt small, units_of_lt otherSmall] at same
    · exact absurd same (apart small otherLarge)
  · rcases Nat.lt_or_ge other (2 ^ 52) with otherSmall | otherLarge
    · exact absurd same.symm (apart otherSmall large)
    · obtain ⟨units_eq, leading⟩ := units_of_le large
      obtain ⟨other_eq, otherLeading⟩ := units_of_le otherLarge
      have spacing : rank / 2 ^ 52 - 1 = other / 2 ^ 52 - 1 := by
        have leadingSame := congrArg Nat.log2 same
        rw [leading, otherLeading] at leadingSame
        omega
      rw [units_eq, other_eq, spacing] at same
      have digits := Nat.eq_of_mul_eq_mul_right (Nat.two_pow_pos _) same
      omega

theorem Finite.eq_of_units {value other : Finite} (sign : value.negative = other.negative)
    (same : value.units = other.units) : value = other := by
  obtain ⟨negative, rank⟩ := value
  obtain ⟨otherNegative, otherRank⟩ := other
  obtain rfl : negative = otherNegative := sign
  obtain rfl : rank = otherRank := Fin.ext (units_injective same)
  rfl

/-- A positive integral value of up to 53 bits is the double of its whole part. -/
theorem ofInt_whole {value : Finite} (isIntegral : value.isIntegral = true)
    (sign : value.negative = false) (positive : 0 < value.whole) (short : value.whole < 2 ^ 53) :
    ofInt value.whole = .finite value := by
  obtain ⟨exact_, same, exactSign, units⟩ := ofInt_exact positive short
  have remainder : value.units % unitsPerOne = 0 := beq_iff_eq.mp isIntegral
  have whole : value.units = value.whole * unitsPerOne := by
    rw [Finite.whole, Nat.div_mul_cancel (Nat.dvd_of_mod_eq_zero remainder)]
  rw [same, Finite.eq_of_units (exactSign.trans sign.symm) (units.trans whole.symm)]

end AgentGraph.Binary64
