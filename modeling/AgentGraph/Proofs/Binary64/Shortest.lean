import AgentGraph.Binary64.Shortest
import AgentGraph.Proofs.Binary64.Integer
import Mathlib.Tactic.Linarith
import Mathlib.Tactic.Ring

/-!
The shortest decimal of a value rounds to it. The grid of seventeen digits is always fine enough:
its step is shorter than the stretch of numbers that round to the value, so that a neighbour of
the value on the grid lies there.
-/

namespace AgentGraph.Binary64

theorem significand_lt (rank : Nat) : significand rank < 2 ^ 53 := by
  simp only [significand, Nat.pow_eq]
  split <;> omega

theorem significand_pos {rank : Nat} (positive : 0 < rank) : 0 < significand rank := by
  simp only [significand, Nat.pow_eq]
  split <;> omega

theorem units_pos {rank : Nat} (positive : 0 < rank) : 0 < units rank :=
  Nat.mul_pos (significand_pos positive) (Nat.pow_pos (by decide))

section Rounding

variable {rank numerator denominator : Nat}

theorem roundsTo_of_between
    (lower : (quarters rank - reachBelow rank) * denominator < numerator)
    (upper : numerator < (quarters rank + reachAbove rank) * denominator) :
    roundsTo rank numerator denominator = true := by
  simp only [roundsTo]
  split
  · simp [lower.le, upper.le]
  · simp [lower, upper]

theorem roundsTo_scale {factor : Nat} (positive : 0 < factor) :
    roundsTo rank (factor * numerator) (factor * denominator) =
      roundsTo rank numerator denominator := by
  simp only [roundsTo, Nat.mul_left_comm _ factor, Nat.mul_le_mul_left_iff positive,
    Nat.mul_lt_mul_left positive]

theorem reachBelow_lt_quarters (positive : 0 < rank) : reachBelow rank < quarters rank := by
  have least := significand_pos positive
  have power : 0 < 2 ^ shift rank := Nat.two_pow_pos _
  have bound : 2 * 2 ^ shift rank < 4 * (significand rank * 2 ^ shift rank) := by nlinarith
  simp only [reachBelow, quarters, units, Nat.pow_eq]
  split <;> omega

theorem roundsTo_quarters (rankPos : 0 < rank) (positive : 0 < denominator) :
    roundsTo rank (quarters rank * denominator) denominator = true := by
  have reach : 0 < reachBelow rank ∧ 0 < reachAbove rank := by
    simp only [reachBelow, reachAbove, Nat.pow_eq]
    split <;> simp
  have some_units := (Nat.zero_le _).trans_lt (reachBelow_lt_quarters rankPos)
  apply roundsTo_of_between
  · exact Nat.mul_lt_mul_of_pos_right (Nat.sub_lt some_units reach.1) positive
  · exact Nat.mul_lt_mul_of_pos_right (Nat.lt_add_of_pos_right reach.2) positive

theorem numerator_pos (positive : 0 < rank) (denominatorPos : 0 < denominator)
    (rounds : roundsTo rank numerator denominator = true) : 0 < numerator := by
  have lower : 0 < (quarters rank - reachBelow rank) * denominator :=
    Nat.mul_pos (Nat.sub_pos_of_lt (reachBelow_lt_quarters positive)) denominatorPos
  simp only [roundsTo] at rounds
  split at rounds
  · rw [Bool.and_eq_true, decide_eq_true_eq] at rounds
    exact lower.trans_le rounds.1
  · rw [Bool.and_eq_true, decide_eq_true_eq] at rounds
    exact lower.trans rounds.1

end Rounding

/-- A step of the grid of `10 ^ exponent`, in quarter units when divided by `gridUnit`. -/
def gridStep (exponent : Int) : Nat := Nat.pow 10 exponent.toNat * (4 * unitsPerOne)

def gridUnit (exponent : Int) : Nat := Nat.pow 10 (-exponent).toNat

theorem gridUnit_pos (exponent : Int) : 0 < gridUnit exponent := Nat.pow_pos (by decide)

theorem gridStep_pos (exponent : Int) : 0 < gridStep exponent :=
  Nat.mul_pos (Nat.pow_pos (by decide)) (Nat.mul_pos (by decide) unitsPerOne_pos)

/-- Whether a decimal is one of the numbers that round to the value of rank `rank`. -/
def Decimal.RoundsTo (decimal : Decimal) (rank : Nat) : Prop :=
  roundsTo rank (decimal.digits * gridStep decimal.exponent) (gridUnit decimal.exponent) = true

section Grid

variable (tie : Tie) (rank : Nat) (exponent : Int)

def gridBelow : Nat := quarters rank * gridUnit exponent / gridStep exponent

/-- The two neighbours on the grid, and one of them where it rounds to the value. -/
theorem onGrid_eq : ∃ takeBelow : Bool, onGrid tie rank exponent =
    let below : Decimal := ⟨gridBelow rank exponent, exponent⟩
    let above : Decimal := ⟨gridBelow rank exponent + 1, exponent⟩
    let fits (decimal : Decimal) : Bool :=
      roundsTo rank (decimal.digits * gridStep exponent) (gridUnit exponent)
    if fits below && (takeBelow || !fits above) then some below
    else if fits above then some above
    else none :=
  ⟨_, rfl⟩

variable {tie rank exponent}

theorem onGrid_roundsTo {decimal : Decimal} (found : onGrid tie rank exponent = some decimal) :
    decimal.RoundsTo rank := by
  obtain ⟨takeBelow, eq⟩ := onGrid_eq tie rank exponent
  unfold Decimal.RoundsTo
  rw [eq] at found
  dsimp only at found
  split at found
  · next fits =>
      rw [← Option.some.inj found]
      exact (Bool.and_eq_true_iff.mp fits).1
  · split at found
    · next fits =>
        rw [← Option.some.inj found]
        exact fits
    · contradiction

theorem onGrid_isSome_of_fits
    (fits : Decimal.RoundsTo ⟨gridBelow rank exponent, exponent⟩ rank ∨
      Decimal.RoundsTo ⟨gridBelow rank exponent + 1, exponent⟩ rank) :
    (onGrid tie rank exponent).isSome = true := by
  obtain ⟨takeBelow, eq⟩ := onGrid_eq tie rank exponent
  unfold Decimal.RoundsTo at fits
  rw [eq]
  dsimp only at fits ⊢
  split
  · rfl
  · next notBelow =>
      rcases fits with below | above
      · rw [below, Bool.true_and, Bool.or_eq_true, not_or, Bool.not_eq_true',
          Bool.not_eq_false] at notBelow
        rw [if_pos notBelow.2]
        rfl
      · rw [if_pos above]
        rfl

/-- A grid finer than the numbers that round to the value has one of them beside the value. -/
theorem onGrid_isSome_of_fine (positive : 0 < rank)
    (fine : gridStep exponent < (reachBelow rank + reachAbove rank) * gridUnit exponent) :
    (onGrid tie rank exponent).isSome = true := by
  apply onGrid_isSome_of_fits
  have unitPos := gridUnit_pos exponent
  have below : gridBelow rank exponent * gridStep exponent ≤ quarters rank * gridUnit exponent :=
    Nat.div_mul_le_self _ _
  have above : quarters rank * gridUnit exponent <
      (gridBelow rank exponent + 1) * gridStep exponent :=
    Nat.lt_mul_of_div_lt (Nat.lt_succ_self _) (gridStep_pos exponent)
  have reach : (quarters rank - reachBelow rank) * gridUnit exponent +
      reachBelow rank * gridUnit exponent = quarters rank * gridUnit exponent := by
    rw [← Nat.add_mul, Nat.sub_add_cancel (reachBelow_lt_quarters positive).le]
  have reachPos : 0 < reachAbove rank * gridUnit exponent :=
    Nat.mul_pos (Nat.mul_pos (by decide) (Nat.pow_pos (by decide))) unitPos
  unfold Decimal.RoundsTo
  dsimp only
  by_cases fits : (gridBelow rank exponent + 1) * gridStep exponent <
      (quarters rank + reachAbove rank) * gridUnit exponent
  · exact .inr (roundsTo_of_between (by omega) fits)
  · rw [Nat.add_mul] at fine fits above
    rw [Nat.add_mul, Nat.one_mul] at fits
    refine .inl (roundsTo_of_between ?_ ?_)
    · omega
    · rw [Nat.add_mul]
      omega

end Grid

/-- The numbers that round to a value span more than its seventeenth digit. -/
theorem lt_reach_of_scaled {rank step unit : Nat} (unitPos : 0 < unit)
    (scaled : 10 ^ 16 * step ≤ quarters rank * unit) :
    step < (reachBelow rank + reachAbove rank) * unit := by
  have power : 0 < 2 ^ shift rank * unit := Nat.mul_pos (Nat.two_pow_pos _) unitPos
  have digits := significand_lt rank
  have quarters_eq : quarters rank * unit = 4 * significand rank * (2 ^ shift rank * unit) := by
    simp only [quarters, units, Nat.pow_eq]
    ring
  rw [quarters_eq] at scaled
  simp only [reachBelow, reachAbove, Nat.pow_eq]
  by_contra coarse
  rw [not_lt] at coarse
  split at coarse
  · next least =>
      have span : (2 ^ shift rank + 2 * 2 ^ shift rank) * unit = 3 * (2 ^ shift rank * unit) := by
        ring
      rw [span] at coarse
      rw [least.1] at scaled
      omega
  · have span : (2 * 2 ^ shift rank + 2 * 2 ^ shift rank) * unit =
        4 * (2 ^ shift rank * unit) := by ring
    rw [span] at coarse
    nlinarith

section Place

variable {numerator denominator : Nat}

theorem le_mul_leadingZeros {fuel : Nat} (small : denominator ≤ numerator * 10 ^ fuel) :
    denominator ≤ numerator * 10 ^ leadingZeros numerator denominator fuel := by
  induction fuel generalizing numerator with
  | zero => exact small
  | succ fuel ih =>
      rw [leadingZeros]
      split
      · next large => rwa [Nat.pow_zero, Nat.mul_one]
      · have rest : denominator ≤ 10 * numerator * 10 ^ fuel := by
          rw [Nat.pow_succ] at small
          linarith
        have placed := ih rest
        rw [Nat.pow_succ]
        linarith

theorem leadingPlace_le (denominatorPos : 0 < denominator)
    (small : denominator ≤ numerator * 10 ^ 400) :
    10 ^ (leadingPlace numerator denominator - 1).toNat * denominator ≤
      numerator * 10 ^ (1 - leadingPlace numerator denominator).toNat := by
  rw [leadingPlace]
  split
  · next large =>
      have quotientPos : 0 < numerator / denominator := Nat.div_pos large denominatorPos
      generalize count_eq : (numerator / denominator).repr.length = count
      have lengthPos : 0 < count := by
        rw [← count_eq, ← String.length_toList, Nat.toList_repr]
        exact Nat.length_toDigits_pos
      have least : 10 ^ (count - 1) ≤ numerator / denominator := by
        by_contra short
        rcases Nat.eq_zero_or_pos (count - 1) with zero | more
        · rw [zero, Nat.pow_zero] at short
          exact short quotientPos
        · have digits := (Nat.length_toDigits_le_iff (by decide : 1 < 10) more).mpr
            (Nat.lt_of_not_le short)
          rw [← Nat.toList_repr, String.length_toList, count_eq] at digits
          omega
      have places : ((count : Int) - 1).toNat = count - 1 ∧ (1 - (count : Int)).toNat = 0 := by
        omega
      rw [places.1, places.2, Nat.pow_zero, Nat.mul_one]
      exact (Nat.mul_le_mul_right _ least).trans (Nat.div_mul_le_self _ _)
  · have places (zeros : Nat) : (1 - (zeros : Int) - 1).toNat = 0 ∧
        (1 - (1 - (zeros : Int))).toNat = zeros := by omega
    rw [(places _).1, (places _).2, Nat.pow_zero, Nat.one_mul]
    exact le_mul_leadingZeros small

end Place

variable {rank : Nat}

theorem scaled_leadingPlace (positive : 0 < rank) :
    10 ^ 16 * gridStep (leadingPlace (quarters rank) (4 * unitsPerOne) - 17) ≤
      quarters rank * gridUnit (leadingPlace (quarters rank) (4 * unitsPerOne) - 17) := by
  have onePos : 0 < 4 * unitsPerOne := Nat.mul_pos (by decide) unitsPerOne_pos
  have small : 4 * unitsPerOne ≤ quarters rank * 10 ^ 400 := by
    have bound : unitsPerOne ≤ 10 ^ 400 := unitsPerOne_le (by decide)
    rw [quarters, Nat.mul_assoc]
    exact Nat.mul_le_mul_left 4 (bound.trans (Nat.le_mul_of_pos_left _ (units_pos positive)))
  have placed := leadingPlace_le onePos small
  unfold gridStep gridUnit
  generalize leadingPlace (quarters rank) (4 * unitsPerOne) = place at placed ⊢
  generalize 4 * unitsPerOne = one at placed ⊢
  simp only [Nat.pow_eq]
  have balanced : 16 + (place - 17).toNat + (1 - place).toNat =
      (place - 1).toNat + (-(place - 17)).toNat := by omega
  have scaled : 10 ^ 16 * (10 ^ (place - 17).toNat * one) * 10 ^ (1 - place).toNat ≤
      quarters rank * 10 ^ (-(place - 17)).toNat * 10 ^ (1 - place).toNat := by
    calc 10 ^ 16 * (10 ^ (place - 17).toNat * one) * 10 ^ (1 - place).toNat
        = 10 ^ (16 + (place - 17).toNat + (1 - place).toNat) * one := by
          rw [Nat.pow_add, Nat.pow_add]
          ring
      _ = 10 ^ (place - 1).toNat * one * 10 ^ (-(place - 17)).toNat := by
          rw [balanced, Nat.pow_add]
          ring
      _ ≤ quarters rank * 10 ^ (1 - place).toNat * 10 ^ (-(place - 17)).toNat :=
          Nat.mul_le_mul_right _ placed
      _ = quarters rank * 10 ^ (-(place - 17)).toNat * 10 ^ (1 - place).toNat := by ring
  exact Nat.le_of_mul_le_mul_right scaled (Nat.pow_pos (by decide))

theorem Decimal.RoundsTo.carry {digits : Nat} {exponent : Int}
    (rounds : Decimal.RoundsTo ⟨digits * 10, exponent⟩ rank) :
    Decimal.RoundsTo ⟨digits, exponent + 1⟩ rank := by
  unfold Decimal.RoundsTo gridStep gridUnit at rounds ⊢
  simp only [Nat.pow_eq] at rounds ⊢
  rcases lt_or_ge exponent 0 with negative | nonnegative
  · have powers : exponent.toNat = 0 ∧ (exponent + 1).toNat = 0 ∧
        (-exponent).toNat = (-(exponent + 1)).toNat + 1 := by omega
    rw [powers.1, powers.2.2, Nat.pow_succ, Nat.mul_comm digits 10, Nat.mul_comm _ 10,
      Nat.mul_assoc, roundsTo_scale (by decide)] at rounds
    rwa [powers.2.1]
  · have powers : (-exponent).toNat = 0 ∧ (-(exponent + 1)).toNat = 0 ∧
        (exponent + 1).toNat = exponent.toNat + 1 := by omega
    rw [powers.1, Nat.mul_assoc] at rounds
    rwa [powers.2.1, powers.2.2, Nat.pow_succ', Nat.mul_assoc]

theorem normalized_roundsTo {decimal : Decimal} (rounds : decimal.RoundsTo rank) (fuel : Nat) :
    (decimal.normalized fuel).RoundsTo rank := by
  induction fuel generalizing decimal with
  | zero => exact rounds
  | succ fuel ih =>
      rw [Decimal.normalized]
      split
      · next divides =>
          apply ih
          apply Decimal.RoundsTo.carry
          rwa [Nat.div_mul_cancel (Nat.dvd_of_mod_eq_zero divides)]
      · exact rounds

/-- Seventeen digits are always enough. -/
theorem shortest_roundsTo (tie : Tie) (positive : 0 < rank) :
    (shortest tie rank).RoundsTo rank := by
  have last : (onGrid tie rank (leadingPlace (quarters rank) (4 * unitsPerOne) - 17)).isSome =
      true :=
    onGrid_isSome_of_fine positive
      (lt_reach_of_scaled (gridUnit_pos _) (scaled_leadingPlace positive))
  unfold shortest
  dsimp only
  generalize leadingPlace (quarters rank) (4 * unitsPerOne) = place at last
  apply normalized_roundsTo
  cases found : (List.range 17).findSome? fun count : Nat =>
      onGrid tie rank (place - 1 - (count : Int)) with
  | none =>
      have missing := List.findSome?_eq_none_iff.mp found 16 (by decide)
      have same : place - 1 - ((16 : Nat) : Int) = place - 17 := by omega
      rw [same] at missing
      rw [missing] at last
      contradiction
  | some decimal =>
      obtain ⟨count, -, onCount⟩ := List.exists_of_findSome?_eq_some found
      exact onGrid_roundsTo onCount

end AgentGraph.Binary64
