import AgentGraph.Binary64.Basic

/-!
The shortest decimal that rounds to a given value. For one digit, two digits and
so on, the two neighbours of the value on the grid of that many digits are tried;
the first grid with a neighbour that rounds back wins, and of two such neighbours
the nearer one. All of it is exact arithmetic on quarter units.
-/

namespace AgentGraph.Binary64

/-- The number `digits * 10 ^ exponent`. -/
structure Decimal where
  digits : Nat
  exponent : Int
deriving DecidableEq

/-- Which of two equally near neighbours is taken. -/
inductive Tie where
  | even
  | up
deriving DecidableEq

def quarters (rank : Nat) : Nat := 4 * units rank

/-- Half the distance to the value below, in quarter units: below a power of two
the values lie twice as close. -/
def reachBelow (rank : Nat) : Nat :=
  if significand rank = Nat.pow 2 52 ∧ Nat.pow 2 53 ≤ rank then Nat.pow 2 (shift rank)
  else 2 * Nat.pow 2 (shift rank)

def reachAbove (rank : Nat) : Nat := 2 * Nat.pow 2 (shift rank)

/-- Whether `numerator / denominator` quarter units round to the value of rank `rank`. -/
def roundsTo (rank numerator denominator : Nat) : Bool :=
  let lower := (quarters rank - reachBelow rank) * denominator
  let upper := (quarters rank + reachAbove rank) * denominator
  if significand rank % 2 = 0 then lower ≤ numerator && numerator ≤ upper
  else lower < numerator && numerator < upper

/-- The least number of decimal places, at most `fuel`, that brings
`numerator / denominator` to one or more. -/
def leadingZeros (numerator denominator : Nat) : Nat → Nat
  | 0 => 0
  | fuel + 1 =>
      if denominator ≤ numerator then 0
      else leadingZeros (10 * numerator) denominator fuel + 1

/-- The place `k` with `10 ^ (k - 1) ≤ numerator / denominator < 10 ^ k`. -/
def leadingPlace (numerator denominator : Nat) : Int :=
  if denominator ≤ numerator then ((numerator / denominator).repr.length : Int)
  else 1 - (leadingZeros numerator denominator 400 : Int)

def Decimal.normalized (decimal : Decimal) : Nat → Decimal
  | 0 => decimal
  | fuel + 1 =>
      if decimal.digits % 10 = 0 then
        Decimal.normalized ⟨decimal.digits / 10, decimal.exponent + 1⟩ fuel
      else decimal

/-- The neighbour of the value on the grid of `10 ^ exponent` that rounds back to it. -/
def onGrid (tie : Tie) (rank : Nat) (exponent : Int) : Option Decimal :=
  let quartersPerOne := 4 * unitsPerOne
  let step := Nat.pow 10 exponent.toNat * quartersPerOne
  let unit := Nat.pow 10 (-exponent).toNat
  let value := quarters rank * unit
  let below := value / step
  let belowFits := roundsTo rank (below * step) unit
  let aboveFits := roundsTo rank ((below + 1) * step) unit
  let twice := 2 * value
  let middle := (2 * below + 1) * step
  let takeBelow := twice < middle ||
    (twice == middle && (match tie with
      | .even => below % 2 == 0
      | .up => false))
  if belowFits && (takeBelow || !aboveFits) then some ⟨below, exponent⟩
  else if aboveFits then some ⟨below + 1, exponent⟩
  else none

/-- The shortest decimal that rounds to the value of the positive rank `rank`.
Seventeen digits are always enough. -/
def shortest (tie : Tie) (rank : Nat) : Decimal :=
  let place := leadingPlace (quarters rank) (4 * unitsPerOne)
  let found := (List.range 17).findSome? fun (count : Nat) =>
    onGrid tie rank (place - 1 - (count : Int))
  (found.getD ⟨0, 0⟩).normalized 400

end AgentGraph.Binary64
