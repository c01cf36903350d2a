/-!
Binary floating point of 64 bits, in exact arithmetic. The finite values of one
sign are numbered in increasing order: the number of a value is its `rank`, and
the value is a whole count of units of 2^-1074. Rounding is to the nearest value,
a tie going to the even rank. Powers are those of `Nat.pow`: what `^` stands for
depends on the modules in scope.
-/

namespace AgentGraph

/-- How many finite values there are of each sign. -/
def Binary64.finiteCount : Nat := 2047 * Nat.pow 2 52

structure Binary64.Finite where
  negative : Bool
  rank : Fin Binary64.finiteCount
deriving DecidableEq

inductive Binary64 where
  | finite (value : Binary64.Finite)
  | infinite (negative : Bool)
  | nan
deriving DecidableEq

namespace Binary64

/-- The 53-bit significand of the value of rank `rank`. -/
def significand (rank : Nat) : Nat :=
  if rank < Nat.pow 2 52 then rank else Nat.pow 2 52 + rank % Nat.pow 2 52

/-- The power of two, in units, that the significand of `rank` counts. -/
def shift (rank : Nat) : Nat := rank / Nat.pow 2 52 - 1

/-- The value of rank `rank` in units of 2^-1074. -/
def units (rank : Nat) : Nat := significand rank * Nat.pow 2 (shift rank)

def unitsPerOne : Nat := Nat.pow 2 1074

/-- The quotient rounded to the nearest integer, a half to the even one. -/
def roundedQuotient (numerator denominator : Nat) : Nat :=
  let quotient := numerator / denominator
  let twice := 2 * (numerator % denominator)
  if twice < denominator then quotient
  else if twice = denominator then quotient + quotient % 2
  else quotient + 1

/-- The rank nearest to `numerator / denominator`. Every power of two starts the
ranks of a spacing twice as wide, so carries out of the significand need no care. -/
def nearestRank (numerator denominator : Nat) : Nat :=
  let scaled := numerator * unitsPerOne
  let spacing := (scaled / denominator).log2 - 52
  spacing * Nat.pow 2 52 + roundedQuotient scaled (denominator * Nat.pow 2 spacing)

def ofRank (negative : Bool) (rank : Nat) : Binary64 :=
  if inRange : rank < finiteCount then .finite ⟨negative, ⟨rank, inRange⟩⟩
  else .infinite negative

def ofRatio (negative : Bool) (numerator denominator : Nat) : Binary64 :=
  ofRank negative (nearestRank numerator denominator)

def zero : Finite := ⟨false, ⟨0, by decide⟩⟩

def Finite.isZero (value : Finite) : Bool := value.rank.val == 0

def Finite.units (value : Finite) : Nat := Binary64.units value.rank.val

def Finite.isIntegral (value : Finite) : Bool := value.units % unitsPerOne == 0

def Finite.whole (value : Finite) : Nat := value.units / unitsPerOne

def ofInt (value : Int) : Binary64 := ofRatio (value < 0) value.natAbs 1

def isFinite : Binary64 → Bool
  | .finite _ => true
  | _ => false

def isPositive : Binary64 → Bool
  | .finite value => !value.negative && !value.isZero
  | .infinite negative => !negative
  | .nan => false

def isNonnegative : Binary64 → Bool
  | .finite value => !value.negative || value.isZero
  | .infinite negative => !negative
  | .nan => false

end Binary64

end AgentGraph
