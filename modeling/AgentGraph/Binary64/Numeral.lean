import AgentGraph.Binary64.Basic

/-!
Decimal notation and the values it denotes. A numeral is read either to the
nearest value at once, or in two rounded steps: its leading digits, as many as
fit in 64 bits, and then the power of ten.
-/

namespace AgentGraph.Binary64

/-- A decimal notation: the digits before and after the point, and a power of ten. -/
structure Numeral where
  negative : Bool
  whole : List Char
  fraction : List Char
  exponent : Int
deriving DecidableEq

def digitsValue (digits : List Char) : Nat := Nat.ofDigitChars 10 digits 0

/-- The value nearest to the numeral. Numerals far beyond the range are settled
by their number of digits. -/
def Numeral.nearest (numeral : Numeral) : Binary64 :=
  let digits := digitsValue (numeral.whole ++ numeral.fraction)
  let exponent := numeral.exponent - (numeral.fraction.length : Int)
  let leading := exponent + (digits.repr.length : Int)
  if digits = 0 then .finite ⟨numeral.negative, zero.rank⟩
  else if 400 < leading then .infinite numeral.negative
  else if leading < -400 then .finite ⟨numeral.negative, zero.rank⟩
  else if 0 ≤ exponent then ofRatio numeral.negative (digits * Nat.pow 10 exponent.toNat) 1
  else ofRatio numeral.negative digits (Nat.pow 10 (-exponent).toNat)

/-- `value` extended by leading digits as long as it fits in 64 bits; the digits left over. -/
def takeDigits (value : Nat) : List Char → Nat × List Char
  | [] => (value, [])
  | digit :: rest =>
      let extended := 10 * value + (digit.toNat - '0'.toNat)
      if extended < UInt64.size then takeDigits extended rest else (value, digit :: rest)

/-- The power of ten 10^308 is the greatest one that is a value; smaller results
are divided by it until one division remains. -/
def Finite.dividedByPowerOfTen (value : Finite) (power : Nat) : Nat → Binary64
  | 0 => .finite ⟨value.negative, zero.rank⟩
  | fuel + 1 =>
      if power ≤ 308 then divide value power
      else match divide value 308 with
        | .finite smaller =>
            if smaller.isZero then .finite smaller
            else smaller.dividedByPowerOfTen (power - 308) fuel
        | other => other
where
  divide (value : Finite) (power : Nat) : Binary64 :=
    match ofRatio false (Nat.pow 10 power) 1 with
    | .finite divisor => ofRatio value.negative value.units divisor.units
    | _ => .finite value

/-- The numeral read in two rounded steps; absent where the result is not finite. -/
def Numeral.scaled? (numeral : Numeral) : Option Finite :=
  let (head, wholeLeft) := takeDigits 0 numeral.whole
  let (significand, fractionLeft) := takeDigits head numeral.fraction
  let power := numeral.exponent + wholeLeft.length -
    (numeral.fraction.length - fractionLeft.length : Nat)
  match ofRatio numeral.negative significand 1 with
  | .finite value =>
      let result :=
        if value.isZero then Binary64.finite value
        else if power < 0 then value.dividedByPowerOfTen (-power).toNat 4
        else if 308 < power then .infinite numeral.negative
        else match ofRatio false (Nat.pow 10 power.toNat) 1 with
          | .finite factor =>
              ofRatio numeral.negative (value.units * factor.units)
                (unitsPerOne * unitsPerOne)
          | other => other
      match result with
      | .finite value => some value
      | _ => none
  | _ => none

def digits? (text : List Char) : Option (List Char × List Char) :=
  match text.takeWhile Char.isDigit with
  | [] => none
  | digits => some (digits, text.dropWhile Char.isDigit)

def exponent? : List Char → Option (Int × List Char)
  | letter :: text =>
      if letter = 'e' ∨ letter = 'E' then
        match text with
        | '-' :: text => (digits? text).map fun (digits, rest) =>
            (-(digitsValue digits : Int), rest)
        | '+' :: text => (digits? text).map fun (digits, rest) =>
            ((digitsValue digits : Int), rest)
        | text => (digits? text).map fun (digits, rest) =>
            ((digitsValue digits : Int), rest)
      else some (0, letter :: text)
  | [] => some (0, [])

def fraction (text : List Char) : List Char × List Char :=
  match text with
  | '.' :: rest => (rest.takeWhile Char.isDigit, rest.dropWhile Char.isDigit)
  | _ => ([], text)

private def unsigned? (negative : Bool) (text : List Char) : Option Binary64 :=
  let lower := text.map Char.toLower
  if lower = "inf".toList ∨ lower = "infinity".toList then some (.infinite negative)
  else if lower = "nan".toList then some .nan
  else
    let whole := text.takeWhile Char.isDigit
    let (fraction, rest) := fraction (text.dropWhile Char.isDigit)
    if whole.isEmpty && fraction.isEmpty then none
    else match exponent? rest with
      | some (exponent, []) => some (Numeral.nearest ⟨negative, whole, fraction, exponent⟩)
      | _ => none

/-- The value that a whole text writes: an optional sign, then digits with an
optional point and exponent, or `inf`, `infinity` or `nan` in any letter case. -/
def ofText? (text : String) : Option Binary64 :=
  match text.toList with
  | '-' :: rest => unsigned? true rest
  | '+' :: rest => unsigned? false rest
  | rest => unsigned? false rest

end AgentGraph.Binary64
