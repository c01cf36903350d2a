import AgentGraph.Binary64.Shortest

/-!
How a value is written: its shortest digits, with or without an exponent.
-/

namespace AgentGraph.Binary64

structure Layout where
  /-- Bounds of the leading exponents written without an exponent; none for all. -/
  positional : Option (Int × Int)
  /-- Whether an integral value written without an exponent ends in a point and a zero. -/
  keepPoint : Bool
  tie : Tie

def zeros (count : Nat) : String := String.ofList (List.replicate count '0')

def positionalText (keepPoint : Bool) (decimal : Decimal) : String :=
  let digits := decimal.digits.repr
  if 0 ≤ decimal.exponent then
    digits ++ zeros decimal.exponent.toNat ++ (if keepPoint then ".0" else "")
  else
    let places := (-decimal.exponent).toNat
    let padded := zeros (places + 1 - digits.length) ++ digits
    let split := padded.toList.splitAt (padded.length - places)
    String.ofList split.1 ++ "." ++ String.ofList split.2

def exponentText (decimal : Decimal) : String :=
  let digits := decimal.digits.repr
  let leading := decimal.exponent + digits.length - 1
  let mantissa := match digits.toList with
    | first :: second :: rest => String.ofList (first :: '.' :: second :: rest)
    | _ => digits
  let sign := if leading < 0 then "-" else "+"
  mantissa ++ "e" ++ sign ++ leading.natAbs.repr

def Layout.decimalText (layout : Layout) (decimal : Decimal) : String :=
  let leading := decimal.exponent + decimal.digits.repr.length - 1
  match layout.positional with
  | none => positionalText layout.keepPoint decimal
  | some (least, greatest) =>
      if least ≤ leading && leading ≤ greatest then
        positionalText layout.keepPoint decimal
      else exponentText decimal

def Layout.finiteText (layout : Layout) (value : Finite) : String :=
  let sign := if value.negative then "-" else ""
  if value.isZero then sign ++ (if layout.keepPoint then "0.0" else "0")
  else sign ++ layout.decimalText (shortest layout.tie value.rank.val)

def Layout.text (layout : Layout) : Binary64 → String
  | .finite value => layout.finiteText value
  | .infinite negative => if negative then "-inf" else "inf"
  | .nan => "NaN"

/-- Every digit written out, nothing added: `2.5`, `100`, `0.000001`. -/
def plain : Layout := ⟨none, false, .up⟩

end AgentGraph.Binary64
