import AgentGraph.Naming.Basic

/-!
Names for nodes that were left without one: a stem and a number, the first one
from a given number on that is not taken.
-/

namespace AgentGraph.Naming

def numbered (stem : String) (number : Nat) : String := stem ++ number.repr

/-- The first number from `start` on whose name is not taken. Of the names with
`fuel + 1` consecutive numbers one is not among `fuel` taken names. -/
def firstFree (stem : String) (taken : List String) : (fuel start : Nat) → Nat
  | 0, start => start
  | fuel + 1, start =>
      if numbered stem start ∈ taken then firstFree stem taken fuel (start + 1)
      else start

def fallback (stem : String) (start : Nat) (taken : List String) :
    String × List String :=
  let name := numbered stem (firstFree stem taken taken.length start)
  (name, name :: taken)

/-- What was typed into a field, or else a fallback; and the names taken after that. -/
def resolve (stem : String) (start : Nat) (field : String) (taken : List String) :
    String × List String :=
  match typed? field with
  | some name => (name, taken)
  | none => fallback stem start taken

end AgentGraph.Naming
