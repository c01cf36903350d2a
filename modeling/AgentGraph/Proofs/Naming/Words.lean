import AgentGraph.Proofs.Naming.Resolved
import AgentGraph.Proofs.Naming.Valid

/-!
The characters of names: letters, digits and underscores, also where a name was made up.
-/

namespace AgentGraph

namespace Naming

/-- Whether all characters of the text may stand in a name. -/
def IsWord (text : String) : Prop := ∀ c ∈ text.toList, isNameChar c = true

instance (text : String) : Decidable (IsWord text) :=
  decidable_of_iff (text.toList.all isNameChar = true) List.all_eq_true

theorem IsWord.append {first second : String} (left : IsWord first) (right : IsWord second) :
    IsWord (first ++ second) := by
  intro c inside
  rw [String.toList_append, List.mem_append] at inside
  rcases inside with inFirst | inSecond
  · exact left c inFirst
  · exact right c inSecond

theorem isWord_repr (number : Nat) : IsWord number.repr := by
  intro c inside
  rw [Nat.toList_repr] at inside
  have digit : c.isDigit = true :=
    Nat.isDigit_of_mem_toDigits (by decide) (by decide) inside
  simp [isNameChar, Char.isAlphanum, digit]

theorem isWord_of_isIdentifier {name : String} (identifier : isIdentifier name = true) :
    IsWord name := by
  unfold isIdentifier at identifier
  unfold IsWord
  cases chars : name.toList with
  | nil => exact fun _ inside => absurd inside List.not_mem_nil
  | cons head rest =>
      rw [chars] at identifier
      obtain ⟨start, others⟩ := Bool.and_eq_true_iff.mp identifier
      intro c inside
      rcases List.mem_cons.mp inside with rfl | later
      · unfold isNameStart at start
        unfold isNameChar Char.isAlphanum
        rcases Bool.or_eq_true_iff.mp start with letter | underscore
        · simp [letter]
        · simp [underscore]
      · exact List.all_eq_true.mp others c later

theorem IsResolved.isWord {stem name : String} {taken : List String} {typed : Option String}
    (resolved : IsResolved stem taken typed name) (stemIsWord : IsWord stem)
    (typedIsWord : ∀ name ∈ typed, IsWord name) : IsWord name := by
  rcases resolved with isTyped | ⟨_, _, number, rfl⟩
  · exact typedIsWord name isTyped
  · exact stemIsWord.append (isWord_repr number)

end Naming

namespace Relations.Identifies

open Naming

variable {settings : Settings} {nodes : List Node} {names classes : List String} {node : Node}
  {identity : Identity}

theorem instanceName_isWord (identifies : Identifies settings names classes node identity)
    (rules : IsValid nodes) (inside : node ∈ nodes) : IsWord identity.instanceName := by
  apply identifies.instanceName.isWord (by decide)
  intro name typed
  have isName : name ∈ instanceNames nodes := List.mem_filterMap.mpr ⟨node, inside, typed⟩
  exact isWord_of_isIdentifier (rules.instanceName name isName).1

theorem className_isWord (identifies : Identifies settings names classes node identity)
    (identifiers : ∀ name ∈ agentClasses nodes, isIdentifier name = true)
    (inside : node ∈ nodes) : IsWord identity.className := by
  apply identifies.className.isWord (by decide)
  intro name typed
  exact isWord_of_isIdentifier
    (identifiers name (List.mem_filterMap.mpr ⟨node, inside, typed⟩))

end Relations.Identifies

end AgentGraph
