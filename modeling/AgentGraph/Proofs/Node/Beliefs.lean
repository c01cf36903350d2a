import AgentGraph.Node.Beliefs
import AgentGraph.Proofs.Dict.Entries
import AgentGraph.Proofs.Text.Padded
import Mathlib.Data.List.Basic

/-!
Beliefs as they are kept: names that are trimmed and not empty, and values that are not blank
where there are any. Reading kept beliefs once more changes nothing, so that their map may
stand for whatever they were read from.
-/

namespace AgentGraph.ReasoningAgent

/-- Whether a belief has the form that reading gives to every belief. -/
structure IsKept (belief : String × Option String) : Prop where
  trimmed : Text.trim belief.1 = belief.1
  named : belief.1 ≠ ""
  valued : ∀ text ∈ belief.2, Text.isBlankText text = false

variable {belief entry : String × Option String}

theorem isKept_of_entry (read : beliefOfEntry? entry = some belief) : IsKept belief := by
  unfold beliefOfEntry? at read
  split at read
  · contradiction
  · next shown =>
      obtain rfl := Option.some.inj read
      constructor
      · exact Text.trim_trim entry.1
      · exact mt Text.trim_eq_empty_iff.mp shown
      · intro text held
        obtain ⟨-, kept⟩ := Option.filter_eq_some_iff.mp held
        simpa using kept

theorem isKept_of_text {text : String} (read : beliefOfText? text = some belief) :
    IsKept belief :=
  isKept_of_entry read

theorem IsKept.shown (isKept : IsKept belief) : Text.isBlankText belief.1 = false := by
  apply Bool.eq_false_iff.mpr
  intro blank
  apply isKept.named
  rw [← isKept.trimmed, Text.trim_eq_empty_iff.mpr blank]

theorem IsKept.read (isKept : IsKept belief) : beliefOfEntry? belief = some belief := by
  have value : meaningful? belief.2 = belief.2 := by
    cases held : belief.2 with
    | none => rfl
    | some text => simp [meaningful?, isKept.valued text held]
  unfold beliefOfEntry?
  rw [isKept.shown, if_neg Bool.false_ne_true, isKept.trimmed, value]

variable (special : ReasoningAgent)

theorem isKept_of_mem_beliefs (inside : belief ∈ special.beliefs.entries) : IsKept belief := by
  have given := Dict.mem_entries_ofList inside
  split at given
  · obtain ⟨entry, -, read⟩ := List.mem_filterMap.mp given
    exact isKept_of_entry read
  · obtain ⟨text, -, read⟩ := List.mem_filterMap.mp given
    exact isKept_of_text read

/-- The agent with a map of its beliefs in the place of all it had of them. -/
def migrated : ReasoningAgent :=
  { special with
    beliefMap := some special.beliefs
    beliefTexts := [] }

theorem beliefs_migrated : special.migrated.beliefs = special.beliefs := by
  have same : special.beliefs.entries.filterMap beliefOfEntry? = special.beliefs.entries := by
    calc special.beliefs.entries.filterMap beliefOfEntry?
        = special.beliefs.entries.filterMap some :=
          List.filterMap_congr fun belief inside => (special.isKept_of_mem_beliefs inside).read
      _ = special.beliefs.entries := List.filterMap_some
  calc special.migrated.beliefs
      = Dict.ofList (special.beliefs.entries.filterMap beliefOfEntry?) := rfl
    _ = Dict.ofList special.beliefs.entries := by rw [same]
    _ = special.beliefs := Dict.ofList_entries special.beliefs

end AgentGraph.ReasoningAgent
