import AgentGraph.Proofs.Binary64.Text
import AgentGraph.Proofs.Literal.Mask

/-!
Every literal ends where it was begun: numbers have none, and a list or a map holds
nothing but literals.
-/

namespace AgentGraph

theorem IsNumeralText.plain {text : String} (numeral : IsNumeralText text) :
    Literal.Plain text := by
  intro inside
  have quote := numeral '"' inside
  contradiction

namespace Literal

theorem number_plain (value : Binary64) : Plain (number value) := by
  cases value with
  | finite value =>
      unfold number
      dsimp only
      split
      · exact (IsNumeralText.of_toString _).plain
      · exact (Binary64.plain.finiteText_isNumeralText value).plain
  | infinite negative => cases negative <;> decide
  | nan => decide

theorem bool_plain (truth : Bool) : Plain (bool truth) := by
  cases truth <;> decide

theorem comma_whole : Whole ", " := by decide

mutual

theorem value_whole : ∀ json : Json, Whole (value json)
  | .null => by decide
  | .bool truth => (bool_plain truth).whole
  | .number number => number.text_isNumeralText.plain.whole
  | .string text => string_whole text
  | .array items => by
      have inside := comma_whole.intercalate (itemValues_whole items)
      exact (Whole.append (by decide) inside).append (by decide)
  | .object members => by
      have inside := comma_whole.intercalate (memberValues_whole members)
      exact (Whole.append (by decide) inside).append (by decide)

theorem itemValues_whole : ∀ items : List Json, ∀ text ∈ itemValues items, Whole text
  | [], _, inside => absurd inside List.not_mem_nil
  | item :: rest, text, inside => by
      rcases List.mem_cons.mp inside with rfl | later
      · exact value_whole item
      · exact itemValues_whole rest text later

theorem memberValues_whole :
    ∀ members : List (String × Json), ∀ text ∈ memberValues members, Whole text
  | [], _, inside => absurd inside List.not_mem_nil
  | (key, item) :: rest, text, inside => by
      rcases List.mem_cons.mp inside with rfl | later
      · exact ((string_whole key).append (by decide)).append (value_whole item)
      · exact memberValues_whole rest text later

end

theorem typedText_whole (text : String) : Whole (typedText text) := by
  unfold typedText
  split
  · exact value_whole _
  · exact string_whole _

theorem typedValue_whole (json : Json) : Whole (typedValue json) := by
  cases json with
  | string text => exact typedText_whole text
  | null | bool | number | array | object => exact value_whole _

end Literal

end AgentGraph
