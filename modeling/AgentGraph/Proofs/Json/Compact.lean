import AgentGraph.Proofs.Json.Spelled

/-!
The compact text of a value spells it, with the members of its objects in the order of their keys.
-/

namespace AgentGraph.Json

theorem itemTexts_eq_map (items : List Json) : itemTexts items = items.map text := by
  induction items with
  | nil => rfl
  | cons item rest ih => rw [itemTexts, ih, List.map_cons]

theorem memberTexts_eq_map (members : List (String × Json)) :
    memberTexts members = members.map fun member => quoted member.1 ++ ":" ++ member.2.text := by
  induction members with
  | nil => rfl
  | cons member rest ih =>
      obtain ⟨key, value⟩ := member
      rw [memberTexts, ih, List.map_cons]

theorem spelled_escaped (text : List Char) : SpellsCharacters text (text.flatMap escapedChar) := by
  obtain ⟨spelling, split, spelled⟩ := spelled_of_readCharacters (readCharacters_flatMap text [])
  rwa [List.append_cancel_right split]

/-- A number that is read back from its text is spelled by it, however deep it stands. -/
theorem spelled_number {number : Number} (readBack : number.IsReadBack) (depth : Nat) :
    Spells depth (.number number) number.text.toList := by
  obtain ⟨spelling, split, spelled⟩ :=
    spelled_of_readValue depth (readValue_number depth readBack .nil)
  rwa [List.append_cancel_right split]

theorem spelled_quoted (text : String) (depth : Nat) :
    Spells depth (.string text) (quoted text).toList := by
  rw [toList_quoted]
  exact .string (spelled_escaped text.toList)

/-- A member of an object as the compact text has it. -/
def compactMember (member : String × Json) : SpelledMember :=
  ⟨member.1, member.2.sorted, (quoted member.1).toList, member.2.text.toList⟩

theorem spelled_key (member : String × Json) :
    SpellsKey (compactMember member).key (compactMember member).keyText := by
  refine ⟨[], _, [], .nil, .nil, spelled_escaped member.1.toList, ?_⟩
  exact toList_quoted member.1

theorem text_compactMember (member : String × Json) :
    (compactMember member).text = (quoted member.1 ++ ":" ++ member.2.text).toList := by
  simp [compactMember, SpelledMember.text]

section Sequences

variable {depth : Nat}

theorem spelled_array {items : List Json}
    (spelled : ∀ item ∈ items, Spells depth item.sorted item.text.toList) :
    Spells (depth + 1) (.array (items.map sorted)) (array items).text.toList := by
  rw [text, itemTexts_eq_map]
  cases items with
  | nil => exact .emptyArray .nil
  | cons item items =>
      have parts : ∀ part ∈ (item :: items).map fun item => (item.sorted, item.text.toList),
          Spells depth part.1 part.2 := by
        intro part inside
        obtain ⟨item, held, rfl⟩ := List.mem_map.mp inside
        exact spelled item held
      have whole := Spells.array (by simp) parts
      rw [List.map_map, List.map_map] at whole
      rw [String.toList_append, String.toList_append, String.toList_intercalate, List.map_map]
      exact whole

theorem spelled_object {members : List (String × Json)}
    (spelled : ∀ member ∈ members, Spells depth member.2.sorted member.2.text.toList) :
    Spells (depth + 1) (object members).sorted (object members).text.toList := by
  rw [sorted_object, text, memberTexts_eq_map]
  cases members with
  | nil => exact .emptyObject .nil
  | cons member members =>
      have keys : ∀ part ∈ (member :: members).map compactMember,
          SpellsKey part.key part.keyText := by
        intro part inside
        obtain ⟨member, _, rfl⟩ := List.mem_map.mp inside
        exact spelled_key member
      have values : ∀ part ∈ (member :: members).map compactMember,
          Spells depth part.value part.valueText := by
        intro part inside
        obtain ⟨member, held, rfl⟩ := List.mem_map.mp inside
        exact spelled member held
      have texts : ((member :: members).map compactMember).map SpelledMember.text =
          ((member :: members).map fun member =>
            quoted member.1 ++ ":" ++ member.2.text).map String.toList := by
        rw [List.map_map, List.map_map]
        exact List.map_congr_left fun member _ => text_compactMember member
      have whole := Spells.object (by simp) keys values
      rw [texts, List.map_map] at whole
      rw [String.toList_append, String.toList_append, String.toList_intercalate]
      exact whole

end Sequences

theorem spelled_text {depth : Nat} {value : Json}
    (nested : Nested Number.IsReadBack depth value) :
    Spells depth value.sorted value.text.toList := by
  induction nested with
  | null =>
      rw [sorted_null, text]
      exact .null
  | bool truth =>
      rw [sorted_bool]
      cases truth with
      | true => exact .yes
      | false => exact .no
  | number readBack =>
      rw [sorted_number, text]
      exact spelled_number readBack _
  | string value =>
      rw [sorted_string, text]
      exact spelled_quoted value _
  | array _ ih =>
      rw [sorted_array]
      exact spelled_array ih
  | object _ ih => exact spelled_object ih

end AgentGraph.Json
