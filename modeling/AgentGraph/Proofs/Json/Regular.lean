import AgentGraph.Proofs.Dict.Entries
import AgentGraph.Proofs.Json.Numbers

/-!
The values that reading gives. They nest no deeper than the reader lets them, the
members of each object stand in the order of their keys, and integers have 64 bits.
-/

namespace AgentGraph

namespace Json

/-- Values of at most `depth` nested arrays and objects, with the members of each
object in the order of their keys, whose numbers all satisfy `numbers`. -/
inductive Regular (numbers : Number → Prop) : Nat → Json → Prop
  | null {depth : Nat} : Regular numbers depth .null
  | bool {depth : Nat} (value : Bool) : Regular numbers depth (.bool value)
  | number {depth : Nat} {value : Number} (holds : numbers value) :
      Regular numbers depth (.number value)
  | string {depth : Nat} (value : String) : Regular numbers depth (.string value)
  | array {depth : Nat} {items : List Json}
      (regular : ∀ item ∈ items, Regular numbers depth item) :
      Regular numbers (depth + 1) (.array items)
  | object {depth : Nat} {members : List (String × Json)}
      (sorted : members.Pairwise fun first second => first.1 < second.1)
      (regular : ∀ member ∈ members, Regular numbers depth member.2) :
      Regular numbers (depth + 1) (.object members)

namespace Regular

variable {numbers : Number → Prop} {depth : Nat}

theorem of_object {members : List (String × Json)}
    (regular : Regular numbers (depth + 1) (.object members)) :
    (members.Pairwise fun first second => first.1 < second.1) ∧
      ∀ member ∈ members, Regular numbers depth member.2 := by
  cases regular with
  | object sorted regular => exact ⟨sorted, regular⟩

end Regular

/-- What holds of every item that is read holds of the items of a sequence. -/
private theorem readItems_forall {α : Type} {item : Reader α} {closing : Char}
    {holds : α → Prop}
    (sound : ∀ {text value rest}, item text = some (value, rest) → holds value) :
    ∀ (fuel : Nat) {text : List Char} {values : List α} {rest : List Char},
      readItems item closing fuel text = some (values, rest) →
        ∀ value ∈ values, holds value := by
  intro fuel
  induction fuel with
  | zero => intro text values rest read; simp [readItems] at read
  | succ fuel ih =>
      intro text values rest read
      simp only [readItems, Option.bind_eq_bind] at read
      obtain ⟨⟨first, afterItem⟩, itemRead, read⟩ := Option.bind_eq_some_iff.mp read
      have firstHolds := sound itemRead
      split at read
      · split at read
        · simp only [Option.some.injEq, Prod.mk.injEq] at read
          intro value member
          rw [← read.1, List.mem_singleton] at member
          exact member ▸ firstHolds
        · split at read
          · obtain ⟨⟨others, afterItems⟩, itemsRead, same⟩ :=
              Option.bind_eq_some_iff.mp read
            simp only [Option.pure_def, Option.some.injEq, Prod.mk.injEq] at same
            intro value member
            rw [← same.1] at member
            cases List.mem_cons.mp member with
            | inl here => exact here ▸ firstHolds
            | inr there => exact ih itemsRead value there
          · contradiction
      · contradiction

private theorem readSequence_forall {α : Type} {item : Reader α} {closing : Char}
    {holds : α → Prop}
    (sound : ∀ {text value rest}, item text = some (value, rest) → holds value)
    {text : List Char} {values : List α} {rest : List Char}
    (read : readSequence item closing text = some (values, rest)) :
    ∀ value ∈ values, holds value := by
  unfold readSequence at read
  split at read
  · split at read
    · simp only [Option.some.injEq, Prod.mk.injEq] at read
      intro value member
      rw [← read.1] at member
      exact absurd member List.not_mem_nil
    · exact readItems_forall sound _ read
  · contradiction

private theorem readMember_value {value : Reader Json} {text rest : List Char}
    {member : String × Json} (read : readMember value text = some (member, rest)) :
    ∃ before, value before = some (member.2, rest) := by
  unfold readMember at read
  split at read
  · simp only [Option.bind_eq_bind] at read
    obtain ⟨⟨key, afterKey⟩, _, read⟩ := Option.bind_eq_some_iff.mp read
    split at read
    · obtain ⟨⟨held, afterValue⟩, valueRead, same⟩ := Option.bind_eq_some_iff.mp read
      simp only [Option.pure_def, Option.some.injEq, Prod.mk.injEq] at same
      obtain ⟨rfl, rfl⟩ := same
      exact ⟨_, valueRead⟩
    · contradiction
  · contradiction

private theorem literal?_value {word : String} {value found : Json} {text rest : List Char}
    (read : literal? word value text = some (found, rest)) : found = value := by
  obtain ⟨left, _, same⟩ := Option.map_eq_some_iff.mp read
  injection same with same
  exact same.symm

theorem readValue_regular (depth : Nat) {text : List Char} {value : Json}
    {rest : List Char} (read : readValue depth text = some (value, rest)) :
    Regular Number.IsWord depth value := by
  induction depth using Nat.strongRecOn generalizing text value rest with
  | ind depth ih =>
      unfold readValue at read
      split at read
      · contradiction
      · exact literal?_value read ▸ .null
      · exact literal?_value read ▸ .bool true
      · exact literal?_value read ▸ .bool false
      · obtain ⟨⟨found, left⟩, _, same⟩ := Option.map_eq_some_iff.mp read
        injection same with same
        exact same ▸ .string found
      · next inner text =>
          obtain ⟨⟨items, left⟩, itemsRead, same⟩ := Option.map_eq_some_iff.mp read
          injection same with same
          rw [← same]
          exact .array (readSequence_forall (ih inner (Nat.lt_succ_self inner)) itemsRead)
      · next inner text =>
          obtain ⟨⟨members, left⟩, membersRead, same⟩ := Option.map_eq_some_iff.mp read
          injection same with same
          rw [← same]
          apply Regular.object (Dict.ofList members).sorted
          intro member inside
          have regular : ∀ member ∈ members, Regular Number.IsWord inner member.2 := by
            refine readSequence_forall (fun memberRead => ?_) membersRead
            obtain ⟨before, valueRead⟩ := readMember_value memberRead
            exact ih inner (Nat.lt_succ_self inner) valueRead
          exact regular member (Dict.mem_entries_ofList inside)
      · obtain ⟨⟨number, left⟩, numberRead, same⟩ := Option.map_eq_some_iff.mp read
        injection same with same
        exact same ▸ .number (readNumber_isWord numberRead)
      · obtain ⟨⟨number, left⟩, numberRead, same⟩ := Option.map_eq_some_iff.mp read
        injection same with same
        exact same ▸ .number (readNumber_isWord numberRead)

theorem parse?_regular {text : String} {value : Json} (read : parse? text = some value) :
    Regular Number.IsWord maxDepth value := by
  unfold parse? at read
  split at read
  · next valueRead =>
      split at read
      · injection read with same
        exact same ▸ readValue_regular maxDepth valueRead
      · contradiction
  · contradiction

end Json

end AgentGraph
