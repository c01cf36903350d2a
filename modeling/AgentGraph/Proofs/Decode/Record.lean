import AgentGraph.Decode.Record
import AgentGraph.Proofs.Json.Regular

/-!
What decoding keeps. A property of records that every field keeps, as long as what it
reads is good, holds of every record read from a document whose parts are good.
-/

namespace AgentGraph

namespace Json

def parts : Json → List Json
  | .array items => items
  | .object members => members.map Prod.snd
  | _ => []

theorem Regular.parts {numbers : Number → Prop} {depth : Nat} {value : Json}
    (regular : Regular numbers (depth + 1) value) :
    ∀ part ∈ value.parts, Regular numbers depth part := by
  cases regular with
  | array regular => exact regular
  | object _ regular =>
      intro part inside
      obtain ⟨member, held, rfl⟩ := List.mem_map.mp inside
      exact regular member held
  | null | bool | number | string => exact fun part inside => absurd inside List.not_mem_nil

end Json

namespace Decoded

variable {α β ε : Type}

theorem bind_eq_ok {first : Except ε α} {next : α → Except ε β} {result : β} :
    first >>= next = .ok result ↔ ∃ value, first = .ok value ∧ next value = .ok result := by
  cases first with
  | error error => exact ⟨nofun, fun ⟨_, read, _⟩ => nomatch read⟩
  | ok value =>
      constructor
      · exact fun same => ⟨value, rfl, same⟩
      · rintro ⟨other, same, read⟩
        injection same with same
        exact same ▸ read

theorem map_eq_ok {change : α → β} {first : Except ε α} {result : β} :
    change <$> first = .ok result ↔ ∃ value, first = .ok value ∧ change value = result := by
  cases first with
  | error error => exact ⟨nofun, fun ⟨_, read, _⟩ => nomatch read⟩
  | ok value =>
      constructor
      · intro same
        injection same with same
        exact ⟨value, rfl, same⟩
      · rintro ⟨other, same, rfl⟩
        injection same with same
        exact same ▸ rfl

theorem foldlM_holds {step : β → α → Except ε β} {holds : β → Prop} {items : List α}
    (keeps : ∀ item ∈ items, ∀ before after, holds before →
      step before item = .ok after → holds after)
    {initial result : β} (start : holds initial)
    (folded : items.foldlM step initial = .ok result) : holds result := by
  induction items generalizing initial with
  | nil =>
      injection folded with same
      exact same ▸ start
  | cons item items ih =>
      obtain ⟨middle, stepped, rest⟩ := bind_eq_ok.mp folded
      exact ih (fun item member => keeps item (List.mem_cons_of_mem _ member))
        (keeps item List.mem_cons_self _ _ start stepped) rest

theorem mapM_mem {decode : α → Except ε β} {items : List α} {values : List β}
    (decoded : items.mapM decode = .ok values) :
    ∀ value ∈ values, ∃ item ∈ items, decode item = .ok value := by
  induction items generalizing values with
  | nil =>
      injection decoded with same
      exact same ▸ nofun
  | cons item items ih =>
      rw [List.mapM_cons] at decoded
      obtain ⟨first, itemDecoded, decoded⟩ := bind_eq_ok.mp decoded
      obtain ⟨others, itemsDecoded, decoded⟩ := bind_eq_ok.mp decoded
      injection decoded with same
      subst same
      intro value member
      cases List.mem_cons.mp member with
      | inl here => exact ⟨item, List.mem_cons_self, here ▸ itemDecoded⟩
      | inr there =>
          obtain ⟨other, inside, otherDecoded⟩ := ih itemsDecoded value there
          exact ⟨other, List.mem_cons_of_mem _ inside, otherDecoded⟩

theorem mapM_eq_ok {decode : α → Except ε β} {encode : β → α} {values : List β}
    (decoded : ∀ value ∈ values, decode (encode value) = .ok value) :
    (values.map encode).mapM decode = .ok values := by
  induction values with
  | nil => rfl
  | cons value values ih =>
      have rest := ih fun value member => decoded value (List.mem_cons_of_mem _ member)
      rw [List.map_cons, List.mapM_cons, decoded value List.mem_cons_self, rest]
      rfl

end Decoded

namespace Field

variable {α β : Type}

/-- Whether a field keeps a property of records when it reads a good value. -/
def Keeps (field : Field α) (good : Json → Prop) (holds : α → Prop) : Prop :=
  ∀ value before after, good value → holds before → field.read value before = .ok after →
    holds after

variable {good : Json → Prop}

theorem keeps_optional {name : String} {decode : Json → Decoded β} {put : β → α → α}
    {holds : α → Prop}
    (keeps : ∀ value read record, good value → decode value = .ok read → holds record →
      holds (put read record)) :
    (optional name decode put).Keeps good holds := by
  intro value before after isGood start read
  obtain ⟨found, decoded, same⟩ := Decoded.bind_eq_ok.mp read
  injection same with same
  exact same ▸ keeps value found before isGood decoded start

theorem keeps_required {name : String} {decode : Json → Decoded β} {put : β → α → α}
    {holds : α → Prop}
    (keeps : ∀ value read record, good value → decode value = .ok read → holds record →
      holds (put read record)) :
    (required name decode put).Keeps good holds :=
  @keeps_optional α β good name decode put holds keeps

theorem keeps_orNamed {field : Field α} {holds : α → Prop} (keeps : field.Keeps good holds)
    (name : String) : (field.orNamed name).Keeps good holds := keeps

/-- A field of a part keeps what it keeps of the part. -/
theorem keeps_within {field : Field α} {get : β → α} {put : α → β → β} {holds : α → Prop}
    (keeps : field.Keeps good holds) (gets : ∀ part whole, get (put part whole) = part) :
    (field.within get put).Keeps good fun whole => holds (get whole) := by
  intro value before after isGood start read
  obtain ⟨part, partRead, same⟩ := Decoded.bind_eq_ok.mp read
  injection same with same
  subst same
  rw [gets]
  exact keeps value (get before) part isGood start partRead

end Field

namespace Record

variable {α : Type} {good : Json → Prop} {holds : α → Prop} {initial result : α}

theorem Draft.readField_holds {draft after : Draft α} {field : Field α} {value : Json}
    (keeps : field.Keeps good holds) (isGood : good value) (start : holds draft.value)
    (read : draft.readField field value = .ok after) : holds after.value := by
  unfold Draft.readField at read
  split at read
  · contradiction
  · obtain ⟨found, fieldRead, same⟩ := Decoded.bind_eq_ok.mp read
    injection same with same
    exact same ▸ keeps value draft.value found isGood start fieldRead

/-- A property that each member keeps, read by the field of its name. -/
theorem readMembers_invariant {fields : List (Field α)} {members : List (String × Json)}
    (keeps : ∀ member ∈ members, ∀ field ∈ fields, field.isNamed member.1 = true →
      ∀ before after, holds before → field.read member.2 before = .ok after → holds after)
    (start : holds initial) {draft : Draft α}
    (read : readMembers fields initial members = .ok draft) : holds draft.value := by
  have memberKeeps : ∀ member ∈ members, ∀ before after : Draft α, holds before.value →
      readMember fields before member = .ok after → holds after.value := by
    intro member inside before after start memberRead
    unfold readMember at memberRead
    split at memberRead
    · next field found =>
        unfold Draft.readField at memberRead
        split at memberRead
        · contradiction
        · obtain ⟨value, fieldRead, same⟩ := Decoded.bind_eq_ok.mp memberRead
          injection same with same
          have named := List.find?_some found
          exact same ▸ keeps member inside field (List.mem_of_find?_eq_some found) named
            before.value value start fieldRead
    · injection memberRead with same
      exact same ▸ start
  exact Decoded.foldlM_holds memberKeeps start read

theorem readMembers_holds {fields : List (Field α)}
    (keeps : ∀ field ∈ fields, field.Keeps good holds) (start : holds initial)
    {members : List (String × Json)} (areGood : ∀ member ∈ members, good member.2)
    {draft : Draft α} (read : readMembers fields initial members = .ok draft) :
    holds draft.value := by
  refine readMembers_invariant ?_ start read
  intro member inside field field_inside _ before after
  exact keeps field field_inside member.2 before after (areGood member inside)

theorem ofItems_holds {record : Record α}
    (keeps : ∀ field ∈ record.fields, field.Keeps good holds) (start : holds initial)
    {items : List Json} (areGood : ∀ item ∈ items, good item)
    (read : record.ofItems initial items = .ok result) : holds result := by
  obtain ⟨draft, folded, read⟩ := Decoded.bind_eq_ok.mp read
  have itemKeeps : ∀ entry ∈ record.fields.zip items, ∀ before after : Draft α,
      holds before.value → before.readField entry.1 entry.2 = .ok after →
        holds after.value := by
    intro entry inside before after start itemRead
    obtain ⟨fieldInside, itemInside⟩ := List.of_mem_zip inside
    exact Draft.readField_holds (keeps entry.1 fieldInside) (areGood entry.2 itemInside)
      start itemRead
  have held : holds draft.value := Decoded.foldlM_holds itemKeeps start folded
  split at read
  · contradiction
  · split at read
    · contradiction
    · injection read with same
      exact same ▸ held

theorem decode_holds {record : Record α}
    (keeps : ∀ field ∈ record.fields, field.Keeps good holds) (start : holds initial)
    {value : Json} (areGood : ∀ part ∈ value.parts, good part)
    (read : record.decode initial value = .ok result) : holds result := by
  unfold decode at read
  split at read
  · next members =>
      obtain ⟨draft, membersRead, read⟩ := Decoded.bind_eq_ok.mp read
      have held := readMembers_holds keeps start
        (fun member inside => areGood member.2 (List.mem_map_of_mem inside)) membersRead
      split at read
      · contradiction
      · injection read with same
        exact same ▸ held
  · exact ofItems_holds keeps start areGood read
  · contradiction

theorem decodeWith_holds {record : Record α} {part : List (Field α)}
    (keeps : ∀ field ∈ record.fields, field.Keeps good holds)
    (partKeeps : ∀ field ∈ part, field.Keeps good holds) (start : holds initial)
    {value : Json} (areGood : ∀ part ∈ value.parts, good part)
    (read : record.decodeWith part initial value = .ok result) : holds result := by
  unfold decodeWith at read
  split at read
  · next members =>
      have membersGood : ∀ member ∈ members, good member.2 :=
        fun member inside => areGood member.2 (List.mem_map_of_mem inside)
      obtain ⟨own, ownRead, read⟩ := Decoded.bind_eq_ok.mp read
      obtain ⟨whole, wholeRead, read⟩ := Decoded.bind_eq_ok.mp read
      injection read with same
      have ownHolds := readMembers_holds keeps start membersGood ownRead
      exact same ▸ readMembers_holds partKeeps ownHolds membersGood wholeRead
  · contradiction

end Record

end AgentGraph
