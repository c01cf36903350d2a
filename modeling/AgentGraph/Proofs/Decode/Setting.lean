import AgentGraph.Proofs.Decode.Record
import AgentGraph.Proofs.Dict.Lookup
import Mathlib.Data.List.Find

/-!
Settings that take any value. Where a field takes whatever it reads, and no other field sees what
it did, a record read with that field is the record read without it, changed in that place.
-/

namespace AgentGraph

namespace Decoded

variable {α β γ δ ε : Type}

/-- The same error, or values that are related. -/
inductive Alike (related : α → β → Prop) : Except ε α → Except ε β → Prop
  | failed (error : ε) : Alike related (.error error) (.error error)
  | read {first : α} {second : β} (held : related first second) :
      Alike related (.ok first) (.ok second)

namespace Alike

theorem bind {related : α → β → Prop} {after : γ → δ → Prop} {first : Except ε α}
    {second : Except ε β} {next : α → Except ε γ} {other : β → Except ε δ}
    (alike : Alike related first second)
    (steps : ∀ value changed, related value changed → Alike after (next value) (other changed)) :
    Alike after (first >>= next) (second >>= other) := by
  cases alike with
  | failed error => exact .failed error
  | read held => exact steps _ _ held

theorem foldlM {related : β → γ → Prop} {step : β → α → Except ε β} {other : γ → α → Except ε γ}
    {items : List α}
    (steps : ∀ item ∈ items, ∀ value changed, related value changed →
      Alike related (step value item) (other changed item))
    {value : β} {changed : γ} (start : related value changed) :
    Alike related (items.foldlM step value) (items.foldlM other changed) := by
  induction items generalizing value changed with
  | nil => exact .read start
  | cons item items ih =>
      rw [List.foldlM_cons, List.foldlM_cons]
      refine bind (steps item List.mem_cons_self value changed start) fun _ _ held => ?_
      exact ih (fun item inside => steps item (List.mem_cons_of_mem _ inside)) held

theorem eq_map {change : α → β} {first : Except ε α} {second : Except ε β}
    (alike : Alike (fun value changed => changed = change value) first second) :
    second = change <$> first := by
  cases alike with
  | failed error => rfl
  | read held => exact congrArg Except.ok held

end Alike

theorem map_comm {put : α → α} {wrap : α → β} {change : β → β}
    (commutes : ∀ value, wrap (put value) = change (wrap value)) (read : Except ε α) :
    wrap <$> put <$> read = change <$> wrap <$> read := by
  cases read with
  | error error => rfl
  | ok value => exact congrArg Except.ok (commutes value)

end Decoded

namespace Dict

variable {α : Type}

theorem insertEntry_of_absent {key : String} (value : α) {entries : List (String × α)}
    (absent : entries.lookup key = none) :
    ∃ before after, entries = before ++ after ∧
      insertEntry key value entries = before ++ (key, value) :: after := by
  induction entries with
  | nil => exact ⟨[], [], rfl, rfl⟩
  | cons head rest ih =>
      obtain ⟨other, held⟩ := head
      have different : key ≠ other := by
        rintro rfl
        simp at absent
      rw [List.lookup_cons, beq_eq_false_iff_ne.mpr different] at absent
      obtain ⟨before, after, split, inserted⟩ := ih absent
      rw [insertEntry, if_neg different, inserted]
      split
      · exact ⟨[], (other, held) :: rest, rfl, rfl⟩
      · exact ⟨(other, held) :: before, after, congrArg ((other, held) :: ·) split, rfl⟩

end Dict

/-- What a value does to a record where it stands under one of some names. -/
structure Setting (α : Type) where
  names : List String
  put : Json → α → α

namespace Field

variable {α β : Type}

/-- Whether a field reads the same before a change of the record as after it. -/
def Spares (field : Field α) (change : α → α) : Prop :=
  ∀ value record, field.read value (change record) = change <$> field.read value record

theorem spares_optional {name : String} {decode : Json → Decoded β} {put : β → α → α}
    {change : α → α}
    (commutes : ∀ read record, put read (change record) = change (put read record)) :
    (optional name decode put).Spares change := by
  intro value record
  cases decoded : decode value with
  | error error => simp [optional, decoded]
  | ok read => simp [optional, decoded, commutes]

end Field

namespace Setting

variable {α β : Type}

/-- Whether a field is the one place of a setting among the fields of a record. -/
structure IsPlaced (setting : Setting α) (field : Field α) (fields : List (Field α)) : Prop where
  found : ∀ key ∈ setting.names, fields.find? (fun field => field.isNamed key) = some field
  named : ∀ key, field.isNamed key = true → key ∈ setting.names
  takes : ∀ value record, field.read value record = .ok (setting.put value record)
  isOptional : field.isRequired = false
  alone : ∀ other ∈ fields, other.name = field.name → other = field
  spares : ∀ other ∈ fields, other.name ≠ field.name → ∀ value, other.Spares (setting.put value)

/-- Whether a field is another one than that of a setting, and spares it. -/
structure IsApart (setting : Setting α) (other : Field α) : Prop where
  unnamed : ∀ key ∈ setting.names, other.isNamed key = false
  spares : ∀ value, other.Spares (setting.put value)

theorem isApart_optional {setting : Setting α} {name : String} {decode : Json → Decoded β}
    {put : β → α → α} (unnamed : name ∉ setting.names)
    (commutes : ∀ value read record,
      put read (setting.put value record) = setting.put value (put read record)) :
    setting.IsApart (.optional name decode put) where
  unnamed key inside := by
    have different : name ≠ key := fun same => unnamed (same ▸ inside)
    simp [Field.isNamed, Field.optional, different]
  spares value := Field.spares_optional (commutes value)

theorem IsApart.orNamed {setting : Setting α} {other : Field α} (apart : setting.IsApart other)
    {name : String} (unnamed : name ∉ setting.names) : setting.IsApart (other.orNamed name) where
  unnamed key inside := by
    have different : name ≠ key := fun same => unnamed (same ▸ inside)
    have first := apart.unnamed key inside
    rw [Field.isNamed, Bool.or_eq_false_iff] at first
    simp [Field.isNamed, Field.orNamed, different, first.1]
  spares := apart.spares

theorem isPlaced_of_isApart {setting : Setting α} {field : Field α} {before after : List (Field α)}
    (names : setting.names = field.name :: field.otherName.toList)
    (takes : ∀ value record, field.read value record = .ok (setting.put value record))
    (isOptional : field.isRequired = false)
    (apart : ∀ other ∈ before ++ after, setting.IsApart other) :
    setting.IsPlaced field (before ++ field :: after) := by
  have named : ∀ key, field.isNamed key = true ↔ key ∈ setting.names := by
    intro key
    rw [names, Field.isNamed, Bool.or_eq_true, beq_iff_eq, beq_iff_eq, List.mem_cons,
      Option.mem_toList, eq_comm]
  have first : field.name ∈ setting.names := names ▸ List.mem_cons_self
  have others : ∀ other ∈ before ++ field :: after, other = field ∨ setting.IsApart other := by
    intro other inside
    rcases List.mem_append.mp inside with earlier | inside
    · exact .inr (apart other (List.mem_append_left _ earlier))
    · rcases List.mem_cons.mp inside with here | later
      · exact .inl here
      · exact .inr (apart other (List.mem_append_right _ later))
  refine ⟨fun key inside => ?_, fun key => (named key).mp, takes, isOptional, ?_, ?_⟩
  · have none_before : before.find? (fun field => field.isNamed key) = none := by
      rw [List.find?_eq_none]
      intro other earlier
      rw [(apart other (List.mem_append_left _ earlier)).unnamed key inside]
      exact Bool.false_ne_true
    rw [List.find?_append, none_before, Option.none_or]
    exact List.find?_cons_of_pos ((named key).mpr inside)
  · intro other inside same
    refine (others other inside).resolve_right fun isApart => ?_
    have unnamed := isApart.unnamed field.name first
    simp [Field.isNamed, same] at unnamed
  · intro other inside different
    exact ((others other inside).resolve_left fun same => different (same ▸ rfl)).spares

/-- A setting of a part of a record. -/
def within (setting : Setting α) (get : β → α) (put : α → β → β) : Setting β where
  names := setting.names
  put value whole := put (setting.put value (get whole)) whole

variable {setting : Setting α} {field : Field α} {fields : List (Field α)}

theorem IsPlaced.within (placed : setting.IsPlaced field fields) {get : β → α} {put : α → β → β}
    (gets : ∀ part whole, get (put part whole) = part)
    (puts : ∀ part other whole, put part (put other whole) = put part whole) :
    (setting.within get put).IsPlaced (field.within get put)
      (fields.map fun field => field.within get put) where
  found key inside := by
    rw [List.find?_map]
    exact congrArg _ (placed.found key inside)
  named := placed.named
  takes value whole := by
    simp only [Field.within, placed.takes]
    rfl
  isOptional := placed.isOptional
  alone := by
    intro other inside same
    obtain ⟨other, held, rfl⟩ := List.mem_map.mp inside
    exact congrArg (fun field => Field.within field get put) (placed.alone other held same)
  spares := by
    intro other inside different value read whole
    obtain ⟨other, held, rfl⟩ := List.mem_map.mp inside
    have spared := placed.spares other held different value read (get whole)
    simp only [Field.within, Setting.within, gets, spared]
    cases other.read read (get whole) with
    | error error => rfl
    | ok part => simp [gets, puts]

end Setting

namespace Record

variable {α : Type} {setting : Setting α} {field : Field α} {fields : List (Field α)}
  {initial : α} {key : String} {value : Json}

/-- How a draft that read a setting stands to the draft that did not. -/
structure Draft.IsSet (setting : Setting α) (field : Field α) (value : Json)
    (draft changed : Draft α) : Prop where
  value_eq : changed.value = setting.put value draft.value
  mem_seen : ∀ name, name ∈ changed.seen ↔ name = field.name ∨ name ∈ draft.seen

theorem name_ne_of_find? (placed : setting.IsPlaced field fields) {other : Field α}
    (absent : key ∉ setting.names)
    (found : fields.find? (fun field => field.isNamed key) = some other) :
    other.name ≠ field.name := by
  intro same
  have here := placed.alone other (List.mem_of_find?_eq_some found) same
  have named := List.find?_some found
  exact absent (placed.named key (here ▸ named))

theorem readMember_isSet (placed : setting.IsPlaced field fields) {draft changed : Draft α}
    (isSet : draft.IsSet setting field value changed) {member : String × Json}
    (absent : member.1 ∉ setting.names) :
    Decoded.Alike (Draft.IsSet setting field value) (readMember fields draft member)
      (readMember fields changed member) := by
  unfold readMember
  split
  · next other found =>
      have different := name_ne_of_find? placed absent found
      have spared := placed.spares other (List.mem_of_find?_eq_some found) different value
      have seen : other.name ∈ changed.seen ↔ other.name ∈ draft.seen := by
        simp [isSet.mem_seen, different]
      unfold Draft.readField
      simp only [seen]
      split
      · exact .failed _
      · rw [isSet.value_eq, spared]
        cases other.read member.2 draft.value with
        | error error => exact .failed error
        | ok read =>
            refine .read ⟨rfl, fun name => ?_⟩
            simp only [List.mem_cons, isSet.mem_seen]
            exact or_left_comm
  · exact .read isSet

/-- Members under other names do not make a setting seen. -/
theorem readMembers_not_seen (placed : setting.IsPlaced field fields)
    {members : List (String × Json)} (absent : ∀ member ∈ members, member.1 ∉ setting.names)
    {draft : Draft α} (read : readMembers fields initial members = .ok draft) :
    field.name ∉ draft.seen := by
  have keeps : ∀ member ∈ members, ∀ before after : Draft α, field.name ∉ before.seen →
      readMember fields before member = .ok after → field.name ∉ after.seen := by
    intro member inside before after unseen stepped
    unfold readMember at stepped
    split at stepped
    · next other found =>
        have different := name_ne_of_find? placed (absent member inside) found
        unfold Draft.readField at stepped
        split at stepped
        · contradiction
        · obtain ⟨read, _, same⟩ := Decoded.bind_eq_ok.mp stepped
          injection same with same
          rw [← same, List.mem_cons, not_or]
          exact ⟨different.symm, unseen⟩
    · injection stepped with same
      exact same ▸ unseen
  exact Decoded.foldlM_holds keeps List.not_mem_nil read

theorem readMembers_isSet (placed : setting.IsPlaced field fields) (named : key ∈ setting.names)
    (value : Json) {before after : List (String × Json)}
    (absent : ∀ member ∈ before ++ after, member.1 ∉ setting.names) :
    Decoded.Alike (Draft.IsSet setting field value)
      (readMembers fields initial (before ++ after))
      (readMembers fields initial (before ++ (key, value) :: after)) := by
  unfold readMembers
  rw [List.foldlM_append, List.foldlM_append]
  cases opened : before.foldlM (readMember fields) ⟨initial, []⟩ with
  | error error => exact .failed error
  | ok draft =>
      have unseen : field.name ∉ draft.seen := readMembers_not_seen placed
        (fun member inside => absent member (List.mem_append_left _ inside)) opened
      have step : readMember fields draft (key, value) =
          .ok ⟨setting.put value draft.value, field.name :: draft.seen⟩ := by
        unfold readMember
        rw [placed.found key named]
        simp only [Draft.readField, if_neg unseen, placed.takes]
        rfl
      change Decoded.Alike _ (after.foldlM (readMember fields) draft)
        (((key, value) :: after).foldlM (readMember fields) draft)
      rw [List.foldlM_cons, step]
      refine Decoded.Alike.foldlM ?_ (⟨rfl, fun name => List.mem_cons⟩ :
        draft.IsSet setting field value ⟨setting.put value draft.value, field.name :: draft.seen⟩)
      exact fun member inside _ _ isSet => readMember_isSet placed isSet
        (absent member (List.mem_append_right _ inside))

theorem missing?_isSet (placed : setting.IsPlaced field fields) {draft changed : Draft α}
    (isSet : draft.IsSet setting field value changed) :
    missing? fields changed = missing? fields draft := by
  unfold missing?
  congr 1
  apply List.find?_congr
  intro other inside
  by_cases same : other.name = field.name
  · rw [placed.alone other inside same, placed.isOptional, Bool.false_and, Bool.false_and]
  · have seen : changed.seen.contains other.name = draft.seen.contains other.name := by
      rw [Bool.eq_iff_iff, List.contains_iff_mem, List.contains_iff_mem]
      simp [isSet.mem_seen, same]
    rw [seen]

/-- Members that no field is named by are passed over. -/
theorem readMembers_of_unnamed
    (unnamed : fields.find? (fun field => field.isNamed key) = none) (value : Json)
    (before after : List (String × Json)) :
    readMembers fields initial (before ++ (key, value) :: after) =
      readMembers fields initial (before ++ after) := by
  have step : ∀ draft, readMember fields draft (key, value) = .ok draft := by
    intro draft
    unfold readMember
    rw [unnamed]
  unfold readMembers
  rw [List.foldlM_append, List.foldlM_append]
  congr 1
  funext draft
  rw [List.foldlM_cons, step]
  rfl

section Dict

variable {data : Dict Json}

/-- The members of an object before and after the place of a new name. -/
theorem members_split {setting : Setting α} (named : key ∈ setting.names)
    (absent : ∀ name ∈ setting.names, data.find? name = none) (value : Json) :
    ∃ before after, Json.ofDict data = .object (before ++ after) ∧
      Json.ofDict (data.insert key value) = .object (before ++ (key, value) :: after) ∧
      ∀ member ∈ before ++ after, member.1 ∉ setting.names := by
  obtain ⟨before, after, split, inserted⟩ :=
    Dict.insertEntry_of_absent value (absent key named)
  refine ⟨before, after, congrArg Json.object split, congrArg Json.object inserted, ?_⟩
  intro member inside isName
  rw [← split] at inside
  have found : data.find? member.1 = some member.2 := Dict.find?_eq_some_iff.mpr inside
  exact nomatch found.symm.trans (absent member.1 isName)

theorem decode_insert {record : Record α} (placed : setting.IsPlaced field record.fields)
    (named : key ∈ setting.names) (absent : ∀ name ∈ setting.names, data.find? name = none)
    (value : Json) :
    record.decode initial (.ofDict (data.insert key value)) =
      setting.put value <$> record.decode initial (.ofDict data) := by
  obtain ⟨before, after, without, inserted, others⟩ := members_split named absent value
  rw [without, inserted]
  apply Decoded.Alike.eq_map
  refine (readMembers_isSet placed named value others).bind fun draft changed isSet => ?_
  rw [missing?_isSet placed isSet]
  split
  · exact .failed _
  · exact .read isSet.value_eq

theorem decodeWith_insert {record : Record α} {part : List (Field α)}
    (unnamed : ∀ name ∈ setting.names,
      record.fields.find? (fun field => field.isNamed name) = none)
    (placed : setting.IsPlaced field part) (named : key ∈ setting.names)
    (absent : ∀ name ∈ setting.names, data.find? name = none) (value : Json) :
    record.decodeWith part initial (.ofDict (data.insert key value)) =
      setting.put value <$> record.decodeWith part initial (.ofDict data) := by
  obtain ⟨before, after, without, inserted, others⟩ := members_split named absent value
  rw [without, inserted]
  apply Decoded.Alike.eq_map
  unfold decodeWith
  simp only [readMembers_of_unnamed (unnamed key named)]
  cases readMembers record.fields initial (before ++ after) with
  | error error => exact .failed error
  | ok own =>
      refine (readMembers_isSet placed named value others).bind fun draft changed isSet => ?_
      exact .read isSet.value_eq

end Dict

end Record

end AgentGraph
