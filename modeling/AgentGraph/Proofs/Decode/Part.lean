import AgentGraph.Proofs.Decode.Setting
import Mathlib.Data.List.Forall2

/-!
Records that have another one as a part. Reading both from one object is reading each of them by
itself, as neither sees what the other one reads. Keys of an object differ, so that all that can
fail there is a value under the name of a field.
-/

namespace AgentGraph

namespace Decoded

variable {α β ε : Type}

theorem mapM_isOk_iff {decode : α → Except ε β} {items : List α} :
    (∃ values, items.mapM decode = .ok values) ↔
      ∀ item ∈ items, ∃ value, decode item = .ok value := by
  induction items with
  | nil => exact ⟨fun _ => nofun, fun _ => ⟨[], rfl⟩⟩
  | cons item items ih =>
      rw [List.forall_mem_cons, ← ih, List.mapM_cons]
      constructor
      · rintro ⟨values, decoded⟩
        obtain ⟨first, itemDecoded, decoded⟩ := bind_eq_ok.mp decoded
        obtain ⟨others, itemsDecoded, -⟩ := bind_eq_ok.mp decoded
        exact ⟨⟨first, itemDecoded⟩, others, itemsDecoded⟩
      · rintro ⟨⟨first, itemDecoded⟩, others, itemsDecoded⟩
        rw [itemDecoded, itemsDecoded]
        exact ⟨first :: others, rfl⟩

theorem map_isOk_iff {change : α → β} {first : Except ε α} :
    (∃ result, change <$> first = .ok result) ↔ ∃ value, first = .ok value := by
  cases first with
  | error error => exact ⟨nofun, nofun⟩
  | ok value => exact ⟨fun _ => ⟨value, rfl⟩, fun _ => ⟨change value, rfl⟩⟩

end Decoded

namespace Decode

variable {α : Type} {decode : Json → Decoded α} {value : Json}

theorem string_isOk_iff : (∃ read, string value = .ok read) ↔ ∃ text, value = .string text := by
  cases value with
  | string text => exact ⟨fun _ => ⟨text, rfl⟩, fun _ => ⟨text, rfl⟩⟩
  | null | bool | number | array | object => exact ⟨nofun, nofun⟩

theorem optional_isOk_iff :
    (∃ read, optional decode value = .ok read) ↔
      value = .null ∨ ∃ read, decode value = .ok read := by
  cases value with
  | null => exact ⟨fun _ => .inl rfl, fun _ => ⟨none, rfl⟩⟩
  | bool | number | string | array | object =>
      simp only [reduceCtorEq, false_or]
      exact Decoded.map_isOk_iff

theorem text_isOk_iff :
    (∃ read, text value = .ok read) ↔ value = .null ∨ ∃ text, value = .string text := by
  cases value with
  | null => exact ⟨fun _ => .inl rfl, fun _ => ⟨"", rfl⟩⟩
  | bool | number | string | array | object =>
      rw [or_iff_right (by simp), ← string_isOk_iff]
      rfl

theorem list_isOk_iff :
    (∃ read, list decode value = .ok read) ↔
      ∃ items, value = .array items ∧ ∀ item ∈ items, ∃ read, decode item = .ok read := by
  cases value with
  | array items =>
      rw [list, Decoded.mapM_isOk_iff]
      constructor
      · exact fun decoded => ⟨items, rfl, decoded⟩
      · rintro ⟨_, ⟨⟩, decoded⟩
        exact decoded
  | null | bool | number | string | object => exact ⟨nofun, nofun⟩

theorem dict_isOk_iff :
    (∃ read, dict decode value = .ok read) ↔
      ∃ members, value = .object members ∧
        ∀ member ∈ members, ∃ read, decode member.2 = .ok read := by
  cases value with
  | object members =>
      have entry (member : String × Json) :
          (∃ entry, (do return (member.1, ← decode member.2) : Decoded (String × α)) = .ok entry) ↔
            ∃ read, decode member.2 = .ok read :=
        Decoded.map_isOk_iff
      have listed : (∃ read, dict decode (.object members) = .ok read) ↔
          ∃ entries, (members.mapM fun member => do return (member.1, ← decode member.2)) =
            (.ok entries : Decoded (List (String × α))) :=
        Decoded.map_isOk_iff
      rw [listed, Decoded.mapM_isOk_iff]
      simp only [entry]
      constructor
      · exact fun decoded => ⟨members, rfl, decoded⟩
      · rintro ⟨_, ⟨⟩, decoded⟩
        exact decoded
  | null | bool | number | string | array => exact ⟨nofun, nofun⟩

end Decode

/-- Whether a field is the one of a key, and reads just what fits there. -/
structure Field.IsOf {α : Type} (field : Field α) (key : String × (Json → Prop)) : Prop where
  name : field.name = key.1
  alone : field.otherName = none
  reads : ∀ value record, (∃ after, field.read value record = .ok after) ↔ key.2 value

theorem Field.isOf_optional {α β : Type} {name : String} {decode : Json → Decoded β}
    {put : β → α → α} {fits : Json → Prop}
    (decodes : ∀ value, (∃ read, decode value = .ok read) ↔ fits value) :
    (optional name decode put).IsOf (name, fits) where
  name := rfl
  alone := rfl
  reads value _ := Decoded.map_isOk_iff.trans (decodes value)

theorem Field.IsOf.isNamed_iff {α : Type} {field : Field α} {key : String × (Json → Prop)}
    (isOf : field.IsOf key) (asked : String) : field.isNamed asked = true ↔ key.1 = asked := by
  simp only [Field.isNamed, isOf.alone, isOf.name, Bool.or_eq_true, beq_iff_eq, reduceCtorEq,
    or_false]

/-- Whether `get` reads a part of a whole, and `put` writes it. -/
structure IsPart {α β : Type} (get : β → α) (put : α → β → β) : Prop where
  get_put : ∀ part whole, get (put part whole) = part
  put_put : ∀ part other whole, put part (put other whole) = put part whole
  put_get : ∀ whole, put (get whole) whole = whole

namespace Record

variable {α β : Type}

section Keys

variable {fields : List (Field α)} {keys : List (String × (Json → Prop))} {initial : α}

theorem find?_isOf (areOf : List.Forall₂ Field.IsOf fields keys)
    (distinct : (keys.map Prod.fst).Nodup) (asked : String) :
    (fields.find? (fun field => field.isNamed asked) = none ∧ ∀ key ∈ keys, key.1 ≠ asked) ∨
      ∃ field key, fields.find? (fun field => field.isNamed asked) = some field ∧
        field.IsOf key ∧ key ∈ keys ∧ key.1 = asked ∧
        ∀ other ∈ keys, other.1 = asked → other = key := by
  induction areOf with
  | nil => exact .inl ⟨rfl, nofun⟩
  | @cons field key fields keys isOf _ ih =>
      obtain ⟨fresh, distinct⟩ := List.nodup_cons.mp distinct
      by_cases named : field.isNamed asked = true
      · have here := (isOf.isNamed_iff asked).mp named
        refine .inr ⟨field, key, List.find?_cons_of_pos named, isOf, List.mem_cons_self, here, ?_⟩
        intro other inside same
        rcases List.mem_cons.mp inside with rfl | later
        · rfl
        · refine absurd ?_ fresh
          rw [here, ← same]
          exact List.mem_map_of_mem later
      · have different := mt (isOf.isNamed_iff asked).mpr named
        have skipped : (field :: fields).find? (fun field => field.isNamed asked) =
            fields.find? fun field => field.isNamed asked := List.find?_cons_of_neg named
        rw [skipped]
        rcases ih distinct with ⟨none_found, others⟩ | ⟨other, held, found, isOf, inside, same, only⟩
        · exact .inl ⟨none_found, List.forall_mem_cons.mpr ⟨different, others⟩⟩
        · refine .inr ⟨other, held, found, isOf, List.mem_cons_of_mem _ inside, same, ?_⟩
          exact List.forall_mem_cons.mpr ⟨fun here => absurd here different, only⟩

theorem readMember_isOk_iff (areOf : List.Forall₂ Field.IsOf fields keys)
    (distinct : (keys.map Prod.fst).Nodup) {draft : Draft α} {member : String × Json}
    (unseen : member.1 ∉ draft.seen) :
    (∃ after, readMember fields draft member = .ok after) ↔
      ∀ key ∈ keys, key.1 = member.1 → key.2 member.2 := by
  unfold readMember
  rcases find?_isOf areOf distinct member.1 with
    ⟨found, others⟩ | ⟨field, key, found, isOf, inside, same, only⟩
  · rw [found]
    exact ⟨fun _ key inside same => absurd same (others key inside), fun _ => ⟨draft, rfl⟩⟩
  · have open_ : field.name ∉ draft.seen := by rwa [isOf.name, same]
    have read : (∃ after, draft.readField field member.2 = .ok after) ↔ key.2 member.2 := by
      rw [Draft.readField, if_neg open_, ← isOf.reads member.2 draft.value]
      exact Decoded.map_isOk_iff
    rw [found]
    refine read.trans ⟨fun fits other held here => only other held here ▸ fits, ?_⟩
    exact fun fits => fits key inside same

theorem seen_of_readMember (areOf : List.Forall₂ Field.IsOf fields keys)
    (distinct : (keys.map Prod.fst).Nodup) {draft after : Draft α} {member : String × Json}
    (read : readMember fields draft member = .ok after) :
    ∀ name ∈ after.seen, name = member.1 ∨ name ∈ draft.seen := by
  unfold readMember at read
  rcases find?_isOf areOf distinct member.1 with
    ⟨found, -⟩ | ⟨field, key, found, isOf, -, same, -⟩
  · rw [found] at read
    injection read with same
    exact same ▸ fun name inside => .inr inside
  · rw [found] at read
    dsimp only at read
    unfold Draft.readField at read
    split at read
    · contradiction
    · obtain ⟨value, -, read⟩ := Decoded.bind_eq_ok.mp read
      injection read with stored
      intro name inside
      rw [← stored, List.mem_cons, isOf.name, same] at inside
      exact inside

theorem foldlM_isOk_iff (areOf : List.Forall₂ Field.IsOf fields keys)
    (distinct : (keys.map Prod.fst).Nodup) {members : List (String × Json)}
    (apart : members.Pairwise fun first second => first.1 ≠ second.1) {draft : Draft α}
    (unseen : ∀ member ∈ members, member.1 ∉ draft.seen) :
    (∃ after, members.foldlM (readMember fields) draft = .ok after) ↔
      ∀ member ∈ members, ∀ key ∈ keys, key.1 = member.1 → key.2 member.2 := by
  induction members generalizing draft with
  | nil => exact ⟨fun _ => nofun, fun _ => ⟨draft, rfl⟩⟩
  | cons member members ih =>
      obtain ⟨others, apart⟩ := List.pairwise_cons.mp apart
      have next {middle : Draft α} (read : readMember fields draft member = .ok middle) :
          ∀ later ∈ members, later.1 ∉ middle.seen := by
        intro later inside held
        rcases seen_of_readMember areOf distinct read later.1 held with same | earlier
        · exact others later inside same.symm
        · exact unseen later (List.mem_cons_of_mem _ inside) earlier
      rw [List.foldlM_cons, List.forall_mem_cons,
        ← readMember_isOk_iff areOf distinct (unseen member List.mem_cons_self)]
      constructor
      · rintro ⟨after, read⟩
        obtain ⟨middle, first, rest⟩ := Decoded.bind_eq_ok.mp read
        exact ⟨⟨middle, first⟩, (ih apart (next first)).mp ⟨after, rest⟩⟩
      · rintro ⟨⟨middle, first⟩, rest⟩
        rw [first]
        exact (ih apart (next first)).mpr rest

/-- The members of an object are read if and only if each key is absent or holds what fits. -/
theorem readMembers_isOk_iff (areOf : List.Forall₂ Field.IsOf fields keys)
    (distinct : (keys.map Prod.fst).Nodup) (data : Dict Json) :
    (∃ draft, readMembers fields initial data.entries = .ok draft) ↔
      ∀ key ∈ keys, ∀ value ∈ data.find? key.1, key.2 value := by
  have apart : data.entries.Pairwise fun first second => first.1 ≠ second.1 :=
    data.sorted.imp fun before => String.ne_of_lt before
  have folded := @foldlM_isOk_iff _ _ _ areOf distinct _ apart ⟨initial, []⟩
    fun _ _ => List.not_mem_nil
  refine folded.trans ⟨fun fits key inside value found => ?_, fun fits member inside key held => ?_⟩
  · exact fits (key.1, value) (Dict.find?_eq_some_iff.mp found) key inside rfl
  · rintro same
    exact fits key held member.2 (same ▸ Dict.find?_eq_some_iff.mpr inside)

end Keys

section Part

variable {get : β → α} {put : α → β → β} {members : List (String × Json)} {initial : β}

/-- The draft of a whole in which the part is that of another draft. -/
def Draft.within (draft : Draft α) (put : α → β → β) (whole : β) : Draft β :=
  ⟨put draft.value whole, draft.seen⟩

theorem readMember_within (isPart : IsPart get put) (fields : List (Field α)) (whole : β)
    (draft : Draft α) (member : String × Json) :
    readMember (fields.map fun field => field.within get put) (draft.within put whole) member =
      (fun after => Draft.within after put whole) <$> readMember fields draft member := by
  have found : (fields.map fun field => field.within get put).find?
      (fun field => field.isNamed member.1) =
        (fields.find? fun field => field.isNamed member.1).map fun field =>
          field.within get put :=
    List.find?_map
  unfold readMember
  rw [found]
  cases fields.find? fun field => field.isNamed member.1 with
  | none => rfl
  | some field =>
      simp only [Option.map_some, Draft.readField, Draft.within, Field.within, isPart.get_put]
      split
      · rfl
      · cases field.read member.2 draft.value with
        | error error => rfl
        | ok part => simp [isPart.put_put]

theorem readMembers_within (isPart : IsPart get put) (fields : List (Field α)) (whole : β) :
    readMembers (fields.map fun field => field.within get put) whole members =
      (fun draft => Draft.within draft put whole) <$> readMembers fields (get whole) members := by
  have start : (⟨whole, []⟩ : Draft β) = Draft.within ⟨get whole, []⟩ put whole := by
    rw [Draft.within, isPart.put_get]
  apply Decoded.Alike.eq_map
  unfold readMembers
  refine Decoded.Alike.foldlM ?_ start
  rintro member - draft held rfl
  rw [readMember_within isPart]
  cases readMember fields draft member with
  | error error => exact .failed error
  | ok after => exact .read rfl

theorem decode_of_optional {record : Record α}
    (isOptional : ∀ field ∈ record.fields, field.isRequired = false) (initial : α) :
    record.decode initial (.object members) =
      Draft.value <$> readMembers record.fields initial members := by
  have complete (draft : Draft α) : missing? record.fields draft = none := by
    rw [missing?, Option.map_eq_none_iff, List.find?_eq_none]
    intro field inside
    rw [isOptional field inside, Bool.false_and]
    exact Bool.false_ne_true
  rw [decode, ofMembers]
  simp only [complete]
  rfl

/-- A record with a part is read from an object if and only if its own fields and the part are,
and the part is then what the object gives by itself. -/
theorem decodeWith_eq_ok_iff (isPart : IsPart get put) {record : Record β} {part : Record α}
    (spares : ∀ field ∈ record.fields,
      field.Keeps (fun _ => True) fun whole => get whole = get initial)
    (isOptional : ∀ field ∈ part.fields, field.isRequired = false) {whole : β} :
    record.decodeWith (part.fields.map fun field => field.within get put) initial
        (.object members) = .ok whole ↔
      ∃ draft settings, readMembers record.fields initial members = .ok draft ∧
        part.decode (get initial) (.object members) = .ok settings ∧
        put settings draft.value = whole := by
  have shared {draft : Draft β} (own : readMembers record.fields initial members = .ok draft) :
      readMembers (part.fields.map fun field => field.within get put) draft.value members =
        (fun held => Draft.within held put draft.value) <$>
          readMembers part.fields (get initial) members := by
    have spared : get draft.value = get initial :=
      readMembers_holds spares rfl (fun _ _ => trivial) own
    rw [readMembers_within isPart, spared]
  rw [decode_of_optional isOptional]
  constructor
  · intro read
    obtain ⟨draft, own, read⟩ := Decoded.bind_eq_ok.mp read
    obtain ⟨held, parts, read⟩ := Decoded.bind_eq_ok.mp read
    injection read with same
    obtain ⟨found, settings, rfl⟩ := Decoded.map_eq_ok.mp ((shared own).symm.trans parts)
    exact ⟨draft, found.value, own, Decoded.map_eq_ok.mpr ⟨found, settings, rfl⟩, same⟩
  · rintro ⟨draft, settings, own, parts, rfl⟩
    obtain ⟨found, read, rfl⟩ := Decoded.map_eq_ok.mp parts
    have held := (shared own).trans (Decoded.map_eq_ok.mpr ⟨found, read, rfl⟩)
    exact Decoded.bind_eq_ok.mpr ⟨draft, own, Decoded.bind_eq_ok.mpr ⟨_, held, rfl⟩⟩

end Part

end Record

end AgentGraph
