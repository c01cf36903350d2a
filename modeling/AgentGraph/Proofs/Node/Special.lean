import AgentGraph.Node.Decode
import AgentGraph.Node.Encode
import AgentGraph.Proofs.Decode.Part
import AgentGraph.Proofs.Dict.Renamed

/-!
Agents of special types: reasoning agents and prompted ones. Their data is that of a plain agent
and a few keys of their own, read and written as if the one had nothing to do with the other.
-/

namespace AgentGraph

open Decode

namespace Json

def IsText (value : Json) : Prop := value = .null ∨ ∃ text, value = .string text

def AreTexts (value : Json) : Prop :=
  ∃ items, value = .array items ∧ ∀ item ∈ items, ∃ text, item = .string text

/-- Whether a value is a map of beliefs to their values, or none. -/
def AreBeliefs (value : Json) : Prop :=
  value = .null ∨ ∃ members, value = .object members ∧ ∀ member ∈ members, member.2.IsText

end Json

theorem Decode.list_string_isOk_iff (value : Json) :
    (∃ read, list string value = .ok read) ↔ value.AreTexts := by
  rw [list_isOk_iff]
  simp only [string_isOk_iff]
  rfl

theorem Decode.beliefs_isOk_iff (value : Json) :
    (∃ read, optional (dict (optional string)) value = .ok read) ↔ value.AreBeliefs := by
  rw [optional_isOk_iff, dict_isOk_iff]
  simp only [optional_isOk_iff, string_isOk_iff]
  rfl

/-- Entries under new keys that differ are added to a map as they are. -/
theorem Dict.entries_ofList_append {α : Type} {first second : List (String × α)}
    (fresh : ∀ entry ∈ second, entry.1 ∉ first.map Prod.fst)
    (distinct : (second.map Prod.fst).Nodup) :
    (ofList (first ++ second)).entries.Perm ((ofList first).entries ++ second) := by
  induction second using List.reverseRecOn with
  | nil => rw [List.append_nil, List.append_nil]
  | append_singleton second last ih =>
      rw [List.map_append, List.nodup_append] at distinct
      obtain ⟨distinct, -, others⟩ := distinct
      have before := ih (fun entry inside => fresh entry (List.mem_append_left _ inside)) distinct
      have new : ∀ entry ∈ (ofList (first ++ second)).entries, (entry.1 != last.1) = true := by
        intro entry inside
        rw [bne_iff_ne]
        intro same
        rcases List.mem_append.mp (mem_entries_ofList inside) with old | added
        · exact fresh last (by simp) (same ▸ List.mem_map_of_mem old)
        · exact others entry.1 (List.mem_map_of_mem added) last.1 (by simp) same
      rw [← List.append_assoc, ofList, List.foldl_append]
      calc List.Perm (insertEntry last.1 last.2 (ofList (first ++ second)).entries)
            (last :: (ofList (first ++ second)).entries.filter fun entry => entry.1 != last.1) :=
            insertEntry_perm last.1 last.2 (ofList (first ++ second)).sorted
        _ = last :: (ofList (first ++ second)).entries := by rw [List.filter_eq_self.mpr new]
        List.Perm _ (last :: ((ofList first).entries ++ second)) := before.cons last
        List.Perm _ ((ofList first).entries ++ (second ++ [last])) := by
          rw [← List.append_assoc]
          exact (List.perm_append_singleton last _).symm

namespace AgentSettings

/-- The settings as JSON has them; a port that was left out has no entry. -/
def entries (settings : AgentSettings) : List (String × Json) :=
  [("class", .string settings.className), ("name", .string settings.instanceName),
    ("host", .string settings.host)] ++
  (settings.port.map fun port => ("port", Json.number (.integer port.toNat))).toList ++
  [("password", .string settings.password), ("verify_security", .bool settings.verifySecurity),
    ("metadata", .object settings.knowledge.entries), ("setupCode", .string settings.setupCode)]

theorem members_eq_entries (settings : AgentSettings) : settings.members = settings.entries := by
  unfold members entries
  cases settings.port <;> rfl

theorem keys_sublist (settings : AgentSettings) :
    (settings.entries.map Prod.fst).Sublist (fields.map Field.name) := by
  unfold entries
  cases settings.port with
  | none | some port => exact List.isSublist_iff_sublist.mp rfl

end AgentSettings

namespace ReasoningAgent

/-- What only a reasoning agent has. The map of beliefs is left out where there is none, and the
list where it is empty. -/
def ownEntries (special : ReasoningAgent) : List (String × Json) :=
  (special.beliefMap.map fun beliefs => ("beliefsObj", Json.object (beliefs.entries.map
    fun (belief, value) => (belief, match value with
      | none => .null
      | some text => .string text)))).toList ++
  (if special.beliefTexts = [] then []
    else [("beliefs", .array (special.beliefTexts.map .string))]) ++
  [("bdiProgram", .string special.program),
    ("bdiFunctions", .array (special.functions.map .string))]

theorem members_eq_ownEntries (special : ReasoningAgent) :
    special.members = special.ownEntries := by
  have value (held : Option String) : Json.ofOption (held.map .string) =
      match held with
      | none => .null
      | some text => .string text := by
    cases held <;> rfl
  have texts : (if special.beliefTexts.isEmpty then []
      else [("beliefs", Json.strings special.beliefTexts)]) =
      if special.beliefTexts = [] then []
      else [("beliefs", Json.array (special.beliefTexts.map .string))] := by
    simp only [List.isEmpty_iff, Json.strings]
  unfold members ownEntries
  rw [texts]
  cases special.beliefMap with
  | none => rfl
  | some beliefs =>
      simp only [present, Json.ofDict, Dict.map, value]
      rfl

theorem keys_sublist (special : ReasoningAgent) :
    (special.ownEntries.map Prod.fst).Sublist
      ["beliefsObj", "beliefs", "bdiProgram", "bdiFunctions"] := by
  unfold ownEntries
  cases special.beliefMap with
  | none | some beliefs =>
      cases special.beliefTexts with
      | nil | cons text texts => simp

end ReasoningAgent

namespace Payload

def ownEntries : Payload → List (String × Json)
  | .reasoning special => special.ownEntries
  | .prompted special => [("llmPrompt", .string special.prompt)]
  | _ => []

/-- Data of the type is decoded if and only if a plain agent is decoded from it and each of the
keys is absent or holds what fits. The settings are then those of the plain agent. -/
def DecodesBeside (type : String) (keys : List (String × (Json → Prop))) : Prop :=
  ∃ decode, decoder? type = some decode ∧ ∀ data : Dict Json,
    ((∃ payload, decode (.ofDict data) = .ok payload) ↔
      (∃ settings, AgentSettings.record.decode {} (.ofDict data) = .ok settings) ∧
        ∀ key ∈ keys, ∀ value ∈ data.find? key.1, key.2 value) ∧
    ∀ payload, decode (.ofDict data) = .ok payload → ∃ settings,
      payload.agent? = some settings ∧
        AgentSettings.record.decode {} (.ofDict data) = .ok settings

/-- What is encoded is a plain agent with the settings, and the own entries under other keys. -/
def EncodesBeside (payload : Payload) (settings : AgentSettings) : Prop :=
  ∃ whole plain : List (String × Json), payload.toJson = .object whole ∧
    (Payload.agent settings).toJson = .object plain ∧ plain.Perm settings.entries ∧
    whole.Perm (plain ++ payload.ownEntries) ∧
    (∀ entry ∈ payload.ownEntries, entry.1 ∉ plain.map Prod.fst) ∧
    (whole.map Prod.fst).Nodup

/-- Whether a type of agent adds keys of its own to those of a plain agent. -/
structure Extends (type : String) (keys : List (String × (Json → Prop))) : Prop where
  decoded : DecodesBeside type keys
  encoded : ∀ payload : Payload, payload.typeName = type → ∃ settings,
    payload.agent? = some settings ∧
    (payload.ownEntries.map Prod.fst).Sublist (keys.map Prod.fst) ∧
    payload.EncodesBeside settings

theorem decodesBeside {α : Type} {record : Record α} {get : α → AgentSettings}
    {put : AgentSettings → α → α} {initial : α} {type : String} (wrap : α → Payload)
    (known : decoder? type = some fun data => wrap <$>
      record.decodeWith (AgentSettings.fields.map fun field => field.within get put) initial data)
    (isAgent : ∀ special, (wrap special).agent? = some (get special)) (isPart : IsPart get put)
    (spares : ∀ field ∈ record.fields,
      field.Keeps (fun _ => True) fun special => get special = get initial)
    {keys : List (String × (Json → Prop))} (areOf : List.Forall₂ Field.IsOf record.fields keys)
    (distinct : (keys.map Prod.fst).Nodup) (plain : get initial = {}) :
    DecodesBeside type keys := by
  have isOptional : ∀ field ∈ AgentSettings.record.fields, field.isRequired = false := by decide
  refine ⟨_, known, fun data => ?_⟩
  have parted {special : α} :=
    @Record.decodeWith_eq_ok_iff _ _ _ _ data.entries initial isPart record AgentSettings.record
      spares isOptional special
  rw [plain] at parted
  rw [← @Record.readMembers_isOk_iff _ _ _ initial areOf distinct data]
  constructor
  · rw [Decoded.map_isOk_iff]
    constructor
    · rintro ⟨special, read⟩
      obtain ⟨draft, settings, own, shared, -⟩ := parted.mp read
      exact ⟨⟨settings, shared⟩, draft, own⟩
    · rintro ⟨⟨settings, shared⟩, draft, own⟩
      exact ⟨_, parted.mpr ⟨draft, settings, own, shared, rfl⟩⟩
  · intro payload read
    obtain ⟨special, decoded, rfl⟩ := Decoded.map_eq_ok.mp read
    obtain ⟨draft, settings, own, shared, rfl⟩ := parted.mp decoded
    exact ⟨settings, by rw [isAgent, isPart.get_put], shared⟩

theorem encodesBeside {payload : Payload} {settings : AgentSettings} {keys : List String}
    (members : payload.members = settings.entries ++ payload.ownEntries)
    (sublist : (payload.ownEntries.map Prod.fst).Sublist keys) (distinct : keys.Nodup)
    (apart : ∀ key ∈ keys, key ∉ AgentSettings.fields.map Field.name) :
    payload.EncodesBeside settings := by
  have fresh : ∀ entry ∈ payload.ownEntries, entry.1 ∉ settings.entries.map Prod.fst := by
    intro entry inside shared
    exact apart entry.1 (sublist.subset (List.mem_map_of_mem inside))
      (settings.keys_sublist.subset shared)
  have plain : (Dict.ofList settings.entries).entries.Perm settings.entries :=
    @Dict.entries_ofList_append _ [] settings.entries (fun _ _ => List.not_mem_nil)
      ((by decide : (AgentSettings.fields.map Field.name).Nodup).sublist settings.keys_sublist)
  refine ⟨_, _, rfl, rfl, ?_, ?_, ?_, Dict.nodup_keys _⟩
  · rw [Payload.members, AgentSettings.members_eq_entries]
    exact plain
  · rw [members, Payload.members, AgentSettings.members_eq_entries]
    exact Dict.entries_ofList_append fresh (distinct.sublist sublist)
  · intro entry inside
    rw [Payload.members, AgentSettings.members_eq_entries, (plain.map Prod.fst).mem_iff]
    exact fresh entry inside

theorem extends_reasoning :
    Extends "agentBDI" [("beliefsObj", Json.AreBeliefs), ("beliefs", Json.AreTexts),
      ("bdiProgram", Json.IsText), ("bdiFunctions", Json.AreTexts)] where
  decoded := by
    have isPart : IsPart ReasoningAgent.agent
        fun settings special => { special with agent := settings } :=
      ⟨fun _ _ => rfl, fun _ _ _ => rfl, fun _ => rfl⟩
    have spares : ∀ field ∈ ReasoningAgent.record.fields, field.Keeps (fun _ => True)
        fun special => special.agent = ({} : ReasoningAgent).agent := by
      simp only [ReasoningAgent.record, List.forall_mem_cons, List.not_mem_nil, false_imp_iff,
        implies_true, and_true]
      refine ⟨?_, ?_, ?_, ?_⟩
      all_goals exact Field.keeps_optional fun _ _ _ _ _ held => held
    have areOf : List.Forall₂ Field.IsOf ReasoningAgent.record.fields _ :=
      .cons (Field.isOf_optional beliefs_isOk_iff) <|
      .cons (Field.isOf_optional list_string_isOk_iff) <|
      .cons (Field.isOf_optional fun _ => text_isOk_iff) <|
      .cons (Field.isOf_optional list_string_isOk_iff) .nil
    exact decodesBeside .reasoning rfl (fun _ => rfl) isPart spares areOf (by decide) rfl
  encoded payload type := by
    cases payload with
    | reasoning special =>
        have members : (Payload.reasoning special).members =
            special.agent.entries ++ special.ownEntries := by
          rw [Payload.members, AgentSettings.members_eq_entries,
            ReasoningAgent.members_eq_ownEntries]
        exact ⟨special.agent, rfl, special.keys_sublist,
          encodesBeside members special.keys_sublist (by decide) (by decide)⟩
    | agent | prompted | behaviour | template | message | note => simp [typeName] at type

theorem extends_prompted : Extends "agentLLM" [("llmPrompt", Json.IsText)] where
  decoded := by
    have isPart : IsPart PromptedAgent.agent
        fun settings special => { special with agent := settings } :=
      ⟨fun _ _ => rfl, fun _ _ _ => rfl, fun _ => rfl⟩
    have spares : ∀ field ∈ PromptedAgent.record.fields, field.Keeps (fun _ => True)
        fun special => special.agent = ({} : PromptedAgent).agent := by
      intro field inside
      rw [List.mem_singleton.mp inside]
      exact Field.keeps_optional fun _ _ _ _ _ held => held
    have areOf : List.Forall₂ Field.IsOf PromptedAgent.record.fields _ :=
      .cons (Field.isOf_optional fun _ => text_isOk_iff) .nil
    exact decodesBeside .prompted rfl (fun _ => rfl) isPart spares areOf (by decide) rfl
  encoded payload type := by
    cases payload with
    | prompted special =>
        have members : (Payload.prompted special).members =
            special.agent.entries ++ [("llmPrompt", .string special.prompt)] := by
          rw [Payload.members, AgentSettings.members_eq_entries, PromptedAgent.members]
        have sublist : ((Payload.prompted special).ownEntries.map Prod.fst).Sublist
            ["llmPrompt"] := .refl _
        exact ⟨special.agent, rfl, sublist, encodesBeside members sublist (by decide) (by decide)⟩
    | agent | reasoning | behaviour | template | message | note => simp [typeName] at type

/-- The two special types of agents share the settings of a plain one, in what is decoded and in
what is encoded. -/
theorem extends_special :
    Extends "agentBDI" [("beliefsObj", Json.AreBeliefs), ("beliefs", Json.AreTexts),
      ("bdiProgram", Json.IsText), ("bdiFunctions", Json.AreTexts)] ∧
    Extends "agentLLM" [("llmPrompt", Json.IsText)] :=
  ⟨extends_reasoning, extends_prompted⟩

def thinker : ReasoningAgent where
  agent := { className := "Thinker", port := some 5222 }
  beliefMap := some (.ofList [("hungry", none), ("hour", some "7")])
  program := "!start."

/-- The beliefs are in the order of their names; a truth value is read from a text, a
program from no truth value. -/
theorem extends_special_thinker :
    (∃ whole plain : List (String × Json),
      (Payload.reasoning thinker).toJson = .object whole ∧
      (Payload.agent thinker.agent).toJson = .object plain ∧
      whole.Perm (plain ++
        [("beliefsObj", .object [("hour", .string "7"), ("hungry", .null)]),
          ("bdiProgram", .string "!start."), ("bdiFunctions", .array [])])) ∧
    (∃ whole plain : List (String × Json),
      (Payload.prompted { prompt := "Be brief." }).toJson = .object whole ∧
      (Payload.agent {}).toJson = .object plain ∧
      whole.Perm (plain ++ [("llmPrompt", .string "Be brief.")])) ∧
    ∃ decode payload, decoder? "agentBDI" = some decode ∧
      decode (.ofDict (.ofList [("verify_security", .string " True")])) = .ok payload ∧
      payload.agent? = some { verifySecurity := true } ∧
      ¬ ∃ other, decode (.ofDict (.ofList [("bdiProgram", .bool true)])) = .ok other := by
  obtain ⟨⟨⟨decode, known, reads⟩, encoded⟩, -, encodedPrompt⟩ := extends_special
  obtain ⟨_, same, -, whole, plain, isWhole, isPlain, -, perm, -⟩ :=
    encoded (.reasoning thinker) rfl
  obtain rfl := Option.some.inj same
  obtain ⟨_, same, -, prompted, bare, isPrompted, isBare, -, promptedPerm, -⟩ :=
    encodedPrompt (.prompted { prompt := "Be brief." }) rfl
  obtain rfl := Option.some.inj same
  have shared : AgentSettings.record.decode {}
      (.ofDict (.ofList [("verify_security", .string " True")])) =
        .ok { verifySecurity := true } := by
    decide +kernel
  have fits : ∀ key ∈ [("beliefsObj", Json.AreBeliefs), ("beliefs", Json.AreTexts),
      ("bdiProgram", Json.IsText), ("bdiFunctions", Json.AreTexts)],
      ∀ value ∈ (Dict.ofList [("verify_security", Json.string " True")]).find? key.1, key.2 value := by
    have absent : ∀ name ∈ ["beliefsObj", "beliefs", "bdiProgram", "bdiFunctions"],
        (Dict.ofList [("verify_security", Json.string " True")]).find? name = none := by
      decide +kernel
    intro key inside value found
    rw [absent key.1 (List.mem_map_of_mem inside)] at found
    contradiction
  obtain ⟨payload, read⟩ := (reads _).1.mpr ⟨⟨_, shared⟩, fits⟩
  refine ⟨⟨whole, plain, isWhole, isPlain, perm⟩,
    ⟨prompted, bare, isPrompted, isBare, promptedPerm⟩, decode, payload, known, read, ?_, ?_⟩
  · obtain ⟨settings, isAgent, alone⟩ := (reads _).2 payload read
    rw [shared] at alone
    injection alone with same
    rw [isAgent, same]
  · intro ⟨other, otherRead⟩
    have held := ((reads _).1.mp ⟨other, otherRead⟩).2 ("bdiProgram", Json.IsText) (by simp)
      (.bool true) rfl
    rcases held with held | ⟨_, held⟩ <;> contradiction

end Payload

end AgentGraph
