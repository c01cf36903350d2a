import AgentGraph.Proofs.Decode.Encoded
import AgentGraph.Proofs.Node.Sound

/-!
Nodes that were written are read back, but for a behaviour's numbers that are not
finite: they are written as null, and are absent afterwards.
-/

namespace AgentGraph

open Json Decode

def Behaviour.finite (behaviour : Behaviour) : Behaviour :=
  { behaviour with
    period := behaviour.period.filter Binary64.isFinite
    startOffset := behaviour.startOffset.filter Binary64.isFinite }

def Payload.finite : Payload → Payload
  | .behaviour settings => .behaviour settings.finite
  | other => other

def Node.finite (node : Node) : Node := { node with payload := node.payload.finite }

variable {depth : Nat}

namespace Dict

theorem AreRead.regular {dict : Dict Json} (areRead : dict.AreRead depth) :
    Regular Number.IsWord (depth + 1) (ofDict dict) :=
  .object dict.sorted areRead

theorem AreRead.sorted_ofDict {dict : Dict Json} (areRead : dict.AreRead depth) :
    (ofDict dict).sorted = ofDict dict :=
  areRead.regular.sorted_eq

end Dict

namespace Payload

/-- The data of a payload as it is read back, its members in the order of their keys. -/
theorem sorted_toJson (payload : Payload) :
    payload.toJson.sorted =
      .object ((Dict.ofList payload.members).entries.map fun member =>
        (member.1, member.2.sorted)) :=
  Json.sorted_ofDict (Dict.ofList payload.members)

end Payload

/-- The members of an agent's data in the order of their keys. -/
theorem AgentSettings.entries_members (settings : AgentSettings) :
    (Dict.ofList settings.members).entries =
      [("class", .string settings.className), ("host", .string settings.host),
        ("metadata", .ofDict settings.knowledge), ("name", .string settings.instanceName),
        ("password", .string settings.password)] ++
      present "port" (fun port => .nat port.toNat) settings.port ++
      [("setupCode", .string settings.setupCode),
        ("verify_security", .bool settings.verifySecurity)] := by
  cases port : settings.port with
  | none | some value =>
      simp only [AgentSettings.members, port, present, Dict.entries_ofList,
        List.cons_append, List.nil_append, List.foldl_cons, List.foldl_nil, Dict.insertEntry,
        String.reduceLT, String.reduceEq, reduceIte]

theorem AgentSettings.decode_toJson {settings : AgentSettings}
    (sound : settings.IsSound depth) :
    AgentSettings.record.decode {} (Payload.agent settings).toJson.sorted = .ok settings := by
  rw [Payload.sorted_toJson, Payload.members, AgentSettings.entries_members]
  obtain ⟨className, instanceName, host, port, password, verifySecurity, knowledge,
    setupCode⟩ := settings
  have knowledgeSorted := sound.knowledge.sorted_ofDict
  cases port with
  | none =>
      simp [knowledgeSorted, present, Record.decode, Record.ofMembers, Record.readMembers,
        Record.readMember, AgentSettings.record, AgentSettings.fields, Field.optional,
        Field.lenient, Field.isNamed, Record.Draft.readField, Record.missing?, dict_ofDict]
  | some port =>
      have portRead := port?_nat (sound.port port rfl)
      simp [knowledgeSorted, present, Record.decode, Record.ofMembers, Record.readMembers,
        Record.readMember, AgentSettings.record, AgentSettings.fields, Field.optional,
        Field.lenient, Field.isNamed, Record.Draft.readField, Record.missing?, dict_ofDict,
        portRead]

theorem ReasoningAgent.entries_members (special : ReasoningAgent) :
    (Dict.ofList (special.agent.members ++ special.members)).entries =
      [("bdiFunctions", .strings special.functions), ("bdiProgram", .string special.program)] ++
      (if special.beliefTexts.isEmpty then []
        else [("beliefs", .strings special.beliefTexts)]) ++
      present "beliefsObj"
        (fun dict => .ofDict (dict.map fun _ value => .ofOption (value.map .string)))
        special.beliefMap ++
      (Dict.ofList special.agent.members).entries := by
  rw [AgentSettings.entries_members]
  cases port : special.agent.port with
  | none | some value =>
      cases map : special.beliefMap with
      | none | some map =>
          cases texts : special.beliefTexts with
          | nil | cons text rest =>
              simp only [ReasoningAgent.members, AgentSettings.members, port, map, texts,
                present, List.isEmpty_nil, List.isEmpty_cons, Bool.false_eq_true,
                Dict.entries_ofList,
                List.cons_append, List.nil_append, List.foldl_cons, List.foldl_nil, Dict.insertEntry,
                String.reduceLT, String.reduceEq, reduceIte]

theorem Json.sorted_beliefs (beliefs : Dict (Option String)) :
    (ofDict (beliefs.map fun _ value => .ofOption (value.map .string))).sorted =
      ofDict (beliefs.map fun _ value => .ofOption (value.map .string)) :=
  sorted_ofDict_map sorted_ofOption_string beliefs

theorem Decode.dict_beliefs (beliefs : Dict (Option String)) :
    optional (dict (optional string))
        (ofDict (beliefs.map fun _ value => .ofOption (value.map .string))) =
      .ok (some beliefs) := by
  have decoded : dict (optional string)
      (ofDict (beliefs.map fun _ value => .ofOption (value.map .string))) = .ok beliefs := by
    apply dict_map
    intro value
    cases value with
    | none => rfl
    | some text => rfl
  exact congrArg (some <$> ·) decoded

theorem ReasoningAgent.decode_toJson {special : ReasoningAgent}
    (sound : special.agent.IsSound depth) :
    ReasoningAgent.record.decodeWith ReasoningAgent.sharedFields {}
        (Payload.reasoning special).toJson.sorted =
      .ok special := by
  rw [Payload.sorted_toJson, Payload.members, ReasoningAgent.entries_members,
    AgentSettings.entries_members]
  obtain ⟨⟨className, instanceName, host, port, password, verifySecurity, knowledge,
    setupCode⟩, beliefMap, beliefTexts, program, functions⟩ := special
  have knowledgeSorted := sound.knowledge.sorted_ofDict
  have portRead : ∀ value ∈ port, port? (.nat value.toNat) = some value :=
    fun value given => port?_nat (sound.port value given)
  cases port with
  | none | some value =>
      cases beliefMap with
      | none | some map =>
          cases beliefTexts with
          | nil | cons text rest =>
              simp [knowledgeSorted, present, Record.decodeWith, Record.readMembers,
                Record.readMember, ReasoningAgent.record, ReasoningAgent.sharedFields,
                AgentSettings.fields, Field.optional, Field.lenient, Field.within,
                Field.isNamed, Record.Draft.readField, dict_ofDict, portRead,
                sorted_beliefs, dict_beliefs]

theorem PromptedAgent.entries_members (special : PromptedAgent) :
    (Dict.ofList (special.agent.members ++ special.members)).entries =
      [("class", .string special.agent.className), ("host", .string special.agent.host),
        ("llmPrompt", .string special.prompt), ("metadata", .ofDict special.agent.knowledge),
        ("name", .string special.agent.instanceName),
        ("password", .string special.agent.password)] ++
      present "port" (fun port => .nat port.toNat) special.agent.port ++
      [("setupCode", .string special.agent.setupCode),
        ("verify_security", .bool special.agent.verifySecurity)] := by
  cases port : special.agent.port with
  | none | some value =>
      simp only [PromptedAgent.members, AgentSettings.members, port, present, Dict.entries_ofList,
        List.cons_append, List.nil_append, List.foldl_cons, List.foldl_nil, Dict.insertEntry,
        String.reduceLT, String.reduceEq, reduceIte]

theorem PromptedAgent.decode_toJson {special : PromptedAgent}
    (sound : special.agent.IsSound depth) :
    PromptedAgent.record.decodeWith PromptedAgent.sharedFields {}
        (Payload.prompted special).toJson.sorted =
      .ok special := by
  rw [Payload.sorted_toJson, Payload.members, PromptedAgent.entries_members]
  obtain ⟨⟨className, instanceName, host, port, password, verifySecurity, knowledge,
    setupCode⟩, prompt⟩ := special
  have knowledgeSorted := sound.knowledge.sorted_ofDict
  have portRead : ∀ value ∈ port, port? (.nat value.toNat) = some value :=
    fun value given => port?_nat (sound.port value given)
  cases port with
  | none | some value =>
      simp [knowledgeSorted, present, Record.decodeWith, Record.readMembers,
        Record.readMember, PromptedAgent.record, PromptedAgent.sharedFields,
        AgentSettings.fields, Field.optional, Field.lenient, Field.within, Field.isNamed,
        Record.Draft.readField, dict_ofDict, portRead]

theorem Behaviour.entries_members (behaviour : Behaviour) :
    (Dict.ofList behaviour.members).entries =
      [("class", .string behaviour.className),
        ("configCode", .ofDict (behaviour.code.map fun _ code => .string code))] ++
      present "period" .ofBinary64 behaviour.period ++
      present "start_at" .string behaviour.startAt ++
      present "start_at_mode" (fun mode => .string mode.name) behaviour.startMode ++
      present "start_at_offset_s" .ofBinary64 behaviour.startOffset ++
      [("type", .string behaviour.kind.className)] := by
  cases period : behaviour.period with
  | none | some period =>
      cases startAt : behaviour.startAt with
      | none | some startAt =>
          cases startMode : behaviour.startMode with
          | none | some startMode =>
              cases startOffset : behaviour.startOffset with
              | none | some startOffset =>
                  simp only [Behaviour.members, period, startAt, startMode, startOffset,
                    present, Dict.entries_ofList,
                    List.cons_append, List.nil_append, List.foldl_cons, List.foldl_nil, Dict.insertEntry,
                    String.reduceLT, String.reduceEq, reduceIte]

theorem Behaviour.decode_toJson {behaviour : Behaviour} (sound : behaviour.IsSound) :
    Behaviour.record.decode {} (Payload.behaviour behaviour).toJson.sorted =
      .ok behaviour.finite := by
  rw [Payload.sorted_toJson, Payload.members, Behaviour.entries_members]
  obtain ⟨className, kind, period, startMode, startAt, startOffset, code⟩ := behaviour
  have codeSorted := sorted_ofDict_map sorted_string code
  have codeRead := dict_map string_string code
  have startRead : ∀ text ∈ startAt, Decode.string? (.string text) = some text :=
    fun text given => string?_string (sound text given)
  cases period with
  | none | some period =>
      cases startAt with
      | none | some startAt =>
          cases startMode with
          | none | some startMode =>
              cases startOffset with
              | none | some startOffset =>
                  simp [codeSorted, codeRead, startRead, present, Record.decode,
                    Record.ofMembers, Record.readMembers, Record.readMember,
                    Behaviour.record, Behaviour.finite, Field.optional, Field.lenient,
                    Field.orNamed, Field.isNamed, Record.Draft.readField, Record.missing?]

theorem Envelope.decode_toJson {envelope : Envelope} (name : String)
    (areRead : envelope.metadata.AreRead depth) :
    (Envelope.record name).decode {} (ofDict (Dict.ofList envelope.members)).sorted =
      .ok envelope := by
  have entries : (Dict.ofList envelope.members).entries =
      [("body", .string envelope.body), ("metadata", .ofDict envelope.metadata),
        ("sender", .string envelope.sender), ("thread", .string envelope.thread),
        ("to", .string envelope.recipient)] := by
    simp only [Envelope.members, Dict.entries_ofList, List.foldl_cons, List.foldl_nil,
      Dict.insertEntry, String.reduceLT, String.reduceEq, reduceIte]
  rw [sorted_ofDict, ofDict, Dict.map]
  simp [entries, areRead.sorted_ofDict, Record.decode, Record.ofMembers, Record.readMembers,
    Record.readMember, Envelope.record, Field.optional, Field.isNamed,
    Record.Draft.readField, Record.missing?, dict_ofDict]

theorem noteRecord_decode_toJson (text : String) :
    noteRecord.decode "" (Payload.note text).toJson.sorted = .ok text := by
  rw [Payload.sorted_toJson]
  simp [Payload.members, Dict.ofList, Dict.insert, Dict.insertEntry, Dict.empty,
    Record.decode, Record.ofMembers, Record.readMembers, Record.readMember, noteRecord,
    Field.optional, Field.isNamed, Record.Draft.readField, Record.missing?]

/-- Data that was written is read back by the rules of its type. -/
theorem Payload.decode_toJson {payload : Payload} (sound : payload.IsSound depth) :
    ∃ decode, Payload.decoder? payload.typeName = some decode ∧
      decode payload.toJson.sorted = .ok payload.finite := by
  cases payload with
  | agent settings =>
      refine ⟨_, rfl, ?_⟩
      simp only [AgentSettings.decode_toJson sound]
      rfl
  | reasoning special =>
      refine ⟨_, rfl, ?_⟩
      simp only [ReasoningAgent.decode_toJson sound]
      rfl
  | prompted special =>
      refine ⟨_, rfl, ?_⟩
      simp only [PromptedAgent.decode_toJson sound]
      rfl
  | behaviour settings =>
      refine ⟨_, rfl, ?_⟩
      simp only [Behaviour.decode_toJson sound]
      rfl
  | template envelope =>
      refine ⟨_, rfl, ?_⟩
      simp only [toJson, members, Envelope.decode_toJson _ sound]
      rfl
  | message envelope =>
      refine ⟨_, rfl, ?_⟩
      simp only [toJson, members, Envelope.decode_toJson _ sound]
      rfl
  | note text =>
      refine ⟨_, rfl, ?_⟩
      simp only [noteRecord_decode_toJson]
      rfl

theorem Position.sorted_toJson (position : Position) :
    position.toJson.sorted = position.toJson := by
  simp only [Position.toJson, sorted_object, sorted_ofBinary64, ofDict, List.map_cons,
    List.map_nil, Dict.entries_ofList, List.foldl_cons, List.foldl_nil, Dict.insertEntry,
    String.reduceLT, String.reduceEq, reduceIte]

theorem Position.decode_toJson {position : Position} (finite : position.IsFinite) :
    Position.record.decode {} position.toJson.sorted = .ok position := by
  rw [Position.sorted_toJson]
  obtain ⟨x, y⟩ := position
  have xRead := double_ofBinary64 finite.1
  have yRead := double_ofBinary64 finite.2
  simp [Position.toJson, Record.decode, Record.ofMembers, Record.readMembers,
    Record.readMember, Position.record, Field.optional, Field.required, Field.isNamed,
    Record.Draft.readField, Record.missing?, xRead, yRead]
  rfl

theorem Position.optional_decode_toJson {position : Position} (finite : position.IsFinite) :
    optional (Position.record.decode {}) position.toJson.sorted = .ok (some position) := by
  have decoded := Position.decode_toJson finite
  rw [Position.toJson, sorted_object] at decoded ⊢
  exact congrArg (some <$> ·) decoded

theorem Node.sorted_toJson (node : Node) :
    node.toJson.sorted = .object ([("data", node.payload.toJson.sorted), ("id", .string node.id)] ++
      present "position" Position.toJson node.position ++
      [("type", .string node.payload.typeName)]) := by
  cases position : node.position with
  | none | some position =>
      simp only [Node.toJson, position, present, sorted_object, sorted_string,
        Position.sorted_toJson, ofDict, List.map_cons, List.map_nil, List.cons_append,
        List.nil_append, Dict.entries_ofList, List.foldl_cons, List.foldl_nil,
        Dict.insertEntry, String.reduceLT, String.reduceEq, reduceIte]

theorem Node.decode_toJson {node : Node} (sound : node.IsSound depth) :
    Node.decode node.toJson.sorted = .ok node.finite := by
  obtain ⟨decode, known, decoded⟩ := Payload.decode_toJson sound.payload
  have frame : NodeFrame.record.decode {} node.toJson.sorted =
      .ok ⟨node.id, node.payload.typeName, node.position, node.payload.toJson.sorted⟩ := by
    rw [Node.sorted_toJson]
    obtain ⟨id, position, payload⟩ := node
    cases position with
    | none =>
        simp [present, Record.decode, Record.ofMembers, Record.readMembers,
          Record.readMember, NodeFrame.record, Field.optional, Field.required,
          Field.isNamed, Record.Draft.readField, Record.missing?]
        rfl
    | some position =>
        have positionRead : optional (Position.record.decode {}) position.toJson =
            .ok (some position) := by
          have decoded := Position.optional_decode_toJson (sound.position position rfl)
          rwa [Position.sorted_toJson] at decoded
        simp [present, Record.decode, Record.ofMembers, Record.readMembers,
          Record.readMember, NodeFrame.record, Field.optional, Field.required,
          Field.isNamed, Record.Draft.readField, Record.missing?, positionRead]
        rfl
  have data : node.payload.toJson.sorted ≠ .null := by
    intro absent
    rw [Payload.sorted_toJson] at absent
    contradiction
  rw [Node.decode, frame, Decoded.ok_bind, NodeFrame.node]
  simp only [known, NodeFrame.members, if_neg data, decoded]
  rfl

section Depth

private theorem nested_nat_port (port : UInt16) :
    Nested Number.IsWord depth (nat port.toNat) := by
  have bounded : port.toNat < 65536 := port.toNat_lt
  apply Nested.number
  change -2 ^ 63 ≤ (port.toNat : Int) ∧ (port.toNat : Int) < 2 ^ 64
  omega

private theorem nested_strings (texts : List String) :
    Nested Number.IsWord (depth + 1) (strings texts) := by
  refine .array fun item inside => ?_
  obtain ⟨text, _, rfl⟩ := List.mem_map.mp inside
  exact .string text

private theorem nested_ofBinary64 (value : Binary64) :
    Nested Number.IsWord depth (ofBinary64 value) := by
  cases value with
  | finite value => exact .number trivial
  | infinite negative => exact .null
  | nan => exact .null

private theorem nested_ofDict_map {α : Type} {encode : α → Json}
    (nested : ∀ value, Nested Number.IsWord depth (encode value)) (dict : Dict α) :
    Nested Number.IsWord (depth + 1) (ofDict (dict.map fun _ value => encode value)) := by
  refine .object fun member inside => ?_
  obtain ⟨entry, _, rfl⟩ := List.mem_map.mp inside
  exact nested entry.2

private theorem nested_present {α : Type} {toJson : α → Json}
    (nested : ∀ value, Nested Number.IsWord depth (toJson value)) (key : String)
    (value : Option α) :
    ∀ member ∈ present key toJson value, Nested Number.IsWord depth member.2 := by
  cases value with
  | none => simp [present]
  | some value => simp [present, nested]

theorem AgentSettings.nested_members {settings : AgentSettings}
    (sound : settings.IsSound depth) :
    ∀ member ∈ settings.members, Nested Number.IsWord (depth + 1) member.2 := by
  simp only [AgentSettings.members, List.forall_mem_append, List.forall_mem_cons]
  refine ⟨⟨⟨.string _, .string _, .string _, by simp⟩,
    nested_present nested_nat_port "port" settings.port⟩,
    .string _, .bool _, sound.knowledge.regular.nested, .string _, by simp⟩

theorem ReasoningAgent.nested_members (special : ReasoningAgent) :
    ∀ member ∈ special.members, Nested Number.IsWord (depth + 1) member.2 := by
  have belief (value : Option String) :
      Nested Number.IsWord depth (.ofOption (value.map .string)) := by
    cases value with
    | none => exact .null
    | some text => exact .string text
  have texts : ∀ member ∈ (if special.beliefTexts.isEmpty then []
      else [("beliefs", strings special.beliefTexts)]),
        Nested Number.IsWord (depth + 1) member.2 := by
    split
    · simp
    · simp [nested_strings]
  simp only [ReasoningAgent.members, List.forall_mem_append, List.forall_mem_cons]
  exact ⟨⟨nested_present (nested_ofDict_map belief) "beliefsObj" special.beliefMap, texts⟩,
    .string _, nested_strings _, by simp⟩

theorem Behaviour.nested_members (behaviour : Behaviour) :
    ∀ member ∈ behaviour.members, Nested Number.IsWord (depth + 1) member.2 := by
  simp only [Behaviour.members, List.forall_mem_append, List.forall_mem_cons]
  refine ⟨⟨⟨⟨⟨⟨.string _, .string _, by simp⟩, ?_⟩, ?_⟩, ?_⟩, ?_⟩, ?_, by simp⟩
  · exact nested_present nested_ofBinary64 "period" behaviour.period
  · exact nested_present (fun mode => .string mode.name) "start_at_mode" behaviour.startMode
  · exact nested_present .string "start_at" behaviour.startAt
  · exact nested_present nested_ofBinary64 "start_at_offset_s" behaviour.startOffset
  · exact nested_ofDict_map .string behaviour.code

theorem Envelope.nested_members {envelope : Envelope}
    (areRead : envelope.metadata.AreRead depth) :
    ∀ member ∈ envelope.members, Nested Number.IsWord (depth + 1) member.2 := by
  simp only [Envelope.members, List.forall_mem_cons]
  exact ⟨.string _, .string _, .string _, .string _, areRead.regular.nested, by simp⟩

theorem Payload.nested_members {payload : Payload} (sound : payload.IsSound depth) :
    ∀ member ∈ payload.members, Nested Number.IsWord (depth + 1) member.2 := by
  cases payload with
  | agent settings => exact AgentSettings.nested_members sound
  | reasoning special =>
      exact List.forall_mem_append.mpr
        ⟨AgentSettings.nested_members sound, special.nested_members⟩
  | prompted special =>
      refine List.forall_mem_append.mpr ⟨AgentSettings.nested_members sound, ?_⟩
      simp only [PromptedAgent.members, List.forall_mem_cons]
      exact ⟨.string _, by simp⟩
  | behaviour settings => exact settings.nested_members
  | template envelope => exact Envelope.nested_members sound
  | message envelope => exact Envelope.nested_members sound
  | note text =>
      simp only [Payload.members, List.forall_mem_cons]
      exact ⟨.string _, by simp⟩

/-- A node's document nests three levels deeper than the values typed into the node. -/
theorem Node.nested_toJson {node : Node} (sound : node.IsSound depth) :
    Nested Number.IsWord (depth + 3) node.toJson := by
  have position (position : Position) : Nested Number.IsWord (depth + 2) position.toJson := by
    refine .object ?_
    simp only [List.forall_mem_cons]
    exact ⟨nested_ofBinary64 _, nested_ofBinary64 _, by simp⟩
  have data : Nested Number.IsWord (depth + 2) node.payload.toJson := by
    refine .object fun member inside => ?_
    exact Payload.nested_members sound.payload member (Dict.mem_entries_ofList inside)
  refine .object ?_
  simp only [List.forall_mem_append, List.forall_mem_cons]
  exact ⟨⟨⟨.string _, .string _, by simp⟩, nested_present position "position" node.position⟩,
    data, by simp⟩

end Depth

end AgentGraph
