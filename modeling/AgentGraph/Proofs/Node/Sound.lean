import AgentGraph.Node.Decode
import AgentGraph.Proofs.Binary64.Integer
import AgentGraph.Proofs.Binary64.Text
import AgentGraph.Proofs.Decode.Record

/-!
What decoding gives. Positions are finite, a port is not zero, a start is not blank,
and typed values nest three levels less deep than the node they come from.
-/

namespace AgentGraph

open Json Decode

def Position.IsFinite (position : Position) : Prop :=
  position.x.isFinite = true ∧ position.y.isFinite = true

/-- Whether typed values are such as are read, and nest at most `depth` deep. -/
def Dict.AreRead (depth : Nat) (dict : Dict Json) : Prop :=
  ∀ entry ∈ dict.entries, Regular Number.IsWord depth entry.2

structure AgentSettings.IsSound (depth : Nat) (agent : AgentSettings) : Prop where
  port : ∀ port ∈ agent.port, port ≠ 0
  knowledge : agent.knowledge.AreRead depth

def Behaviour.IsSound (behaviour : Behaviour) : Prop :=
  ∀ text ∈ behaviour.startAt, Text.isBlankText text = false

/-- What decoding promises of a payload whose typed values nest at most `depth` deep. -/
def Payload.IsSound (depth : Nat) : Payload → Prop
  | .agent settings => settings.IsSound depth
  | .reasoning special => special.agent.IsSound depth
  | .prompted special => special.agent.IsSound depth
  | .behaviour settings => settings.IsSound
  | .template envelope | .message envelope => envelope.metadata.AreRead depth
  | .note _ => True

structure Node.IsSound (depth : Nat) (node : Node) : Prop where
  position : ∀ position ∈ node.position, position.IsFinite
  payload : node.payload.IsSound depth

variable {depth : Nat}

theorem Number.isFinite_toBinary64 {number : Number} (word : number.IsWord) :
    number.toBinary64.isFinite = true := by
  cases number with
  | real value => rfl
  | integer value =>
      obtain ⟨lower, upper⟩ : -2 ^ 63 ≤ value ∧ value < 2 ^ 64 := word
      exact Binary64.isFinite_ofInt (by omega)

theorem Decode.double_isFinite {value : Json} {read : Binary64}
    (regular : Regular Number.IsWord depth value) (decoded : double value = .ok read) :
    read.isFinite = true := by
  cases regular with
  | number word =>
      injection decoded with same
      exact same ▸ Number.isFinite_toBinary64 word
  | null | bool | string | array | object => contradiction

theorem Decode.port?_ne_zero {value : Json} {port : UInt16} (read : port? value = some port) :
    port ≠ 0 := by
  unfold port? at read
  split at read
  · split at read
    · next port _ valid =>
        simp only [Bool.and_eq_true, decide_eq_true_eq] at valid
        injection read with same
        intro zero
        have whole : (UInt16.ofNat port.whole).toNat = port.whole :=
          Nat.mod_eq_of_lt (by omega)
        rw [same, zero] at whole
        have zeroWhole : 0 = port.whole := whole
        omega
    · contradiction
  · contradiction

theorem Decode.string?_not_blank {value : Json} {text : String}
    (read : Decode.string? value = some text) : Text.isBlankText text = false := by
  unfold Decode.string? at read
  split at read
  · split at read
    · contradiction
    · next notBlank =>
        injection read with same
        exact same ▸ Bool.eq_false_iff.mpr notBlank
  · injection read with same
    exact same ▸ Number.isBlankText_text _
  · contradiction

theorem Decode.dict_areRead {value : Json} {read : Dict Json}
    (regular : Regular Number.IsWord (depth + 1) value) (decoded : dict .ok value = .ok read) :
    read.AreRead depth := by
  cases regular with
  | @object _ members _ regular =>
      obtain ⟨entries, entriesDecoded, same⟩ := Decoded.bind_eq_ok.mp decoded
      injection same with same
      subst same
      intro entry inside
      obtain ⟨member, held, memberDecoded⟩ :=
        Decoded.mapM_mem entriesDecoded entry (Dict.mem_entries_ofList inside)
      injection memberDecoded with same
      exact same ▸ regular member held
  | null | bool | number | string | array => contradiction

theorem Position.isFinite_of_decode {value : Json} {position : Position}
    (regular : Regular Number.IsWord (depth + 1) value)
    (decoded : Position.record.decode {} value = .ok position) : position.IsFinite := by
  refine Record.decode_holds ?_ ⟨rfl, rfl⟩ regular.parts decoded
  simp only [Position.record, List.mem_cons, List.not_mem_nil, or_false, forall_eq_or_imp,
    forall_eq]
  constructor
  · exact Field.keeps_required fun value x position good read held =>
      ⟨double_isFinite good read, held.2⟩
  · exact Field.keeps_required fun value y position good read held =>
      ⟨held.1, double_isFinite good read⟩

theorem AgentSettings.keeps_isSound :
    ∀ field ∈ AgentSettings.fields,
      field.Keeps (Regular Number.IsWord (depth + 1)) (AgentSettings.IsSound depth) := by
  have untouched {β : Type} {name : String} {decode : Json → Decoded β}
      {put : β → AgentSettings → AgentSettings}
      (port : ∀ read agent, (put read agent).port = agent.port)
      (knowledge : ∀ read agent, (put read agent).knowledge = agent.knowledge) :
      (Field.optional name decode put).Keeps (Regular Number.IsWord (depth + 1))
        (AgentSettings.IsSound depth) := by
    refine Field.keeps_optional fun value read agent _ _ held => ⟨?_, ?_⟩
    · rw [port]
      exact held.port
    · rw [knowledge]
      exact held.knowledge
  simp only [AgentSettings.fields, List.mem_cons, List.not_mem_nil, or_false,
    forall_eq_or_imp, forall_eq]
  refine ⟨?_, ?_, ?_, ?_, ?_, ?_, ?_, ?_⟩
  · exact untouched (fun _ _ => rfl) fun _ _ => rfl
  · exact untouched (fun _ _ => rfl) fun _ _ => rfl
  · exact untouched (fun _ _ => rfl) fun _ _ => rfl
  · refine Field.keeps_optional fun value read agent _ decoded held => ⟨?_, held.knowledge⟩
    injection decoded with same
    exact fun port given => port?_ne_zero (same.trans given)
  · exact untouched (fun _ _ => rfl) fun _ _ => rfl
  · exact untouched (fun _ _ => rfl) fun _ _ => rfl
  · exact Field.keeps_optional fun value read agent good decoded held =>
      ⟨held.port, dict_areRead good decoded⟩
  · exact untouched (fun _ _ => rfl) fun _ _ => rfl

theorem Dict.areRead_empty : (Dict.empty : Dict Json).AreRead depth :=
  fun _ inside => absurd inside List.not_mem_nil

theorem AgentSettings.isSound_default : ({} : AgentSettings).IsSound depth :=
  ⟨by simp, Dict.areRead_empty⟩

theorem ReasoningAgent.isSound_of_decode {value : Json} {agent : ReasoningAgent}
    (regular : Regular Number.IsWord (depth + 2) value)
    (decoded : ReasoningAgent.record.decodeWith ReasoningAgent.sharedFields {} value =
      .ok agent) : agent.agent.IsSound depth := by
  have own : ∀ field ∈ ReasoningAgent.record.fields,
      field.Keeps (Regular Number.IsWord (depth + 1))
        fun special => special.agent.IsSound depth := by
    simp only [ReasoningAgent.record, List.mem_cons, List.not_mem_nil, or_false,
      forall_eq_or_imp, forall_eq]
    refine ⟨?_, ?_, ?_, ?_⟩
    all_goals exact Field.keeps_optional fun _ _ _ _ _ held => held
  have shared : ∀ field ∈ ReasoningAgent.sharedFields,
      field.Keeps (Regular Number.IsWord (depth + 1))
        fun special => special.agent.IsSound depth := by
    intro field inside
    obtain ⟨field, held, rfl⟩ := List.mem_map.mp inside
    exact Field.keeps_within (AgentSettings.keeps_isSound field held) fun _ _ => rfl
  have sound := Record.decodeWith_holds own shared AgentSettings.isSound_default
    regular.parts decoded
  exact sound

theorem PromptedAgent.isSound_of_decode {value : Json} {agent : PromptedAgent}
    (regular : Regular Number.IsWord (depth + 2) value)
    (decoded : PromptedAgent.record.decodeWith PromptedAgent.sharedFields {} value =
      .ok agent) : agent.agent.IsSound depth := by
  have own : ∀ field ∈ PromptedAgent.record.fields,
      field.Keeps (Regular Number.IsWord (depth + 1))
        fun special => special.agent.IsSound depth := by
    simp only [PromptedAgent.record, List.mem_cons, List.not_mem_nil, or_false, forall_eq]
    exact Field.keeps_optional fun _ _ _ _ _ held => held
  have shared : ∀ field ∈ PromptedAgent.sharedFields,
      field.Keeps (Regular Number.IsWord (depth + 1))
        fun special => special.agent.IsSound depth := by
    intro field inside
    obtain ⟨field, held, rfl⟩ := List.mem_map.mp inside
    exact Field.keeps_within (AgentSettings.keeps_isSound field held) fun _ _ => rfl
  have sound := Record.decodeWith_holds own shared AgentSettings.isSound_default
    regular.parts decoded
  exact sound

theorem Behaviour.isSound_of_decode {value : Json} {behaviour : Behaviour}
    (decoded : Behaviour.record.decode {} value = .ok behaviour) : behaviour.IsSound := by
  have untouched {β : Type} {name : String} {decode : Json → Decoded β}
      {put : β → Behaviour → Behaviour}
      (startAt : ∀ read behaviour, (put read behaviour).startAt = behaviour.startAt) :
      (Field.optional name decode put).Keeps (fun _ => True) Behaviour.IsSound := by
    apply Field.keeps_optional
    intro value read behaviour _ _ held
    unfold Behaviour.IsSound
    rw [startAt]
    exact held
  have start : ({} : Behaviour).IsSound := by simp [Behaviour.IsSound]
  refine Record.decode_holds ?_ start (fun _ _ => trivial) decoded
  simp only [Behaviour.record, List.mem_cons, List.not_mem_nil, or_false, forall_eq_or_imp,
    forall_eq]
  refine ⟨?_, ?_, ?_, ?_, ?_, ?_, ?_⟩
  · exact untouched fun _ _ => rfl
  · exact untouched fun _ _ => rfl
  · exact untouched fun _ _ => rfl
  · apply Field.keeps_orNamed
    exact untouched fun _ _ => rfl
  · apply Field.keeps_optional
    intro value read behaviour _ decoded held
    injection decoded with same
    exact fun text given => string?_not_blank (same.trans given)
  · apply Field.keeps_orNamed
    exact untouched fun _ _ => rfl
  · exact untouched fun _ _ => rfl

theorem Envelope.areRead_of_decode {name : String} {value : Json} {envelope : Envelope}
    (regular : Regular Number.IsWord (depth + 2) value)
    (decoded : (Envelope.record name).decode {} value = .ok envelope) :
    envelope.metadata.AreRead depth := by
  have keeps : ∀ field ∈ (Envelope.record name).fields,
      field.Keeps (Regular Number.IsWord (depth + 1))
        fun envelope => envelope.metadata.AreRead depth := by
    simp only [Envelope.record, List.mem_cons, List.not_mem_nil, or_false,
      forall_eq_or_imp, forall_eq]
    refine ⟨?_, ?_, ?_, ?_, ?_⟩
    · exact Field.keeps_optional fun _ _ _ _ _ held => held
    · exact Field.keeps_optional fun _ _ _ _ _ held => held
    · exact Field.keeps_optional fun _ _ _ _ _ held => held
    · exact Field.keeps_optional fun _ _ _ _ _ held => held
    · exact Field.keeps_optional fun _ _ _ good read _ => dict_areRead good read
  have held := Record.decode_holds keeps Dict.areRead_empty regular.parts decoded
  exact held

theorem Payload.isSound_of_decode {type : String} {decode : Json → Decoded Payload}
    (known : Payload.decoder? type = some decode) {value : Json} {payload : Payload}
    (regular : Regular Number.IsWord (depth + 2) value)
    (decoded : decode value = .ok payload) : payload.IsSound depth := by
  unfold Payload.decoder? at known
  split at known
  · injection known with same
    subst same
    obtain ⟨settings, read, rfl⟩ := Decoded.map_eq_ok.mp decoded
    have sound : settings.IsSound depth := Record.decode_holds AgentSettings.keeps_isSound
      AgentSettings.isSound_default regular.parts read
    exact sound
  · injection known with same
    subst same
    obtain ⟨special, read, rfl⟩ := Decoded.map_eq_ok.mp decoded
    exact ReasoningAgent.isSound_of_decode regular read
  · injection known with same
    subst same
    obtain ⟨special, read, rfl⟩ := Decoded.map_eq_ok.mp decoded
    exact PromptedAgent.isSound_of_decode regular read
  · injection known with same
    subst same
    obtain ⟨behaviour, read, rfl⟩ := Decoded.map_eq_ok.mp decoded
    exact Behaviour.isSound_of_decode read
  · injection known with same
    subst same
    obtain ⟨envelope, read, rfl⟩ := Decoded.map_eq_ok.mp decoded
    exact Envelope.areRead_of_decode regular read
  · injection known with same
    subst same
    obtain ⟨envelope, read, rfl⟩ := Decoded.map_eq_ok.mp decoded
    exact Envelope.areRead_of_decode regular read
  · injection known with same
    subst same
    obtain ⟨text, read, rfl⟩ := Decoded.map_eq_ok.mp decoded
    exact trivial
  · contradiction

/-- What the first step of decoding a node promises. -/
structure NodeFrame.IsSound (depth : Nat) (frame : NodeFrame) : Prop where
  position : ∀ position ∈ frame.position, position.IsFinite
  data : Regular Number.IsWord depth frame.data

theorem NodeFrame.isSound_of_decode {value : Json} {frame : NodeFrame}
    (regular : Regular Number.IsWord (depth + 2) value)
    (decoded : NodeFrame.record.decode {} value = .ok frame) :
    frame.IsSound (depth + 1) := by
  have keeps : ∀ field ∈ NodeFrame.record.fields,
      field.Keeps (Regular Number.IsWord (depth + 1)) (NodeFrame.IsSound (depth + 1)) := by
    simp only [NodeFrame.record, List.mem_cons, List.not_mem_nil, or_false,
      forall_eq_or_imp, forall_eq]
    refine ⟨?_, ?_, ?_, ?_⟩
    · exact Field.keeps_required fun _ _ _ _ _ held => ⟨held.position, held.data⟩
    · exact Field.keeps_required fun _ _ _ _ _ held => ⟨held.position, held.data⟩
    · refine Field.keeps_optional fun value read frame good decoded held => ⟨?_, held.data⟩
      intro position given
      unfold Decode.optional at decoded
      split at decoded
      · injection decoded with same
        exact nomatch same.trans given
      · obtain ⟨found, positionDecoded, same⟩ := Decoded.map_eq_ok.mp decoded
        have here : found = position := Option.some.inj (same.trans given)
        exact here ▸ Position.isFinite_of_decode good positionDecoded
    · refine Field.keeps_optional fun value read frame good decoded held => ⟨held.position, ?_⟩
      injection decoded with same
      exact same ▸ good
  exact Record.decode_holds keeps ⟨by simp, .null⟩ regular.parts decoded

theorem Node.isSound_of_decode {value : Json} {node : Node}
    (regular : Regular Number.IsWord (depth + 3) value)
    (decoded : Node.decode value = .ok node) : node.IsSound depth := by
  obtain ⟨frame, frameDecoded, read⟩ := Decoded.bind_eq_ok.mp decoded
  have sound := NodeFrame.isSound_of_decode regular frameDecoded
  have data : Regular Number.IsWord (depth + 2) frame.members := by
    unfold NodeFrame.members
    split
    · exact .object .nil nofun
    · exact sound.data
  unfold NodeFrame.node at read
  split at read
  · contradiction
  · next decode known =>
      split at read
      · next payload payloadDecoded =>
          injection read with same
          exact same ▸ ⟨sound.position, Payload.isSound_of_decode known data payloadDecoded⟩
      · contradiction

end AgentGraph
