import AgentGraph.Proofs.Decode.Encoded
import AgentGraph.Proofs.Decode.Setting
import AgentGraph.Proofs.Node.Sound

/-!
Settings that a form may fill with anything. No value of theirs sinks a node: it decodes as it does
without the value, to the same error or to the same record but for that one field.
-/

namespace AgentGraph

open Decode

namespace AgentSettings

def portSetting : Setting AgentSettings where
  names := ["port"]
  put value agent := { agent with port := port? value }

def securitySetting : Setting AgentSettings where
  names := ["verify_security"]
  put value agent := { agent with verifySecurity := truth value }

def settings : List (Setting AgentSettings) := [portSetting, securitySetting]

theorem isPlaced_of_mem {setting : Setting AgentSettings} (inside : setting ∈ settings) :
    ∃ field, setting.IsPlaced field fields := by
  simp only [settings, List.mem_cons, List.not_mem_nil, or_false] at inside
  rcases inside with rfl | rfl
  on_goal 1 => refine ⟨_, @Setting.isPlaced_of_isApart _ portSetting _ (fields.take 3)
    (fields.drop 4) rfl (fun _ _ => rfl) rfl ?_⟩
  on_goal 2 => refine ⟨_, @Setting.isPlaced_of_isApart _ securitySetting _ (fields.take 5)
    (fields.drop 6) rfl (fun _ _ => rfl) rfl ?_⟩
  all_goals
    simp only [fields, List.take, List.drop, List.cons_append, List.nil_append,
      List.forall_mem_cons, List.not_mem_nil, false_imp_iff, implies_true, and_true]
    refine ⟨?_, ?_, ?_, ?_, ?_, ?_, ?_⟩
  all_goals exact Setting.isApart_optional (by decide) fun _ _ _ => rfl

/-- A record with the shared settings as a part, none of whose own fields goes by their names. -/
theorem decodeWith_insert {α : Type} (record : Record α) (get : α → AgentSettings)
    (put : AgentSettings → α → α)
    (unnamed : ∀ setting ∈ settings, ∀ name ∈ setting.names, ∀ field ∈ record.fields,
      field.isNamed name = false)
    (gets : ∀ part whole, get (put part whole) = part)
    (puts : ∀ part other whole, put part (put other whole) = put part whole)
    {setting : Setting AgentSettings} (inside : setting ∈ settings) {key : String}
    {data : Dict Json} (named : key ∈ setting.names)
    (absent : ∀ name ∈ setting.names, data.find? name = none) (initial : α) (value : Json) :
    record.decodeWith (fields.map fun field => field.within get put) initial
        (.ofDict (data.insert key value)) =
      (setting.within get put).put value <$>
        record.decodeWith (fields.map fun field => field.within get put) initial
          (.ofDict data) := by
  obtain ⟨field, placed⟩ := isPlaced_of_mem inside
  have none_found : ∀ name ∈ setting.names,
      record.fields.find? (fun field => field.isNamed name) = none := by
    intro name isName
    rw [List.find?_eq_none]
    intro other held
    rw [unnamed setting inside name isName other held]
    exact Bool.false_ne_true
  have shared : (setting.within get put).IsPlaced _ _ := placed.within gets puts
  exact Record.decodeWith_insert none_found shared named absent value

end AgentSettings

namespace Behaviour

def periodSetting : Setting Behaviour where
  names := ["period"]
  put value behaviour := { behaviour with period := number? value }

def startModeSetting : Setting Behaviour where
  names := ["start_at_mode", "start_mode"]
  put value behaviour := { behaviour with startMode := variant? StartMode.variants value }

def startAtSetting : Setting Behaviour where
  names := ["start_at"]
  put value behaviour := { behaviour with startAt := string? value }

def startOffsetSetting : Setting Behaviour where
  names := ["start_at_offset_s", "start_offset"]
  put value behaviour := { behaviour with startOffset := number? value }

def settings : List (Setting Behaviour) :=
  [periodSetting, startModeSetting, startAtSetting, startOffsetSetting]

theorem isPlaced_of_mem {setting : Setting Behaviour} (inside : setting ∈ settings) :
    ∃ field, setting.IsPlaced field record.fields := by
  simp only [settings, List.mem_cons, List.not_mem_nil, or_false] at inside
  rcases inside with rfl | rfl | rfl | rfl
  on_goal 1 => refine ⟨_, @Setting.isPlaced_of_isApart _ periodSetting _ (record.fields.take 2)
    (record.fields.drop 3) rfl (fun _ _ => rfl) rfl ?_⟩
  on_goal 2 => refine ⟨_, @Setting.isPlaced_of_isApart _ startModeSetting _ (record.fields.take 3)
    (record.fields.drop 4) rfl (fun _ _ => rfl) rfl ?_⟩
  on_goal 3 => refine ⟨_, @Setting.isPlaced_of_isApart _ startAtSetting _ (record.fields.take 4)
    (record.fields.drop 5) rfl (fun _ _ => rfl) rfl ?_⟩
  on_goal 4 => refine ⟨_, @Setting.isPlaced_of_isApart _ startOffsetSetting _
    (record.fields.take 5) (record.fields.drop 6) rfl (fun _ _ => rfl) rfl ?_⟩
  all_goals
    simp only [record, List.take, List.drop, List.cons_append, List.nil_append,
      List.forall_mem_cons, List.not_mem_nil, false_imp_iff, implies_true, and_true]
    refine ⟨?_, ?_, ?_, ?_, ?_, ?_⟩
  all_goals first
    | exact Setting.isApart_optional (by decide) fun _ _ _ => rfl
    | exact (Setting.isApart_optional (by decide) fun _ _ _ => rfl).orNamed (by decide)

end Behaviour

variable {key : String} {data : Dict Json}

namespace Payload

def mapBehaviour (change : Behaviour → Behaviour) : Payload → Payload
  | .behaviour settings => .behaviour (change settings)
  | other => other

/-- The settings of a type of node that take any value. -/
def settings : (type : String) → List (Setting Payload)
  | "agent" | "agentBDI" | "agentLLM" =>
      AgentSettings.settings.map fun setting =>
        ⟨setting.names, fun value => mapAgent (setting.put value)⟩
  | "behaviour" =>
      Behaviour.settings.map fun setting =>
        ⟨setting.names, fun value => mapBehaviour (setting.put value)⟩
  | _ => []

theorem decode_insert {type : String} {decode : Json → Decoded Payload}
    (known : decoder? type = some decode) {setting : Setting Payload}
    (inside : setting ∈ settings type) (named : key ∈ setting.names)
    (absent : ∀ name ∈ setting.names, data.find? name = none) (value : Json) :
    decode (.ofDict (data.insert key value)) = setting.put value <$> decode (.ofDict data) := by
  unfold decoder? at known
  split at known
  · injection known with same
    subst same
    obtain ⟨setting, held, rfl⟩ := List.mem_map.mp inside
    obtain ⟨field, placed⟩ := AgentSettings.isPlaced_of_mem held
    have decoded :=
      @Record.decode_insert _ _ _ {} _ _ AgentSettings.record placed named absent value
    dsimp only
    rw [decoded]
    exact Decoded.map_comm (by exact fun _ => rfl) _
  · injection known with same
    subst same
    obtain ⟨setting, held, rfl⟩ := List.mem_map.mp inside
    dsimp only
    have decoded := AgentSettings.decodeWith_insert ReasoningAgent.record ReasoningAgent.agent
      (fun settings agent => { agent with agent := settings }) (by decide) (fun _ _ => rfl)
      (fun _ _ _ => rfl) held named absent {} value
    rw [ReasoningAgent.sharedFields, decoded]
    exact Decoded.map_comm (by exact fun _ => rfl) _
  · injection known with same
    subst same
    obtain ⟨setting, held, rfl⟩ := List.mem_map.mp inside
    dsimp only
    have decoded := AgentSettings.decodeWith_insert PromptedAgent.record PromptedAgent.agent
      (fun settings agent => { agent with agent := settings }) (by decide) (fun _ _ => rfl)
      (fun _ _ _ => rfl) held named absent {} value
    rw [PromptedAgent.sharedFields, decoded]
    exact Decoded.map_comm (by exact fun _ => rfl) _
  · injection known with same
    subst same
    obtain ⟨setting, held, rfl⟩ := List.mem_map.mp inside
    obtain ⟨field, placed⟩ := Behaviour.isPlaced_of_mem held
    have decoded :=
      @Record.decode_insert _ _ _ {} _ _ Behaviour.record placed named absent value
    dsimp only
    rw [decoded]
    exact Decoded.map_comm (by exact fun _ => rfl) _
  · exact absurd inside List.not_mem_nil
  · exact absurd inside List.not_mem_nil
  · exact absurd inside List.not_mem_nil
  · contradiction

variable {setting : Setting Payload} {payload : Payload} {value : Json} {type : String}

theorem mem_settings (inside : setting ∈ settings type) :
    (∃ shared ∈ AgentSettings.settings, setting =
      ⟨shared.names, fun value => mapAgent (shared.put value)⟩) ∨
    ∃ own ∈ Behaviour.settings, setting =
      ⟨own.names, fun value => mapBehaviour (own.put value)⟩ := by
  unfold settings at inside
  split at inside
  · exact .inl ((List.mem_map.mp inside).imp fun _ => .imp_right Eq.symm)
  · exact .inl ((List.mem_map.mp inside).imp fun _ => .imp_right Eq.symm)
  · exact .inl ((List.mem_map.mp inside).imp fun _ => .imp_right Eq.symm)
  · exact .inr ((List.mem_map.mp inside).imp fun _ => .imp_right Eq.symm)
  · contradiction

/-- The port that a value gives is the number it is, in whatever way it was typed. -/
theorem port_of_put (inside : setting ∈ settings type) (named : "port" ∈ setting.names) :
    ∀ agent ∈ (setting.put value payload).agent?, ∀ port ∈ agent.port,
      1 ≤ port.toNat ∧ port.toNat ≤ 65535 ∧ number? value = some (.ofInt port.toNat) := by
  rcases mem_settings inside with ⟨shared, held, rfl⟩ | ⟨own, held, rfl⟩
  · simp only [AgentSettings.settings, List.mem_cons, List.not_mem_nil, or_false] at held
    rcases held with rfl | rfl
    · intro agent isAgent port given
      have read : port? value = some port := by
        cases payload with
        | agent | reasoning | prompted =>
            injection isAgent with same
            rw [← same] at given
            exact given
        | behaviour | template | message | note => contradiction
      obtain ⟨nonzero, number⟩ := port?_eq_some_iff.mp read
      have bounded := port.toNat_lt
      refine ⟨Nat.pos_of_ne_zero fun zero => nonzero (UInt16.toNat_inj.mp zero), by omega, number⟩
    · exact absurd named (by decide)
  · simp only [Behaviour.settings, List.mem_cons, List.not_mem_nil, or_false] at held
    rcases held with rfl | rfl | rfl | rfl
    all_goals exact absurd named (by decide)

theorem startAt_of_put (inside : setting ∈ settings type) (named : "start_at" ∈ setting.names) :
    ∀ behaviour ∈ (setting.put value payload).behaviour?, ∀ text ∈ behaviour.startAt,
      Text.isBlankText text = false := by
  rcases mem_settings inside with ⟨shared, held, rfl⟩ | ⟨own, held, rfl⟩
  · simp only [AgentSettings.settings, List.mem_cons, List.not_mem_nil, or_false] at held
    rcases held with rfl | rfl
    all_goals exact absurd named (by decide)
  · simp only [Behaviour.settings, List.mem_cons, List.not_mem_nil, or_false] at held
    rcases held with rfl | rfl | rfl | rfl
    · exact absurd named (by decide)
    · exact absurd named (by decide)
    · intro behaviour isBehaviour text given
      have read : Decode.string? value = some text := by
        cases payload with
        | behaviour =>
            injection isBehaviour with same
            rw [← same] at given
            exact given
        | agent | reasoning | prompted | template | message | note => contradiction
      exact string?_not_blank read
    · exact absurd named (by decide)

end Payload

namespace NodeFrame

variable {frame : NodeFrame} {setting : Setting Payload}

def withData (frame : NodeFrame) (data : Dict Json) : NodeFrame :=
  { frame with data := .ofDict data }

theorem members_withData (frame : NodeFrame) (data : Dict Json) :
    (frame.withData data).members = .ofDict data :=
  if_neg nofun

theorem node_withData (frame : NodeFrame) (data : Dict Json) :
    (frame.withData data).node =
      match Payload.decoder? frame.type with
      | none => .error (.unknownNodeType frame.id frame.type)
      | some decode =>
          match decode (.ofDict data) with
          | .ok payload => .ok ⟨frame.id, frame.position, payload⟩
          | .error error => .error (.inNode frame.id error) := by
  rw [node, members_withData]
  rfl

/-- A value of one of the settings changes nothing but that setting: it decodes to the same error as
data without it, or to the same node but for what the setting puts there. A port is the number that
the value is, and a start is not blank. -/
theorem node_insert (inside : setting ∈ Payload.settings frame.type)
    (named : key ∈ setting.names) (absent : ∀ name ∈ setting.names, data.find? name = none)
    (value : Json) :
    (frame.withData (data.insert key value)).node =
      (fun node => { node with payload := setting.put value node.payload }) <$>
        (frame.withData data).node ∧
    ∀ node, (frame.withData (data.insert key value)).node = .ok node →
      ("port" ∈ setting.names → ∀ agent ∈ node.payload.agent?, ∀ port ∈ agent.port,
        1 ≤ port.toNat ∧ port.toNat ≤ 65535 ∧ number? value = some (.ofInt port.toNat)) ∧
      ("start_at" ∈ setting.names → ∀ behaviour ∈ node.payload.behaviour?,
        ∀ text ∈ behaviour.startAt, Text.isBlankText text = false) := by
  have decoded : (frame.withData (data.insert key value)).node =
      (fun node => { node with payload := setting.put value node.payload }) <$>
        (frame.withData data).node := by
    rw [node_withData, node_withData]
    split
    · rfl
    · next decode known =>
        rw [Payload.decode_insert known inside named absent]
        cases decode (.ofDict data) with
        | error error => rfl
        | ok payload => rfl
  refine ⟨decoded, fun node read => ?_⟩
  rw [decoded] at read
  obtain ⟨without, _, rfl⟩ := Decoded.map_eq_ok.mp read
  exact ⟨Payload.port_of_put inside, Payload.startAt_of_put inside⟩

/-- A reasoning agent whose port was typed as a text with an exponent. -/
theorem node_insert_typedPort :
    let frame : NodeFrame := { id := "n", type := "agentBDI" }
    let data : Dict Json :=
      Dict.ofList [("beliefs", .strings ["ready"]), ("name", .string "seller")]
    let setting : Setting Payload :=
      ⟨["port"], fun value => Payload.mapAgent (AgentSettings.portSetting.put value)⟩
    setting ∈ Payload.settings frame.type ∧ data.find? "port" = none ∧
    (frame.withData (data.insert "port" (.string " 8.08e3\n"))).node = .ok
      { id := "n", payload := .reasoning {
          agent := { instanceName := "seller", port := some 8080 },
          beliefTexts := ["ready"] } } := by
  intro frame data setting
  have inside : setting ∈ Payload.settings frame.type := List.mem_cons_self
  have absent : ∀ name ∈ setting.names, data.find? name = none := by decide +kernel
  have port : port? (.string " 8.08e3\n") = some 8080 := by decide +kernel
  have without : (frame.withData data).node = .ok
      { id := "n", payload := .reasoning {
          agent := { instanceName := "seller" }, beliefTexts := ["ready"] } } := by
    rfl
  refine ⟨inside, absent "port" List.mem_cons_self, ?_⟩
  rw [(node_insert inside List.mem_cons_self absent _).1, without]
  simp [setting, AgentSettings.portSetting, Payload.mapAgent, port]

end NodeFrame

end AgentGraph
