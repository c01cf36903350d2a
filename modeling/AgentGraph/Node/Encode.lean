import AgentGraph.Node.Basic

/-!
Nodes to JSON. The members of a node's data stand in the order of their keys;
settings that are absent are left out.
-/

namespace AgentGraph

def Position.toJson (position : Position) : Json :=
  .object [("x", .ofBinary64 position.x), ("y", .ofBinary64 position.y)]

def present {α : Type} (key : String) (toJson : α → Json) :
    Option α → List (String × Json)
  | some value => [(key, toJson value)]
  | none => []

def AgentSettings.members (agent : AgentSettings) : List (String × Json) :=
  [("class", .string agent.className), ("name", .string agent.instanceName),
    ("host", .string agent.host)] ++
  present "port" (fun port => .nat port.toNat) agent.port ++
  [("password", .string agent.password), ("verify_security", .bool agent.verifySecurity),
    ("metadata", .ofDict agent.knowledge), ("setupCode", .string agent.setupCode)]

def ReasoningAgent.members (agent : ReasoningAgent) : List (String × Json) :=
  present "beliefsObj"
    (fun dict => .ofDict (dict.map fun _ value => .ofOption (value.map .string)))
    agent.beliefMap ++
  (if agent.beliefTexts.isEmpty then [] else [("beliefs", .strings agent.beliefTexts)]) ++
  [("bdiProgram", .string agent.program), ("bdiFunctions", .strings agent.functions)]

def PromptedAgent.members (agent : PromptedAgent) : List (String × Json) :=
  [("llmPrompt", .string agent.prompt)]

def Behaviour.members (behaviour : Behaviour) : List (String × Json) :=
  [("class", .string behaviour.className), ("type", .string behaviour.kind.className)] ++
  present "period" .ofBinary64 behaviour.period ++
  present "start_at_mode" (fun mode => .string mode.name) behaviour.startMode ++
  present "start_at" .string behaviour.startAt ++
  present "start_at_offset_s" .ofBinary64 behaviour.startOffset ++
  [("configCode", .ofDict (behaviour.code.map fun _ code => .string code))]

def Envelope.members (envelope : Envelope) : List (String × Json) :=
  [("sender", .string envelope.sender), ("to", .string envelope.recipient),
    ("body", .string envelope.body), ("thread", .string envelope.thread),
    ("metadata", .ofDict envelope.metadata)]

def Payload.members : Payload → List (String × Json)
  | .agent settings => settings.members
  | .reasoning special => special.agent.members ++ special.members
  | .prompted special => special.agent.members ++ special.members
  | .behaviour settings => settings.members
  | .template envelope | .message envelope => envelope.members
  | .note text => [("text", .string text)]

def Payload.toJson (payload : Payload) : Json :=
  .ofDict (Dict.ofList payload.members)

def Node.toJson (node : Node) : Json :=
  .object ([("id", .string node.id), ("type", .string node.payload.typeName)] ++
    present "position" Position.toJson node.position ++
    [("data", node.payload.toJson)])

end AgentGraph
