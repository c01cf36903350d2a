import AgentGraph.Decode.Record
import AgentGraph.Node.Basic

/-!
Nodes from JSON. A node is read in two steps: the node itself, and then its data by
the rules of its type. Data that is null or left out is an empty object.
-/

namespace AgentGraph

open Decode

def Position.record : Record Position where
  name := "Position"
  fields := [
    .required "x" double fun x position => { position with x },
    .required "y" double fun y position => { position with y }]

def AgentSettings.fields : List (Field AgentSettings) := [
  .optional "class" text fun className agent => { agent with className },
  .optional "name" text fun instanceName agent => { agent with instanceName },
  .optional "host" text fun host agent => { agent with host },
  .lenient "port" port? fun port agent => { agent with port },
  .optional "password" text fun password agent => { agent with password },
  .lenient "verify_security" truth fun verifySecurity agent =>
    { agent with verifySecurity },
  .optional "metadata" (dict .ok) fun knowledge agent => { agent with knowledge },
  .optional "setupCode" text fun setupCode agent => { agent with setupCode }]

def AgentSettings.record : Record AgentSettings where
  name := "AgentData"
  fields := AgentSettings.fields

def ReasoningAgent.record : Record ReasoningAgent where
  name := "BdiAgentData"
  fields := [
    .optional "beliefsObj" (optional (dict (optional string))) fun beliefMap agent =>
      { agent with beliefMap },
    .optional "beliefs" (list string) fun beliefTexts agent => { agent with beliefTexts },
    .optional "bdiProgram" text fun program agent => { agent with program },
    .optional "bdiFunctions" (list string) fun functions agent =>
      { agent with functions }]

def PromptedAgent.record : Record PromptedAgent where
  name := "LlmAgentData"
  fields := [.optional "llmPrompt" text fun prompt agent => { agent with prompt }]

def ReasoningAgent.sharedFields : List (Field ReasoningAgent) :=
  AgentSettings.fields.map fun field =>
    field.within ReasoningAgent.agent fun settings agent => { agent with agent := settings }

def PromptedAgent.sharedFields : List (Field PromptedAgent) :=
  AgentSettings.fields.map fun field =>
    field.within PromptedAgent.agent fun settings agent => { agent with agent := settings }

def BehaviourKind.variants : List (String × BehaviourKind) :=
  BehaviourKind.all.map fun kind => (kind.className, kind)

def StartMode.variants : List (String × StartMode) :=
  [StartMode.absolute, StartMode.relative].map fun mode => (mode.name, mode)

def Behaviour.record : Record Behaviour where
  name := "BehaviourData"
  fields := [
    .optional "class" text fun className behaviour => { behaviour with className },
    .optional "type" (variant BehaviourKind.variants) fun kind behaviour =>
      { behaviour with kind },
    .lenient "period" number? fun period behaviour => { behaviour with period },
    (.lenient "start_at_mode" (variant? StartMode.variants) fun startMode behaviour =>
      { behaviour with startMode } : Field Behaviour).orNamed "start_mode",
    .lenient "start_at" string? fun startAt behaviour => { behaviour with startAt },
    (.lenient "start_at_offset_s" number? fun startOffset behaviour =>
      { behaviour with startOffset } : Field Behaviour).orNamed "start_offset",
    .optional "configCode" (dict string) fun code behaviour => { behaviour with code }]

def Envelope.record (name : String) : Record Envelope where
  name := name
  fields := [
    .optional "sender" text fun sender envelope => { envelope with sender },
    .optional "to" text fun recipient envelope => { envelope with recipient },
    .optional "body" text fun body envelope => { envelope with body },
    .optional "thread" text fun thread envelope => { envelope with thread },
    .optional "metadata" (dict .ok) fun metadata envelope => { envelope with metadata }]

def noteRecord : Record String where
  name := "StickyNoteData"
  fields := [.optional "text" text fun text _ => text]

/-- How the data of a type of node decodes; none for an unknown type. -/
def Payload.decoder? : (type : String) → Option (Json → Decoded Payload)
  | "agent" => some fun data => .agent <$> AgentSettings.record.decode {} data
  | "agentBDI" => some fun data => .reasoning <$>
      ReasoningAgent.record.decodeWith ReasoningAgent.sharedFields {} data
  | "agentLLM" => some fun data => .prompted <$>
      PromptedAgent.record.decodeWith PromptedAgent.sharedFields {} data
  | "behaviour" => some fun data => .behaviour <$> Behaviour.record.decode {} data
  | "template" => some fun data => .template <$>
      (Envelope.record "TemplateData").decode {} data
  | "message" => some fun data => .message <$>
      (Envelope.record "MessageData").decode {} data
  | "stickyNote" => some fun data => .note <$> noteRecord.decode "" data
  | _ => none

/-- A node whose data is not decoded yet. -/
structure NodeFrame where
  id : String := ""
  type : String := ""
  position : Option Position := none
  data : Json := .null
deriving DecidableEq

def NodeFrame.record : Record NodeFrame where
  name := "RawNode"
  fields := [
    .required "id" string fun id frame => { frame with id },
    .required "type" string fun type frame => { frame with type },
    .optional "position" (optional (Position.record.decode {})) fun position frame =>
      { frame with position },
    .optional "data" .ok fun data frame => { frame with data }]

/-- Data that is null stands for an empty object. -/
def NodeFrame.members (frame : NodeFrame) : Json :=
  if frame.data = .null then .object [] else frame.data

def NodeFrame.node (frame : NodeFrame) : Decoded Node :=
  match Payload.decoder? frame.type with
  | none => .error (.unknownNodeType frame.id frame.type)
  | some decode =>
      match decode frame.members with
      | .ok payload => .ok ⟨frame.id, frame.position, payload⟩
      | .error error => .error (.inNode frame.id error)

def Node.decode (value : Json) : Decoded Node := do
  (← NodeFrame.record.decode {} value).node

end AgentGraph
