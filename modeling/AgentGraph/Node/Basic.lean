import AgentGraph.Json.Basic
import AgentGraph.Text.Blank

/-!
The nodes of an agent graph: agents of three kinds, behaviours, templates, messages
and notes. A node's payload holds what was typed into its form.
-/

namespace AgentGraph

structure Position where
  x : Binary64 := .finite Binary64.zero
  y : Binary64 := .finite Binary64.zero
deriving DecidableEq

structure AgentSettings where
  className : String := ""
  instanceName : String := ""
  host : String := ""
  port : Option UInt16 := none
  password : String := ""
  verifySecurity : Bool := false
  knowledge : Dict Json := Dict.empty
  setupCode : String := ""
deriving DecidableEq

structure ReasoningAgent where
  agent : AgentSettings := {}
  beliefMap : Option (Dict (Option String)) := none
  /-- Beliefs as texts `name` or `name:value`, for want of a map. -/
  beliefTexts : List String := []
  program : String := ""
  /-- Methods that the agent class gets. -/
  functions : List String := []
deriving DecidableEq

structure PromptedAgent where
  agent : AgentSettings := {}
  prompt : String := ""
deriving DecidableEq

inductive BehaviourKind where
  | cyclic
  | oneShot
  | timeout
  | periodic
  | fsm
deriving DecidableEq

def BehaviourKind.className : BehaviourKind → String
  | .cyclic => "CyclicBehaviour"
  | .oneShot => "OneShotBehaviour"
  | .timeout => "TimeoutBehaviour"
  | .periodic => "PeriodicBehaviour"
  | .fsm => "FSMBehaviour"

def BehaviourKind.all : List BehaviourKind :=
  [.cyclic, .oneShot, .timeout, .periodic, .fsm]

inductive StartMode where
  | absolute
  | relative
deriving DecidableEq

def StartMode.name : StartMode → String
  | .absolute => "absolute"
  | .relative => "relative"

structure Behaviour where
  className : String := ""
  kind : BehaviourKind := .cyclic
  period : Option Binary64 := none
  startMode : Option StartMode := none
  startAt : Option String := none
  /-- The delay of a relative start, in seconds. -/
  startOffset : Option Binary64 := none
  /-- The typed class definitions by the class they extend. -/
  code : Dict String := Dict.empty
deriving DecidableEq

/-- The class definition typed for the behaviour's own kind, unless it is blank. -/
def Behaviour.userCode? (behaviour : Behaviour) : Option String :=
  (behaviour.code.find? behaviour.kind.className).filter fun code =>
    !Text.isBlankText code

/-- What a template asks of messages, or what a message holds. -/
structure Envelope where
  sender : String := ""
  recipient : String := ""
  body : String := ""
  thread : String := ""
  metadata : Dict Json := Dict.empty
deriving DecidableEq

inductive Payload where
  | agent (settings : AgentSettings)
  | reasoning (agent : ReasoningAgent)
  | prompted (agent : PromptedAgent)
  | behaviour (behaviour : Behaviour)
  | template (envelope : Envelope)
  | message (envelope : Envelope)
  | note (text : String)
deriving DecidableEq

namespace Payload

def typeName : Payload → String
  | .agent _ => "agent"
  | .reasoning _ => "agentBDI"
  | .prompted _ => "agentLLM"
  | .behaviour _ => "behaviour"
  | .template _ => "template"
  | .message _ => "message"
  | .note _ => "stickyNote"

def agent? : Payload → Option AgentSettings
  | .agent settings => some settings
  | .reasoning special => some special.agent
  | .prompted special => some special.agent
  | _ => none

def mapAgent (change : AgentSettings → AgentSettings) : Payload → Payload
  | .agent settings => .agent (change settings)
  | .reasoning special => .reasoning { special with agent := change special.agent }
  | .prompted special => .prompted { special with agent := change special.agent }
  | other => other

def behaviour? : Payload → Option Behaviour
  | .behaviour settings => some settings
  | _ => none

def isAgent (payload : Payload) : Bool := payload.agent?.isSome

def isReasoning : Payload → Bool
  | .reasoning _ => true
  | _ => false

def isBehaviour : Payload → Bool
  | .behaviour _ => true
  | _ => false

def isTemplate : Payload → Bool
  | .template _ => true
  | _ => false

def isMessage : Payload → Bool
  | .message _ => true
  | _ => false

end Payload

structure Node where
  id : String
  position : Option Position := none
  payload : Payload
deriving DecidableEq

def Node.isAgent (node : Node) : Bool := node.payload.isAgent

def Node.find? (nodes : List Node) (id : String) : Option Node :=
  nodes.find? fun node => node.id == id

end AgentGraph
