import AgentGraph.Program.BehaviourClass

/-!
The imports of the generated program, each there if the graph uses it.
-/

namespace AgentGraph

inductive Import where
  | waiting
  | agent
  /-- The classes that behaviours of these kinds extend. -/
  | behaviours (kinds : List BehaviourKind)
  | message
  | template
  | reasoningAgent
  | datetime
  | framework
deriving DecidableEq

namespace Import

def text : Import → String
  | .waiting => "from spade import wait_until_finished"
  | .agent => "from spade.agent import Agent"
  | .behaviours kinds =>
      "from spade.behaviour import " ++
        ", ".intercalate (kinds.map BehaviourKind.className)
  | .message => "from spade.message import Message"
  | .template => "from spade.template import Template"
  | .reasoningAgent => "from spade_bdi.bdi import BDIAgent"
  | .datetime => "import datetime"
  | .framework => "import spade"

def kindsByName : List BehaviourKind :=
  [.cyclic, .fsm, .oneShot, .periodic, .timeout]

/-- The kinds of the behaviours among `nodes`, each once. -/
def behaviourKinds (nodes : List Node) : List BehaviourKind :=
  kindsByName.filter fun kind =>
    nodes.any fun node => node.payload.behaviour?.any fun behaviour => behaviour.kind == kind

def isUsed (nodes : List Node) : Import → Bool
  | .waiting => nodes.any Node.isAgent
  | .agent => nodes.any fun node => node.isAgent && !node.payload.isReasoning
  | .behaviours kinds => !kinds.isEmpty
  | .message => nodes.any fun node => node.payload.isMessage
  | .template => nodes.any fun node => node.payload.isTemplate
  | .reasoningAgent => nodes.any fun node => node.payload.isReasoning
  | .datetime => nodes.any fun node => node.payload.behaviour?.any Behaviour.isDated
  | .framework => true

def ofNodes (nodes : List Node) : List Import :=
  [waiting, agent, behaviours (behaviourKinds nodes), message, template, reasoningAgent,
    datetime, framework].filter (isUsed nodes)

end Import

end AgentGraph
