/-!
The edges of an agent graph: what they mean, and the handles they are tied to.
-/

namespace AgentGraph

inductive EdgeKind where
  | friendship
  | agentBehaviour
  | inheritance
  | template
  | message
deriving DecidableEq

namespace EdgeKind

def name : EdgeKind → String
  | .friendship => "friendship"
  | .agentBehaviour => "agentBehaviour"
  | .inheritance => "inheritance"
  | .template => "template"
  | .message => "message"

def all : List EdgeKind :=
  [.friendship, .agentBehaviour, .inheritance, .template, .message]

end EdgeKind

/-- A named point of a node where an edge may end. -/
inductive Handle where
  | friendshipSource
  | friendshipTarget
  | behaviour
  | inheritanceSource
  | inheritanceTarget
  | template
  | message
deriving DecidableEq

namespace Handle

def name : Handle → String
  | .friendshipSource => "friendship-source"
  | .friendshipTarget => "friendship-target"
  | .behaviour => "behaviour"
  | .inheritanceSource => "inheritance-source"
  | .inheritanceTarget => "inheritance-target"
  | .template => "template"
  | .message => "message"

def all : List Handle :=
  [.friendshipSource, .friendshipTarget, .behaviour, .inheritanceSource,
    .inheritanceTarget, .template, .message]

end Handle

/-- A request to tie a handle of one node to a handle of another. -/
structure Connection where
  source : String
  target : String
  sourceHandle : Handle
  targetHandle : Handle
deriving DecidableEq

def Connection.id (connection : Connection) : String :=
  "xy-edge__" ++ connection.source ++ connection.sourceHandle.name ++ "-" ++
    connection.target ++ connection.targetHandle.name

structure Edge where
  id : String
  source : String
  target : String
  sourceHandle : Option Handle := none
  targetHandle : Option Handle := none
  kind : EdgeKind
deriving DecidableEq

namespace Edge

def touches (edge : Edge) (nodeId : String) : Bool :=
  edge.source == nodeId || edge.target == nodeId

def connection? (edge : Edge) : Option Connection :=
  match edge.sourceHandle, edge.targetHandle with
  | some sourceHandle, some targetHandle =>
      some ⟨edge.source, edge.target, sourceHandle, targetHandle⟩
  | _, _ => none

end Edge

def Connection.edge (connection : Connection) (kind : EdgeKind) : Edge where
  id := connection.id
  source := connection.source
  target := connection.target
  sourceHandle := some connection.sourceHandle
  targetHandle := some connection.targetHandle
  kind := kind

end AgentGraph
