import AgentGraph.Edge.Basic
import AgentGraph.Node.Basic

/-!
Which connections are allowed, and what they mean. A rule asks for the kinds of
both nodes and for both handles; no two rules ask for the same handles.
-/

namespace AgentGraph

inductive Rejection where
  | unknownNode (id : String)
  | selfFriendship (id : String)
  | duplicateInheritance (id : String)
  | duplicateTemplate (id : String)
  | alreadyConnected (edgeId : String)
  | noMatchingRule (connection : Connection)
deriving DecidableEq

def Rejection.message : Rejection → String
  | .unknownNode id => "node not found: " ++ id
  | .selfFriendship id => "an agent cannot be friends with itself: " ++ id
  | .duplicateInheritance id =>
      "agent " ++ id ++ " already has an outgoing inheritance edge"
  | .duplicateTemplate id => "behaviour " ++ id ++ " is already bound to a template"
  | .alreadyConnected edgeId => "edge " ++ edgeId ++ " already exists"
  | .noMatchingRule connection =>
      "no edge type connects " ++ connection.source ++ " (" ++
        connection.sourceHandle.name ++ ") to " ++ connection.target ++ " (" ++
        connection.targetHandle.name ++ ")"

namespace EdgeKind

def fits (kind : EdgeKind) (source target : Payload) : Bool :=
  match kind with
  | .friendship | .inheritance => source.isAgent && target.isAgent
  | .agentBehaviour => source.isAgent && target.isBehaviour
  | .template => source.isBehaviour && target.isTemplate
  | .message => source.isBehaviour && target.isMessage

def handles : EdgeKind → Handle × Handle
  | .friendship => (.friendshipSource, .friendshipTarget)
  | .agentBehaviour => (.behaviour, .behaviour)
  | .inheritance => (.inheritanceSource, .inheritanceTarget)
  | .template => (.template, .template)
  | .message => (.message, .message)

def ofEnds? (source target : Payload) (sourceHandle targetHandle : Handle) :
    Option EdgeKind :=
  all.find? fun kind =>
    kind.fits source target && kind.handles == (sourceHandle, targetHandle)

end EdgeKind

/-- Whether an edge of this kind leaves `source` by the handle of its kind. -/
def hasOutgoing (edges : List Edge) (source : String) (kind : EdgeKind) : Bool :=
  edges.any fun edge =>
    edge.source == source && edge.sourceHandle == some kind.handles.1 &&
      edge.kind == kind

/-- What stands against a connection that would have this kind. -/
def Connection.obstacle? (connection : Connection) (edges : List Edge) :
    EdgeKind → Option Rejection
  | .friendship =>
      if connection.source = connection.target then
        some (.selfFriendship connection.source)
      else none
  | .inheritance =>
      if hasOutgoing edges connection.source .inheritance then
        some (.duplicateInheritance connection.source)
      else none
  | .template =>
      if hasOutgoing edges connection.source .template then
        some (.duplicateTemplate connection.source)
      else none
  | .agentBehaviour | .message => none

/-- The kind of edge that a connection makes. The source is looked up first. -/
def Connection.classify (connection : Connection) (nodes : List Node)
    (edges : List Edge) : Except Rejection EdgeKind :=
  match Node.find? nodes connection.source, Node.find? nodes connection.target with
  | none, _ => .error (.unknownNode connection.source)
  | some _, none => .error (.unknownNode connection.target)
  | some source, some target =>
      match EdgeKind.ofEnds? source.payload target.payload connection.sourceHandle
        connection.targetHandle with
      | none => .error (.noMatchingRule connection)
      | some kind =>
          match connection.obstacle? edges kind with
          | some rejection => .error rejection
          | none => .ok kind

end AgentGraph
