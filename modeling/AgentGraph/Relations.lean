import AgentGraph.Graph
import AgentGraph.Naming.Fallback
import AgentGraph.Settings.Basic

/-!
What the edges of a graph mean for its agents and behaviours, by node id. Edges
with an unknown end, or whose ends do not fit their kind, mean nothing.
-/

namespace AgentGraph

/-- The names of an agent in the generated program, and its address. -/
structure Identity where
  instanceName : String
  className : String
  jid : String
deriving DecidableEq

structure Relations where
  identities : Dict Identity := Dict.empty
  /-- Behaviours of an agent in the order of the edges. -/
  behaviours : Dict (List String) := Dict.empty
  /-- Addresses of an agent's friends, each once and in order. -/
  friends : Dict (Dict Unit) := Dict.empty
  /-- Agents whose classes an agent's class extends, in the order of the edges. -/
  parents : Dict (List String) := Dict.empty
  template : Dict String := Dict.empty
  message : Dict String := Dict.empty
  /-- Templates of an agent's behaviours, each once, in the order of first use. -/
  templates : Dict (List String) := Dict.empty
deriving DecidableEq

namespace Relations

/-- The identities of the agents among `nodes`, the first of which has the number
`number`; names and classes already taken are not used as fallbacks. -/
def resolveAgents (settings : Settings) :
    (number : Nat) → (names classes : List String) → List Node → List (String × Identity)
  | _, _, _, [] => []
  | number, names, classes, node :: rest =>
      match node.payload.agent? with
      | none => resolveAgents settings number names classes rest
      | some agent =>
          let (instanceName, names) :=
            Naming.resolve "agent" number agent.instanceName names
          let (className, classes) :=
            Naming.resolve "MyAgent" number agent.className classes
          let jid := instanceName ++ "@" ++ Text.trimmedOr agent.host settings.defaultHost
          (node.id, ⟨instanceName, className, jid⟩) ::
            resolveAgents settings (number + 1) names classes rest

def identitiesOf (settings : Settings) (nodes : List Node) : Dict Identity :=
  Dict.ofList (resolveAgents settings 1 (Naming.instanceNames nodes)
    (Naming.allClasses nodes) nodes)

def addOnce (value : String) (values : List String) : List String :=
  if value ∈ values then values else values ++ [value]

def identity? (relations : Relations) (agentId : String) : Option Identity :=
  relations.identities.find? agentId

def jid? (relations : Relations) (agentId : String) : Option String :=
  (relations.identity? agentId).map Identity.jid

def addFriend (relations : Relations) (agentId jid : String) : Relations :=
  { relations with
    friends := relations.friends.update agentId Dict.empty (·.insert jid ()) }

/-- The relations with what an edge of this kind means, whose ends fit it. -/
def relate (relations : Relations) (source target : String) : EdgeKind → Relations
  | .agentBehaviour => { relations with
      behaviours := relations.behaviours.update source [] (· ++ [target]) }
  | .friendship =>
      if source = target then relations
      else match relations.jid? source, relations.jid? target with
        | some sourceJid, some targetJid =>
            (relations.addFriend source targetJid).addFriend target sourceJid
        | _, _ => relations
  | .inheritance =>
      if source = target then relations
      else { relations with
        parents := relations.parents.update target [] (addOnce source) }
  | .template => { relations with template := relations.template.insert source target }
  | .message => { relations with message := relations.message.insert source target }

/-- The last of `nodes` with this id. -/
def endOf? (nodes : List Node) (id : String) : Option Node :=
  Node.find? nodes.reverse id

def addEdge (nodes : List Node) (relations : Relations) (edge : Edge) : Relations :=
  match endOf? nodes edge.source, endOf? nodes edge.target with
  | some source, some target =>
      if edge.kind.fits source.payload target.payload then
        relations.relate edge.source edge.target edge.kind
      else relations
  | _, _ => relations

def templatesOfBehaviours (template : Dict String) (behaviours : List String) :
    List String :=
  (behaviours.filterMap template.find?).foldl (fun found id => addOnce id found) []

def ofNodes (settings : Settings) (nodes : List Node) : Relations :=
  let identities := identitiesOf settings nodes
  { identities
    behaviours := identities.map fun _ _ => []
    friends := identities.map fun _ _ => Dict.empty }

def build (settings : Settings) (nodes : List Node) (edges : List Edge) : Relations :=
  let relations := edges.foldl (addEdge nodes) (ofNodes settings nodes)
  { relations with
    templates := relations.behaviours.map fun _ behaviours =>
      templatesOfBehaviours relations.template behaviours }

def behavioursOf (relations : Relations) (agentId : String) : List String :=
  relations.behaviours.findD agentId []

def friendsOf (relations : Relations) (agentId : String) : List String :=
  (relations.friends.findD agentId Dict.empty).keys

def parentsOf (relations : Relations) (agentId : String) : List String :=
  relations.parents.findD agentId []

def template? (relations : Relations) (behaviourId : String) : Option String :=
  relations.template.find? behaviourId

def message? (relations : Relations) (behaviourId : String) : Option String :=
  relations.message.find? behaviourId

def templatesOf (relations : Relations) (agentId : String) : List String :=
  relations.templates.findD agentId []

end Relations

end AgentGraph
