import AgentGraph.Program.Statement

/-!
What the generated program names and does: the classes of behaviours, the numbers of
templates and messages, the order of agent classes, and the start-up.
-/

namespace AgentGraph

/-- A graph with everything that its program refers to. -/
structure Plan where
  settings : Settings
  nodes : List Node
  relations : Relations
  behaviourClasses : Dict String
  templateNumbers : Dict Nat
  messageNumbers : Dict Nat

namespace Plan

/-- The classes of the behaviours among `nodes` by id, after those of `found`;
a fallback is numbered by how many ids came before it. -/
def resolveBehaviours (found : Dict String) (taken : List String) :
    List Node → Dict String
  | [] => found
  | node :: rest =>
      match node.payload.behaviour? with
      | none => resolveBehaviours found taken rest
      | some behaviour =>
          let (className, taken) :=
            Naming.resolve "MyBehaviour" (found.size + 1) behaviour.className taken
          resolveBehaviours (found.insert node.id className) taken rest

/-- The nodes of one kind numbered by how many ids came before them. -/
def numbers (isCounted : Payload → Bool) (nodes : List Node) : Dict Nat :=
  (nodes.filter fun node => isCounted node.payload).foldl
    (fun found node => found.insert node.id (found.size + 1)) Dict.empty

def build (settings : Settings) (nodes : List Node) (relations : Relations) : Plan where
  settings := settings
  nodes := nodes
  relations := relations
  behaviourClasses := resolveBehaviours Dict.empty
    (relations.identities.values.map Identity.className ++ Naming.behaviourClasses nodes)
    nodes
  templateNumbers := numbers Payload.isTemplate nodes
  messageNumbers := numbers Payload.isMessage nodes

def agents (plan : Plan) : List Node := plan.nodes.filter Node.isAgent

def payload? (plan : Plan) (id : String) : Option Payload :=
  (Node.find? plan.nodes id).map Node.payload

def behaviourClassTexts (plan : Plan) : List String :=
  plan.nodes.filterMap fun node => do
    let behaviour ← node.payload.behaviour?
    let className ← plan.behaviourClasses.find? node.id
    return behaviour.classText className

def isReady (relations : Relations) (emitted : List String) (node : Node) : Bool :=
  (relations.parentsOf node.id).all fun parent => emitted.contains parent

/-- An agent and the parents whose classes come before its own. -/
structure Heir where
  node : Node
  parents : List String
deriving DecidableEq

/-- The first agent that is ready; where none is, the first one, which breaks a cycle. -/
def nextAgent? (relations : Relations) (emitted : List String) (remaining : List Node) :
    Option Node :=
  (remaining.find? (isReady relations emitted)).or remaining.head?

def withoutNext (relations : Relations) (emitted : List String) (remaining : List Node) :
    List Node :=
  if remaining.any (isReady relations emitted) then
    remaining.eraseP (isReady relations emitted)
  else remaining.tail

/-- The agents in the order of their classes; `count` is the number of `remaining`. -/
def inheritanceOrder (relations : Relations) :
    (count : Nat) → (emitted : List String) → (remaining : List Node) → List Heir
  | 0, _, _ => []
  | count + 1, emitted, remaining =>
      match nextAgent? relations emitted remaining with
      | none => []
      | some node =>
          let parents := (relations.parentsOf node.id).filter fun parent =>
            emitted.contains parent
          ⟨node, parents⟩ :: inheritanceOrder relations count (node.id :: emitted)
            (withoutNext relations emitted remaining)

def heirs (plan : Plan) : List Heir :=
  inheritanceOrder plan.relations plan.agents.length [] plan.agents

def classNames (plan : Plan) (agentIds : List String) : List String :=
  (agentIds.filterMap plan.relations.identity?).map Identity.className

/-- The texts of the agent classes, each after those that it extends. -/
def agentClassTexts (plan : Plan) : List String :=
  plan.heirs.filterMap fun heir => do
    let identity ← plan.relations.identity? heir.node.id
    return heir.node.payload.classText identity.className
      (plan.relations.friendsOf heir.node.id) (plan.classNames heir.parents)

def program? : Payload → Option String
  | .reasoning agent => if Text.isBlankText agent.program then none else some agent.program
  | _ => none

def reasoningFile? (plan : Plan) (payload : Payload) (identity : Identity) :
    Option String :=
  (program? payload).map fun _ =>
    plan.settings.reasoningFileName identity.instanceName

def creation? (plan : Plan) (node : Node) : Option Statement := do
  let agent ← node.payload.agent?
  let identity ← plan.relations.identity? node.id
  let password :=
    if agent.password.isEmpty then plan.settings.defaultPassword else agent.password
  return .createAgent identity password (plan.reasoningFile? node.payload identity)
    (agent.port.getD plan.settings.defaultPort) agent.verifySecurity

def helper (agent kind : String) (number : Nat) : String :=
  agent ++ "_" ++ kind ++ "_" ++ number.repr

def templateVariable (plan : Plan) (agent templateId : String) : String :=
  helper agent "template" (plan.templateNumbers.findD templateId 0)

def messageVariable (plan : Plan) (agent messageId : String) : String :=
  helper agent "message" (plan.messageNumbers.findD messageId 0)

/-- The variable of the behaviour at `place`, counted from zero. -/
def behaviourVariable (agent : String) (place : Nat) : String :=
  helper agent "behaviour" (place + 1)

def templateStatements (plan : Plan) (agent templateId : String) : List Statement :=
  match plan.payload? templateId with
  | some (.template envelope) =>
      envelope.statements .template (plan.templateVariable agent templateId)
  | _ => []

def messageStatements (plan : Plan) (agent messageId : String) : List Statement :=
  match plan.payload? messageId with
  | some (.message envelope) =>
      envelope.statements .message (plan.messageVariable agent messageId)
  | _ => []

/-- The message of a behaviour, if it is a message of the graph. -/
def boundMessage? (plan : Plan) (behaviourId : String) : Option String :=
  (plan.relations.message? behaviourId).filter plan.messageNumbers.contains

/-- The template of a behaviour, if it is a template of the graph. -/
def boundTemplate? (plan : Plan) (behaviourId : String) : Option String :=
  (plan.relations.template? behaviourId).filter plan.templateNumbers.contains

/-- The messages of an agent's behaviours, each once, in the order of first use. -/
def messagesOf (plan : Plan) (agentId : String) : List String :=
  ((plan.relations.behavioursOf agentId).filterMap plan.boundMessage?).foldl
    (fun found id => Relations.addOnce id found) []

def behaviourStatements (plan : Plan) (agent : String) (place : Nat)
    (behaviourId : String) : List Statement :=
  match plan.payload? behaviourId, plan.behaviourClasses.find? behaviourId with
  | some (.behaviour behaviour), some className =>
      let name := behaviourVariable agent place
      let template := (plan.boundTemplate? behaviourId).map (plan.templateVariable agent)
      let message := (plan.boundMessage? behaviourId).map (plan.messageVariable agent)
      [.createBehaviour name className (behaviour.arguments template)] ++
      (message.map (Statement.setMessage name)).toList ++
      [.addBehaviour agent name]
  | _, _ => []

def agentStatements (plan : Plan) (agentId : String) (identity : Identity) :
    List Statement :=
  let agent := identity.instanceName
  (plan.relations.templatesOf agentId).flatMap (plan.templateStatements agent) ++
  (plan.messagesOf agentId).flatMap (plan.messageStatements agent) ++
  (plan.relations.behavioursOf agentId).zipIdx.flatMap
    (fun (behaviourId, place) => plan.behaviourStatements agent place behaviourId) ++
  [.startAgent agent]

def identified (plan : Plan) : List (String × Identity) :=
  plan.agents.filterMap fun node =>
    (plan.relations.identity? node.id).map fun identity => (node.id, identity)

/-- The body of the main function. All instances are made first. -/
def statements (plan : Plan) : List Statement :=
  if plan.agents.isEmpty then [.nothing]
  else
    plan.agents.filterMap plan.creation? ++
    plan.identified.flatMap (fun (agentId, identity) =>
      plan.agentStatements agentId identity) ++
    [.await (plan.identified.map fun (_, identity) => identity.instanceName)]

end Plan

end AgentGraph
