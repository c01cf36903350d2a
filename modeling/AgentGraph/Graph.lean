import AgentGraph.Rule

/-!
Graphs and their edits. Edges come into being only by allowed connections, and a
node takes its edges with it.
-/

namespace AgentGraph

structure Graph where
  nodes : List Node := []
  edges : List Edge := []
deriving DecidableEq

namespace Graph

def node? (graph : Graph) (id : String) : Option Node := Node.find? graph.nodes id

def addNode (graph : Graph) (node : Node) : Graph :=
  { graph with nodes := graph.nodes ++ [node] }

def updateFirst (id : String) (change : Payload → Payload) : List Node → List Node
  | [] => []
  | node :: rest =>
      if node.id = id then { node with payload := change node.payload } :: rest
      else node :: updateFirst id change rest

def updateNode (graph : Graph) (id : String) (change : Payload → Payload) : Graph :=
  { graph with nodes := updateFirst id change graph.nodes }

/-- The edge of a connection or why it is refused, and the graph after the request.
A connection whose edge is there already is refused. -/
def connect (graph : Graph) (connection : Connection) : Except Rejection Edge × Graph :=
  match connection.classify graph.nodes graph.edges with
  | .error rejection => (.error rejection, graph)
  | .ok kind =>
      if graph.edges.any fun edge => edge.id == connection.id then
        (.error (.alreadyConnected connection.id), graph)
      else
        let edge := connection.edge kind
        (.ok edge, { graph with edges := graph.edges ++ [edge] })

def removeEdge (graph : Graph) (id : String) : Option (Edge × Graph) :=
  (graph.edges.find? fun edge => edge.id == id).map fun edge =>
    (edge, { graph with edges := graph.edges.eraseP fun edge => edge.id == id })

/-- The first node of this id, and the graph without it and without every edge that
touches the id. -/
def removeNode (graph : Graph) (id : String) : Option (Node × Graph) :=
  (graph.node? id).map fun node =>
    (node, {
      nodes := graph.nodes.eraseP fun node => node.id == id
      edges := graph.edges.filter fun edge => !edge.touches id })

end Graph

end AgentGraph
