import AgentGraph.Graph
import Mathlib.Data.List.Nodup

/-!
Edits of a graph, and what a single one can do to its nodes and edges.
-/

namespace AgentGraph

theorem EdgeKind.ofEnds?_eq_some {source target : Payload} {sourceHandle targetHandle : Handle}
    {kind : EdgeKind} :
    ofEnds? source target sourceHandle targetHandle = some kind ↔
      kind.fits source target = true ∧ kind.handles = (sourceHandle, targetHandle) := by
  constructor
  · intro found
    have satisfied := List.find?_some found
    obtain ⟨fits, handles⟩ := Bool.and_eq_true_iff.mp satisfied
    exact ⟨fits, beq_iff_eq.mp handles⟩
  · rintro ⟨fits, handles⟩
    -- No other kind asks for these handles.
    cases kind <;> cases handles <;> simp [ofEnds?, all, EdgeKind.handles, fits]

theorem hasOutgoing_iff {edges : List Edge} {source : String} {kind : EdgeKind} :
    hasOutgoing edges source kind = true ↔
      ∃ edge ∈ edges, edge.kind = kind ∧ edge.source = source ∧
        edge.sourceHandle = some kind.handles.1 := by
  rw [hasOutgoing, List.any_eq_true]
  refine exists_congr fun edge => and_congr_right fun _ => ?_
  rw [Bool.and_eq_true, Bool.and_eq_true, beq_iff_eq, beq_iff_eq, beq_iff_eq]
  constructor
  · intro leaves
    exact ⟨leaves.2, leaves.1.1, leaves.1.2⟩
  · intro leaves
    exact ⟨⟨leaves.2.1, leaves.2.2⟩, leaves.1⟩

/-- Friendships must not be loops; inheritance and templates leave a source once only. -/
theorem Connection.obstacle?_eq_none {connection : Connection} {edges : List Edge}
    {kind : EdgeKind} :
    connection.obstacle? edges kind = none ↔
      (kind = .friendship → connection.source ≠ connection.target) ∧
        (kind = .inheritance ∨ kind = .template →
          hasOutgoing edges connection.source kind = false) := by
  cases kind <;> simp [obstacle?]

/-- Whether a connection may be made, as an edge of this kind. -/
structure Connection.IsAllowed (connection : Connection) (nodes : List Node)
    (edges : List Edge) (kind : EdgeKind) : Prop where
  ends : ∃ source target, Node.find? nodes connection.source = some source ∧
    Node.find? nodes connection.target = some target ∧
      kind.fits source.payload target.payload = true
  handles : kind.handles = (connection.sourceHandle, connection.targetHandle)
  unopposed : connection.obstacle? edges kind = none

theorem Connection.classify_eq_ok {connection : Connection} {nodes : List Node}
    {edges : List Edge} {kind : EdgeKind} :
    connection.classify nodes edges = .ok kind ↔ connection.IsAllowed nodes edges kind := by
  constructor
  · intro classified
    unfold classify at classified
    split at classified
    · contradiction
    · contradiction
    · next source target sourceFound targetFound =>
        split at classified
        · contradiction
        · next other determined =>
            split at classified
            · contradiction
            · next unopposed =>
                injection classified with same
                subst same
                obtain ⟨fits, handles⟩ := EdgeKind.ofEnds?_eq_some.mp determined
                exact ⟨⟨source, target, sourceFound, targetFound, fits⟩, handles, unopposed⟩
  · rintro ⟨⟨source, target, sourceFound, targetFound, fits⟩, handles, unopposed⟩
    have determined := EdgeKind.ofEnds?_eq_some.mpr ⟨fits, handles⟩
    rw [classify, sourceFound, targetFound]
    simp only [determined, unopposed]

namespace Graph

inductive Edit where
  | addNode (node : Node)
  | updateNode (id : String) (change : Payload → Payload)
  | connect (connection : Connection)
  | removeEdge (id : String)
  | removeNode (id : String)

/-- The graph after an edit. One that finds nothing to remove changes nothing. -/
def edit (graph : Graph) : Edit → Graph
  | .addNode node => graph.addNode node
  | .updateNode id change => graph.updateNode id change
  | .connect connection => (graph.connect connection).2
  | .removeEdge id => ((graph.removeEdge id).map Prod.snd).getD graph
  | .removeNode id => ((graph.removeNode id).map Prod.snd).getD graph

def run (graph : Graph) (edits : List Edit) : Graph := edits.foldl edit graph

def nodeIds (graph : Graph) : List String := graph.nodes.map Node.id

variable {graph : Graph}

theorem nodeIds_addNode (node : Node) :
    (graph.addNode node).nodeIds = graph.nodeIds ++ [node.id] := by
  rw [nodeIds, addNode, List.map_append, nodeIds]
  rfl

theorem ids_updateFirst (id : String) (change : Payload → Payload) (nodes : List Node) :
    (updateFirst id change nodes).map Node.id = nodes.map Node.id := by
  induction nodes with
  | nil => rfl
  | cons node nodes ih =>
      rw [updateFirst]
      split
      · rfl
      · rw [List.map_cons, ih, List.map_cons]

theorem nodeIds_updateNode (id : String) (change : Payload → Payload) :
    (graph.updateNode id change).nodeIds = graph.nodeIds :=
  ids_updateFirst id change graph.nodes

theorem nodes_removeEdge {id : String} {edge : Edge} {rest : Graph}
    (removed : graph.removeEdge id = some (edge, rest)) :
    rest.nodes = graph.nodes ∧ rest.edges.Sublist graph.edges := by
  obtain ⟨_, _, same⟩ := Option.map_eq_some_iff.mp removed
  injection same with _ sameGraph
  subst sameGraph
  exact ⟨rfl, List.eraseP_sublist⟩

theorem removeNode_eq {id : String} {node : Node} {rest : Graph}
    (removed : graph.removeNode id = some (node, rest)) :
    rest.nodes = graph.nodes.eraseP (fun node => node.id == id) ∧
      rest.edges = graph.edges.filter fun edge => !edge.touches id := by
  obtain ⟨_, _, same⟩ := Option.map_eq_some_iff.mp removed
  injection same with _ sameGraph
  subst sameGraph
  exact ⟨rfl, rfl⟩

/-- With a node go all edges that touch its id, and no other id is lost. -/
theorem edges_removeNode {id : String} {node : Node} {rest : Graph}
    (removed : graph.removeNode id = some (node, rest)) :
    rest.edges = graph.edges.filter (fun edge => !edge.touches id) ∧
      ∀ other ∈ graph.nodeIds, other ≠ id → other ∈ rest.nodeIds := by
  obtain ⟨nodes, edges⟩ := removeNode_eq removed
  refine ⟨edges, fun other inside different => ?_⟩
  obtain ⟨node, held, rfl⟩ := List.mem_map.mp inside
  rw [nodeIds, nodes]
  refine List.mem_map_of_mem ((List.mem_eraseP_of_neg ?_).mpr held)
  exact fun same => different (beq_iff_eq.mp same)

theorem any_id_iff {edges : List Edge} {id : String} :
    (edges.any fun edge => edge.id == id) = true ↔ id ∈ edges.map Edge.id := by
  rw [List.any_eq_true, List.mem_map]
  exact exists_congr fun edge => and_congr_right fun _ => beq_iff_eq

theorem connect_eq_ok {connection : Connection} {edge : Edge} {connected : Graph}
    (made : graph.connect connection = (.ok edge, connected)) :
    ∃ kind, connection.IsAllowed graph.nodes graph.edges kind ∧
      connection.id ∉ graph.edges.map Edge.id ∧ edge = connection.edge kind ∧
        connected = { graph with edges := graph.edges ++ [edge] } := by
  unfold connect at made
  cases classified : connection.classify graph.nodes graph.edges with
  | error rejection =>
      rw [classified] at made
      injection made with answer
      contradiction
  | ok kind =>
      rw [classified] at made
      dsimp only at made
      split at made
      · injection made with answer
        contradiction
      · next absent =>
          injection made with answer same
          injection answer with sameEdge
          subst sameEdge same
          exact ⟨kind, Connection.classify_eq_ok.mp classified, mt any_id_iff.mpr absent, rfl, rfl⟩

/-- A refusal keeps the graph; it comes from the rules, or the edge is there already. -/
theorem connect_eq_error {connection : Connection} {rejection : Rejection} {after : Graph}
    (refused : graph.connect connection = (.error rejection, after)) :
    after = graph ∧ (connection.classify graph.nodes graph.edges = .error rejection ∨
      connection.id ∈ graph.edges.map Edge.id ∧ rejection = .alreadyConnected connection.id) := by
  unfold connect at refused
  cases classified : connection.classify graph.nodes graph.edges with
  | error reason =>
      rw [classified] at refused
      injection refused with answer same
      injection answer with sameReason
      exact ⟨same.symm, .inl (congrArg Except.error sameReason)⟩
  | ok kind =>
      rw [classified] at refused
      dsimp only at refused
      split at refused
      · next present =>
          injection refused with answer same
          injection answer with sameReason
          exact ⟨same.symm, .inr ⟨any_id_iff.mp present, sameReason.symm⟩⟩
      · injection refused with answer
        contradiction

end Graph

end AgentGraph
