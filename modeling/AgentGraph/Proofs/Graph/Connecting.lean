import AgentGraph.Proofs.Graph.Edits

/-!
What a request for a connection does to a graph. One that is refused leaves everything as it was.
One that is allowed puts its edge behind the others, and to remove the edge by its id gives the
graph back, whatever ids the other edges have.
-/

namespace AgentGraph

namespace Graph

variable {graph : Graph} {connection : Connection}

/-- The edge that the request makes, or why it makes none. -/
def answer (graph : Graph) (connection : Connection) : Except Rejection Edge :=
  (graph.connect connection).1

theorem answer_eq (graph : Graph) (connection : Connection) :
    graph.answer connection =
      (connection.classify graph.nodes graph.edges).bind fun kind =>
        if connection.id ∈ graph.edges.map Edge.id then
          .error (.alreadyConnected connection.id)
        else .ok (connection.edge kind) := by
  rw [answer, connect]
  cases connection.classify graph.nodes graph.edges with
  | error rejection => rfl
  | ok kind =>
      simp only [any_id_iff, Except.bind]
      split
      · rfl
      · rfl

theorem edit_connect_of_error {rejection : Rejection} {after : Graph}
    (refused : graph.connect connection = (.error rejection, after)) :
    graph.edit (.connect connection) = graph := by
  rw [edit, refused]
  exact (connect_eq_error refused).1

theorem edit_connect_of_ok {edge : Edge} {connected : Graph}
    (made : graph.connect connection = (.ok edge, connected)) :
    graph.edit (.connect connection) = connected := by
  rw [edit, made]

theorem edit_connect_eq (graph : Graph) (connection : Connection) :
    graph.edit (.connect connection) =
      { graph with edges := graph.edges ++ (graph.answer connection).toOption.toList } := by
  rcases outcome : graph.connect connection with ⟨rejection | edge, after⟩
  · rw [edit_connect_of_error outcome, answer, outcome]
    simp [Except.toOption]
  · obtain ⟨kind, _, _, rfl, rfl⟩ := connect_eq_ok outcome
    rw [edit_connect_of_ok outcome, answer, outcome]
    rfl

theorem removeEdge_concat {edge : Edge} (new : edge.id ∉ graph.edges.map Edge.id) :
    removeEdge { graph with edges := graph.edges ++ [edge] } edge.id = some (edge, graph) := by
  have others : ∀ other ∈ graph.edges, ¬(other.id == edge.id) = true := by
    intro other inside same
    exact new (List.mem_map.mpr ⟨other, inside, beq_iff_eq.mp same⟩)
  have found : (graph.edges ++ [edge]).find? (fun other => other.id == edge.id) = some edge := by
    rw [List.find?_append, List.find?_eq_none.mpr others]
    simp
  have rest : (graph.edges ++ [edge]).eraseP (fun other => other.id == edge.id) = graph.edges := by
    rw [List.eraseP_append_right _ others]
    simp
  simp only [removeEdge, found, rest, Option.map_some]

/-- What comes of a request: all or nothing, and nothing that cannot be undone. -/
structure IsAtomic (graph : Graph) (connection : Connection) : Prop where
  refused : ∀ rejection after, graph.connect connection = (.error rejection, after) →
    after = graph ∧ graph.edit (.connect connection) = graph ∧
      (connection.classify graph.nodes graph.edges = .error rejection ∨
        connection.id ∈ graph.edges.map Edge.id ∧ rejection = .alreadyConnected connection.id)
  made : ∀ edge connected, graph.connect connection = (.ok edge, connected) →
    graph.edit (.connect connection) = connected ∧
      connected.nodes = graph.nodes ∧ connected.edges = graph.edges ++ [edge] ∧
      edge.connection? = some connection ∧
      connection.classify graph.nodes graph.edges = .ok edge.kind ∧
      connected.removeEdge edge.id = some (edge, graph)

theorem isAtomic_connect (graph : Graph) (connection : Connection) :
    graph.IsAtomic connection where
  refused rejection after refused := by
    obtain ⟨same, reason⟩ := connect_eq_error refused
    exact ⟨same, edit_connect_of_error refused, reason⟩
  made edge connected made := by
    have after := edit_connect_of_ok made
    obtain ⟨kind, allowed, new, rfl, rfl⟩ := connect_eq_ok made
    exact ⟨after, rfl, rfl, rfl, Connection.classify_eq_ok.mpr allowed, removeEdge_concat new⟩

/-- The edges that a list of requests makes, one after the other. -/
def madeBy : Graph → List Connection → List Edge
  | _, [] => []
  | graph, connection :: connections =>
      (graph.answer connection).toOption.toList ++
        madeBy (graph.edit (.connect connection)) connections

theorem edit_removeEdge_edit_connect {edge : Edge} {connected : Graph}
    (made : graph.connect connection = (.ok edge, connected)) :
    (graph.edit (.connect connection)).edit (.removeEdge edge.id) = graph := by
  rw [edit_connect_of_ok made]
  obtain ⟨kind, _, new, rfl, rfl⟩ := connect_eq_ok made
  rw [edit, removeEdge_concat new]
  rfl

/-- To remove all edges that were made, the latest one first, undoes a run of requests. -/
theorem run_removeEdge_madeBy (graph : Graph) (connections : List Connection) :
    (graph.run (connections.map .connect)).run
      ((graph.madeBy connections).reverse.map fun edge => .removeEdge edge.id) = graph := by
  induction connections generalizing graph with
  | nil => rfl
  | cons connection connections ih =>
      -- The later edges are gone before the first one is removed.
      have later := ih (graph.edit (.connect connection))
      unfold run at later ⊢
      rw [madeBy, List.reverse_append, List.map_append, List.foldl_append, List.map_cons,
        List.foldl_cons, later]
      rcases outcome : graph.connect connection with ⟨rejection | edge, after⟩
      · rw [edit_connect_of_error outcome, answer, outcome]
        rfl
      · have undone := edit_removeEdge_edit_connect outcome
        rw [answer, outcome]
        exact undone

end Graph

end AgentGraph
