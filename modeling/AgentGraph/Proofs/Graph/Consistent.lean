import AgentGraph.Proofs.Graph.Edits
import AgentGraph.Proofs.Relations.Ends

/-!
What all runs of edits keep: edges are those of allowed connections, end at nodes of the
graph and differ in their ids, and no two edges of inheritance, and no two of templates,
leave the same source.
-/

namespace AgentGraph

/-- Whether the edge is one that a connection makes between nodes with these ids. -/
structure Edge.IsMade (nodeIds : List String) (edge : Edge) : Prop where
  source : edge.source ∈ nodeIds
  target : edge.target ∈ nodeIds
  id : edge.connection?.map Connection.id = some edge.id
  sourceHandle : edge.sourceHandle = some edge.kind.handles.1
  targetHandle : edge.targetHandle = some edge.kind.handles.2
  loopless : edge.kind = .friendship → edge.source ≠ edge.target

theorem Edge.IsMade.of_ends {nodeIds others : List String} {edge : Edge}
    (made : edge.IsMade nodeIds) (kept : ∀ id ∈ nodeIds, edge.touches id = true → id ∈ others) :
    edge.IsMade others :=
  { made with
    source := kept _ made.source (by simp [touches])
    target := kept _ made.target (by simp [touches]) }

/-- The sources of the edges of this kind, one for each edge. -/
def sourcesOf (kind : EdgeKind) (edges : List Edge) : List String :=
  (edges.filter fun edge => edge.kind == kind).map Edge.source

theorem sourcesOf_sublist {kind : EdgeKind} {edges fewer : List Edge}
    (sublist : fewer.Sublist edges) : (sourcesOf kind fewer).Sublist (sourcesOf kind edges) :=
  (sublist.filter _).map _

theorem mem_sourcesOf {kind : EdgeKind} {edges : List Edge} {source : String} :
    source ∈ sourcesOf kind edges ↔ ∃ edge ∈ edges, edge.kind = kind ∧ edge.source = source := by
  simp [sourcesOf, and_assoc]

theorem nodup_concat {α : Type} {values : List α} {last : α} (nodup : values.Nodup)
    (new : last ∉ values) : (values ++ [last]).Nodup := by
  rw [List.nodup_middle, List.append_nil]
  exact List.nodup_cons.mpr ⟨new, nodup⟩

theorem nodup_sourcesOf_concat {kind : EdgeKind} {edges : List Edge} {edge : Edge}
    (nodup : (sourcesOf kind edges).Nodup)
    (new : edge.kind = kind → edge.source ∉ sourcesOf kind edges) :
    (sourcesOf kind (edges ++ [edge])).Nodup := by
  rw [sourcesOf, List.filter_append, List.map_append]
  by_cases same : edge.kind = kind
  · rw [List.filter_singleton, beq_iff_eq.mpr same]
    exact nodup_concat nodup (new same)
  · rw [List.filter_singleton, beq_eq_false_iff_ne.mpr same]
    exact (List.append_nil _).symm ▸ nodup

/-- The look-up before a connection finds every edge of its kind that a connection made. -/
theorem not_mem_sourcesOf {kind : EdgeKind} {edges : List Edge} {source : String}
    {nodeIds : List String} (made : ∀ edge ∈ edges, edge.IsMade nodeIds)
    (free : hasOutgoing edges source kind = false) : source ∉ sourcesOf kind edges := by
  intro inside
  obtain ⟨edge, held, rfl, rfl⟩ := mem_sourcesOf.mp inside
  have found : hasOutgoing edges edge.source edge.kind = true :=
    hasOutgoing_iff.mpr ⟨edge, held, rfl, rfl, (made edge held).sourceHandle⟩
  rw [free] at found
  contradiction

theorem Connection.IsAllowed.isMade {connection : Connection} {nodes : List Node}
    {edges : List Edge} {kind : EdgeKind} (allowed : connection.IsAllowed nodes edges kind) :
    (connection.edge kind).IsMade (nodes.map Node.id) := by
  obtain ⟨⟨source, target, sourceFound, targetFound, _⟩, handles, unopposed⟩ := allowed
  obtain ⟨sourceInside, sourceId⟩ := Node.of_find? sourceFound
  obtain ⟨targetInside, targetId⟩ := Node.of_find? targetFound
  exact {
    source := List.mem_map.mpr ⟨source, sourceInside, sourceId⟩
    target := List.mem_map.mpr ⟨target, targetInside, targetId⟩
    id := rfl
    sourceHandle := congrArg some (congrArg Prod.fst handles).symm
    targetHandle := congrArg some (congrArg Prod.snd handles).symm
    loopless := (obstacle?_eq_none.mp unopposed).1 }

namespace Graph

/-- What every graph is that comes about by edits. -/
structure IsConsistent (graph : Graph) : Prop where
  made : ∀ edge ∈ graph.edges, edge.IsMade graph.nodeIds
  edgeIds_nodup : (graph.edges.map Edge.id).Nodup
  inheritance_nodup : (sourcesOf .inheritance graph.edges).Nodup
  template_nodup : (sourcesOf .template graph.edges).Nodup

variable {graph : Graph}

/-- Edges may go, and nodes that they do not end at. -/
theorem IsConsistent.of_sublist {rest : Graph} (consistent : graph.IsConsistent)
    (sublist : rest.edges.Sublist graph.edges)
    (kept : ∀ edge ∈ rest.edges, ∀ id ∈ graph.nodeIds, edge.touches id = true →
      id ∈ rest.nodeIds) : rest.IsConsistent where
  made edge inside := (consistent.made edge (sublist.subset inside)).of_ends (kept edge inside)
  edgeIds_nodup := consistent.edgeIds_nodup.sublist (sublist.map _)
  inheritance_nodup := consistent.inheritance_nodup.sublist (sourcesOf_sublist sublist)
  template_nodup := consistent.template_nodup.sublist (sourcesOf_sublist sublist)

theorem IsConsistent.nodup_sourcesOf_connect {connection : Connection} {kind single : EdgeKind}
    (consistent : graph.IsConsistent)
    (allowed : connection.IsAllowed graph.nodes graph.edges kind)
    (isSingle : single = .inheritance ∨ single = .template)
    (nodup : (sourcesOf single graph.edges).Nodup) :
    (sourcesOf single (graph.edges ++ [connection.edge kind])).Nodup := by
  apply nodup_sourcesOf_concat nodup
  rintro rfl
  have free := (Connection.obstacle?_eq_none.mp allowed.unopposed).2 isSingle
  exact not_mem_sourcesOf consistent.made free

theorem IsConsistent.connect {connection : Connection} {kind : EdgeKind}
    (consistent : graph.IsConsistent)
    (allowed : connection.IsAllowed graph.nodes graph.edges kind)
    (new : connection.id ∉ graph.edges.map Edge.id) :
    IsConsistent { graph with edges := graph.edges ++ [connection.edge kind] } where
  made edge inside := by
    rcases List.mem_append.mp inside with old | added
    · exact consistent.made edge old
    · rw [List.mem_singleton.mp added]
      exact allowed.isMade
  edgeIds_nodup := by
    rw [List.map_append]
    exact nodup_concat consistent.edgeIds_nodup new
  inheritance_nodup :=
    consistent.nodup_sourcesOf_connect allowed (.inl rfl) consistent.inheritance_nodup
  template_nodup :=
    consistent.nodup_sourcesOf_connect allowed (.inr rfl) consistent.template_nodup

theorem IsConsistent.edit (consistent : graph.IsConsistent) (edit : Edit) :
    (graph.edit edit).IsConsistent := by
  cases edit with
  | addNode node =>
      refine consistent.of_sublist (List.Sublist.refl _) fun _ _ id inside _ => ?_
      rw [Graph.edit, nodeIds_addNode]
      exact List.mem_append_left _ inside
  | updateNode id change =>
      refine consistent.of_sublist (List.Sublist.refl _) fun _ _ id inside _ => ?_
      rwa [Graph.edit, nodeIds_updateNode]
  | connect connection =>
      rw [Graph.edit]
      rcases made : graph.connect connection with ⟨rejection | edge, after⟩
      · rw [(connect_eq_error made).1]
        exact consistent
      · obtain ⟨kind, allowed, new, rfl, rfl⟩ := connect_eq_ok made
        exact consistent.connect allowed new
  | removeEdge id =>
      rw [Graph.edit]
      cases removed : graph.removeEdge id with
      | none => exact consistent
      | some entry =>
          obtain ⟨sameNodes, sublist⟩ := nodes_removeEdge removed
          have sameIds : entry.2.nodeIds = graph.nodeIds := congrArg (List.map Node.id) sameNodes
          exact consistent.of_sublist sublist fun _ _ id inside _ => sameIds ▸ inside
  | removeNode id =>
      rw [Graph.edit]
      cases removed : graph.removeNode id with
      | none => exact consistent
      | some entry =>
          obtain ⟨edges, kept⟩ := edges_removeNode removed
          have sublist : entry.2.edges.Sublist graph.edges := edges ▸ List.filter_sublist
          refine consistent.of_sublist sublist fun edge inside other otherInside touched => ?_
          apply kept other otherInside
          rintro rfl
          have apart := (List.mem_filter.mp (edges ▸ inside)).2
          rw [touched] at apart
          contradiction

theorem IsConsistent.run {edits : List Edit} (consistent : graph.IsConsistent) :
    (graph.run edits).IsConsistent := by
  induction edits generalizing graph with
  | nil => exact consistent
  | cons edit edits ih => exact ih (consistent.edit edit)

/-- Whatever edits are made from the empty graph on, and in whatever order. -/
theorem isConsistent_run (edits : List Edit) : (Graph.run {} edits).IsConsistent := by
  have empty : IsConsistent {} :=
    ⟨List.forall_mem_nil _, List.nodup_nil, List.nodup_nil, List.nodup_nil⟩
  exact empty.run

end Graph

end AgentGraph
