import AgentGraph.Proofs.Graph.Connecting

/-!
Requests that do not get in each other's way. What is already there stands against a request only
by its id, or by an inheritance or a template of the same source; requests apart in both are
answered alike in any order, and make the same edges.
-/

namespace AgentGraph

namespace Connection

/-- Whether the connection is between the two handles that the kind asks for. -/
def AsksFor (connection : Connection) (kind : EdgeKind) : Prop :=
  kind.handles = (connection.sourceHandle, connection.targetHandle)

/-- Whether both would be the one inheritance, or the one template, of the same source. -/
def Competes (first second : Connection) : Prop :=
  first.source = second.source ∧
    (first.AsksFor .inheritance ∧ second.AsksFor .inheritance ∨
      first.AsksFor .template ∧ second.AsksFor .template)

/-- Requests with different edges that do not compete. -/
structure IsIndependent (first second : Connection) : Prop where
  ids : first.id ≠ second.id
  apart : ¬first.Competes second

instance (connection : Connection) (kind : EdgeKind) : Decidable (connection.AsksFor kind) :=
  inferInstanceAs (Decidable (_ = _))

instance (first second : Connection) : Decidable (first.Competes second) :=
  inferInstanceAs (Decidable (_ ∧ _))

variable {first second connection : Connection} {nodes : List Node} {edges others : List Edge}
  {kind wanted : EdgeKind}

theorem IsIndependent.symm (independent : first.IsIndependent second) :
    second.IsIndependent first where
  ids := independent.ids.symm
  apart := by
    intro competes
    apply independent.apart
    exact ⟨competes.1.symm, competes.2.imp And.symm And.symm⟩

theorem hasOutgoing_concat_edge (asks : first.AsksFor kind) (wants : second.AsksFor wanted)
    (apart : ¬first.Competes second) (isSingle : wanted = .inheritance ∨ wanted = .template) :
    hasOutgoing (edges ++ [first.edge kind]) second.source wanted =
      hasOutgoing edges second.source wanted := by
  rw [Bool.eq_iff_iff, hasOutgoing_iff, hasOutgoing_iff]
  constructor
  · rintro ⟨edge, inside, rfl, source, handle⟩
    rcases List.mem_append.mp inside with old | new
    · exact ⟨edge, old, rfl, source, handle⟩
    · rw [List.mem_singleton.mp new] at source wants isSingle
      refine absurd ⟨source, ?_⟩ apart
      rcases isSingle with rfl | rfl
      · exact .inl ⟨asks, wants⟩
      · exact .inr ⟨asks, wants⟩
  · rintro ⟨edge, old, leaves⟩
    exact ⟨edge, List.mem_append_left _ old, leaves⟩

theorem obstacle?_concat_edge (asks : first.AsksFor kind) (wants : second.AsksFor wanted)
    (apart : ¬first.Competes second) :
    second.obstacle? (edges ++ [first.edge kind]) wanted = second.obstacle? edges wanted := by
  have outgoing := @hasOutgoing_concat_edge first second edges kind wanted asks wants apart
  cases wanted with
  | friendship | agentBehaviour | message => rfl
  | inheritance => rw [obstacle?, obstacle?, outgoing (.inl rfl)]
  | template => rw [obstacle?, obstacle?, outgoing (.inr rfl)]

theorem classify_congr (same : ∀ kind, connection.AsksFor kind →
      connection.obstacle? edges kind = connection.obstacle? others kind) :
    connection.classify nodes edges = connection.classify nodes others := by
  unfold classify
  cases Node.find? nodes connection.source with
  | none => rfl
  | some source =>
      cases Node.find? nodes connection.target with
      | none => rfl
      | some target =>
          cases determined : EdgeKind.ofEnds? source.payload target.payload
              connection.sourceHandle connection.targetHandle with
          | none => simp only [determined]
          | some kind =>
              -- The edges are asked only for what stands against this one kind.
              have asks : connection.AsksFor kind := (EdgeKind.ofEnds?_eq_some.mp determined).2
              simp only [determined, same kind asks]

end Connection

namespace Graph

open Connection

variable {graph : Graph} {first second : Connection}

theorem answer_edit_connect (independent : first.IsIndependent second) :
    (graph.edit (.connect first)).answer second = graph.answer second := by
  rcases outcome : graph.connect first with ⟨rejection | edge, after⟩
  · rw [edit_connect_of_error outcome]
  · rw [edit_connect_of_ok outcome]
    obtain ⟨kind, allowed, _, rfl, rfl⟩ := connect_eq_ok outcome
    have classified : second.classify graph.nodes (graph.edges ++ [first.edge kind]) =
        second.classify graph.nodes graph.edges :=
      classify_congr fun wanted wants =>
        obstacle?_concat_edge allowed.handles wants independent.apart
    have known : second.id ∈ (graph.edges ++ [first.edge kind]).map Edge.id ↔
        second.id ∈ graph.edges.map Edge.id := by
      rw [List.map_append, List.mem_append]
      refine or_iff_left fun same => independent.ids ?_
      exact (List.mem_singleton.mp same).symm
    rw [answer_eq, answer_eq]
    simp only [classified, known]

/-- Requests that are apart from each other are answered as in the graph before them all. -/
theorem run_connect_eq {connections : List Connection} (graph : Graph)
    (independent : connections.Pairwise IsIndependent) :
    graph.run (connections.map .connect) =
      { graph with
        edges := graph.edges ++
          connections.filterMap fun connection => (graph.answer connection).toOption } := by
  induction connections generalizing graph with
  | nil => simp [run]
  | cons connection connections ih =>
      obtain ⟨apart, rest⟩ := List.pairwise_cons.mp independent
      -- To those that follow, the graph after the first request is as good as the one before it.
      have answers : (connections.filterMap fun other =>
            ((graph.edit (.connect connection)).answer other).toOption) =
          connections.filterMap fun other => (graph.answer other).toOption := by
        apply List.filterMap_congr
        intro other inside
        rw [answer_edit_connect (apart other inside)]
      change (graph.edit (.connect connection)).run (connections.map .connect) = _
      rw [ih _ rest, answers, edit_connect_eq]
      cases made : (graph.answer connection).toOption with
      | none => simp [made]
      | some edge => simp [made]

/-- The order of such requests matters for the order of the new edges only. -/
theorem edges_run_perm {connections reordered : List Connection} (graph : Graph)
    (perm : connections.Perm reordered) (independent : connections.Pairwise IsIndependent) :
    (graph.run (connections.map .connect)).edges.Perm
      (graph.run (reordered.map .connect)).edges := by
  have still : reordered.Pairwise IsIndependent :=
    perm.pairwise independent fun apart => apart.symm
  rw [run_connect_eq graph independent, run_connect_eq graph still]
  exact (perm.filterMap _).append_left graph.edges

theorem connects_commute (graph : Graph) (independent : first.IsIndependent second) :
    (graph.edit (.connect first)).answer second = graph.answer second ∧
      (graph.edit (.connect second)).answer first = graph.answer first ∧
      (graph.run [.connect first, .connect second]).edges.Perm
        (graph.run [.connect second, .connect first]).edges ∧
      (graph.run [.connect first, .connect second]).nodes =
        (graph.run [.connect second, .connect first]).nodes := by
  have inOrder : [first, second].Pairwise IsIndependent := List.pairwise_pair.mpr independent
  have inReverse : [second, first].Pairwise IsIndependent :=
    List.pairwise_pair.mpr independent.symm
  have forwards := run_connect_eq graph inOrder
  have backwards := run_connect_eq graph inReverse
  have edges := edges_run_perm graph (List.Perm.swap second first []) inOrder
  refine ⟨answer_edit_connect independent, answer_edit_connect independent.symm, edges, ?_⟩
  exact (congrArg nodes forwards).trans (congrArg nodes backwards).symm

def inherits (heir parent : String) : Connection :=
  ⟨heir, parent, .inheritanceSource, .inheritanceTarget⟩

def twoAgents : Graph where
  nodes := [⟨"a", none, .agent {}⟩, ⟨"b", none, .agent {}⟩]
  edges := [{ id := "1", source := "a", target := "b", kind := .friendship }]

theorem connects_commute_twoAgents :
    (inherits "a" "b").IsIndependent (inherits "b" "a") ∧
      (twoAgents.edit (.connect (inherits "a" "b"))).answer (inherits "b" "a") =
        .ok ((inherits "b" "a").edge .inheritance) ∧
      (twoAgents.edit (.connect (inherits "b" "a"))).answer (inherits "a" "b") =
        .ok ((inherits "a" "b").edge .inheritance) ∧
      (twoAgents.run [.connect (inherits "a" "b"), .connect (inherits "b" "a")]).edges.Perm
        (twoAgents.run [.connect (inherits "b" "a"), .connect (inherits "a" "b")]).edges := by
  have independent : (inherits "a" "b").IsIndependent (inherits "b" "a") := by
    constructor <;> decide +kernel
  have heir : twoAgents.answer (inherits "b" "a") =
      .ok ((inherits "b" "a").edge .inheritance) := by decide +kernel
  have parent : twoAgents.answer (inherits "a" "b") =
      .ok ((inherits "a" "b").edge .inheritance) := by decide +kernel
  obtain ⟨second, first, edges, _⟩ := connects_commute twoAgents independent
  exact ⟨independent, second.trans heir, first.trans parent, edges⟩

end Graph

end AgentGraph
