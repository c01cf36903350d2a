import AgentGraph.Proofs.Graph.Consistent
import Mathlib.Data.List.Infix

/-!
Which connections are refused as repeated ones. A connection is known by its id alone, and
the id runs the ids of the nodes and the names of the handles together: a node's id that holds
such a name can make two connections look alike, and an edge that came with an id of its own
looks like no connection, or like a wrong one.
-/

namespace AgentGraph

namespace Handle

/-- What stands between the ids of the two nodes in the id of a connection. -/
def joint (handle : Handle) : List Char := handle.name.toList ++ ['-']

theorem mem_all (handle : Handle) : handle ∈ all := by
  cases handle <;> decide

theorem eq_of_name_suffix {first second : Handle}
    (suffix : first.name.toList <:+ second.name.toList) : first = second := by
  have checked : ∀ first ∈ all, ∀ second ∈ all,
      first.name.toList <:+ second.name.toList → first = second := by decide +kernel
  exact checked first first.mem_all second second.mem_all suffix

theorem joint_of_overlap {first second : Handle} {before within : List Char}
    (split : first.joint = before ++ within) (some_left : within ≠ [])
    (overlaps : within <+: second.joint ∨ second.joint <+: within) :
    before = [] ∧ first = second := by
  have checked : ∀ first ∈ all, ∀ second ∈ all, ∀ within ∈ first.joint.tails, within ≠ [] →
      within <+: second.joint ∨ second.joint <+: within →
        within = first.joint ∧ first = second := by decide +kernel
  have isTail : within ∈ first.joint.tails :=
    (List.mem_tails _ _).mpr (split ▸ List.suffix_append before within)
  obtain ⟨whole, same⟩ :=
    checked first first.mem_all second second.mem_all within isTail some_left overlaps
  rw [whole, List.self_eq_append_left] at split
  exact ⟨split, same⟩

end Handle

namespace Connection

/-- Whether the text of `first` is that of `second` with the bounds of the nodes' ids moved:
where `first` has the name of its handle, the source of `second` goes on. -/
structure Shifts (first second : Connection) : Prop where
  targetHandle : first.targetHandle = second.targetHandle
  ids : ∃ middle, second.source = first.source ++ first.sourceHandle.name ++ "-" ++ middle ∧
    first.target = middle ++ second.sourceHandle.name ++ "-" ++ second.target

/-- Whether no id of the connection's nodes holds the name of a handle with a hyphen after it. -/
def IsPlain (connection : Connection) : Prop :=
  ∀ handle : Handle, ¬handle.joint <:+: connection.source.toList ∧
    ¬handle.joint <:+: connection.target.toList

theorem toList_id (connection : Connection) :
    connection.id.toList = "xy-edge__".toList ++ (connection.source.toList ++
      (connection.sourceHandle.joint ++ connection.target.toList) ++
        connection.targetHandle.name.toList) := by
  simp [id, Handle.joint]

theorem joint_append_cases {first second : Handle} {before rest others : List Char}
    (same : first.joint ++ rest = before ++ (second.joint ++ others)) :
    before = [] ∧ first = second ∧ rest = others ∨
      ∃ middle, before = first.joint ++ middle ∧ rest = middle ++ (second.joint ++ others) := by
  rcases List.append_eq_append_iff.mp same with ⟨middle, longer, rest⟩ | ⟨within, split, remains⟩
  · exact .inr ⟨middle, longer, rest⟩
  · by_cases none_left : within = []
    · subst none_left
      rw [List.append_nil] at split
      exact .inr ⟨[], by rw [List.append_nil, split], remains.symm⟩
    · have overlaps : within <+: second.joint ∨ second.joint <+: within :=
        List.prefix_or_prefix_of_prefix (List.prefix_append within rest)
          (remains ▸ List.prefix_append second.joint others)
      obtain ⟨rfl, rfl⟩ := Handle.joint_of_overlap split none_left overlaps
      exact .inl ⟨rfl, rfl, List.append_cancel_left same⟩

theorem shifts_of_append {first second : Connection} {before middle : List Char}
    (targetHandle : first.targetHandle = second.targetHandle)
    (source : second.source.toList = first.source.toList ++ before)
    (longer : before = first.sourceHandle.joint ++ middle)
    (target : first.target.toList =
      middle ++ (second.sourceHandle.joint ++ second.target.toList)) : first.Shifts second where
  targetHandle := targetHandle
  ids := by
    refine ⟨String.ofList middle, ?_, ?_⟩
    · rw [← String.toList_inj, source, longer]
      simp [Handle.joint]
    · rw [← String.toList_inj, target]
      simp [Handle.joint]

theorem Shifts.id_eq {first second : Connection} (shifts : first.Shifts second) :
    first.id = second.id := by
  obtain ⟨targetHandle, middle, source, target⟩ := shifts
  rw [← String.toList_inj, toList_id, toList_id, source, target, targetHandle]
  simp [Handle.joint]

theorem id_eq_iff {first second : Connection} :
    first.id = second.id ↔ first = second ∨ first.Shifts second ∨ second.Shifts first := by
  constructor
  · intro same
    rw [← String.toList_inj, toList_id, toList_id, List.append_cancel_left_eq] at same
    have suffixes : first.targetHandle.name.toList <:+ second.targetHandle.name.toList ∨
        second.targetHandle.name.toList <:+ first.targetHandle.name.toList :=
      List.suffix_or_suffix_of_suffix (List.suffix_append _ _) ⟨_, same.symm⟩
    have targetHandle : first.targetHandle = second.targetHandle :=
      suffixes.elim Handle.eq_of_name_suffix fun suffix => (Handle.eq_of_name_suffix suffix).symm
    rw [targetHandle, List.append_cancel_right_eq] at same
    rcases List.append_eq_append_iff.mp same with
      ⟨before, source, rest⟩ | ⟨before, source, rest⟩
    · rcases joint_append_cases rest with ⟨rfl, sourceHandle, target⟩ | ⟨middle, longer, target⟩
      · rw [List.append_nil] at source
        refine .inl ?_
        rw [mk.injEq, ← String.toList_inj, ← String.toList_inj]
        exact ⟨source.symm, target, sourceHandle, targetHandle⟩
      · exact .inr (.inl (shifts_of_append targetHandle source longer target))
    · rcases joint_append_cases rest with ⟨rfl, sourceHandle, target⟩ | ⟨middle, longer, target⟩
      · rw [List.append_nil] at source
        refine .inl ?_
        rw [mk.injEq, ← String.toList_inj, ← String.toList_inj]
        exact ⟨source, target.symm, sourceHandle.symm, targetHandle⟩
      · exact .inr (.inr (shifts_of_append targetHandle.symm source longer target))
  · rintro (rfl | shifts | shifts)
    · rfl
    · exact shifts.id_eq
    · exact shifts.id_eq.symm

theorem IsPlain.not_shifts {connection other : Connection} (plain : connection.IsPlain) :
    ¬other.Shifts connection ∧ ¬connection.Shifts other := by
  constructor
  · rintro ⟨_, middle, source, _⟩
    refine (plain other.sourceHandle).1 ⟨other.source.toList, middle.toList, ?_⟩
    rw [source]
    simp [Handle.joint]
  · rintro ⟨_, middle, _, target⟩
    refine (plain other.sourceHandle).2 ⟨middle.toList, other.target.toList, ?_⟩
    rw [target]
    simp [Handle.joint]

end Connection

/-- Whether the edge's id is the one that its own ends give it. -/
def Edge.OwnsId (edge : Edge) : Prop := edge.connection?.map Connection.id = some edge.id

/-- How an edge comes to have the id of a connection. -/
inductive Edge.PassesFor (connection : Connection) (edge : Edge) : Prop
  /-- The edge is the connection's own. -/
  | repeated (owns : edge.OwnsId) (same : edge.connection? = some connection)
  /-- The ids of the nodes hold names of handles, so that two texts are one. -/
  | shifted (owns : edge.OwnsId) {other : Connection} (ties : edge.connection? = some other)
      (shifts : other.Shifts connection ∨ connection.Shifts other)
  /-- The edge came with an id that its ends do not give it. -/
  | foreign (stray : ¬edge.OwnsId) (same : edge.id = connection.id)

theorem Edge.id_eq_iff_passesFor {edge : Edge} {connection : Connection} :
    edge.id = connection.id ↔ edge.PassesFor connection := by
  constructor
  · intro same
    by_cases owns : edge.OwnsId
    · obtain ⟨other, ties, id⟩ := Option.map_eq_some_iff.mp owns
      rcases Connection.id_eq_iff.mp (id.trans same) with rfl | shifts
      · exact .repeated owns ties
      · exact .shifted owns ties shifts
    · exact .foreign owns same
  · intro passes
    cases passes with
    | repeated owns same =>
        rw [OwnsId, same] at owns
        exact (Option.some.inj owns).symm
    | shifted owns ties shifts =>
        rw [OwnsId, ties] at owns
        exact (Option.some.inj owns).symm.trans (Connection.id_eq_iff.mpr (.inr shifts))
    | foreign _ same => exact same

theorem Edge.PassesFor.connection?_eq {edge : Edge} {connection : Connection}
    (passes : edge.PassesFor connection) (owns : edge.OwnsId) (plain : connection.IsPlain) :
    edge.connection? = some connection := by
  cases passes with
  | repeated _ same => exact same
  | shifted _ _ shifts =>
      exact absurd shifts (not_or.mpr plain.not_shifts)
  | foreign stray _ => exact absurd owns stray

namespace Graph

variable {graph : Graph} {connection : Connection} {kind : EdgeKind}

/-- Whether the connection is refused since its edge is said to be there already. -/
def RefusesAsRepeated (graph : Graph) (connection : Connection) : Prop :=
  (graph.connect connection).1 = .error (.alreadyConnected connection.id)

instance (graph : Graph) (connection : Connection) :
    Decidable (graph.RefusesAsRepeated connection) :=
  inferInstanceAs
    (Decidable ((graph.connect connection).1 = .error (.alreadyConnected connection.id)))

theorem refusesAsRepeated_iff_id
    (allowed : connection.IsAllowed graph.nodes graph.edges kind) :
    graph.RefusesAsRepeated connection ↔ ∃ edge ∈ graph.edges, edge.id = connection.id := by
  have classified := Connection.classify_eq_ok.mpr allowed
  unfold RefusesAsRepeated connect
  rw [classified]
  dsimp only
  split
  · next present => simpa using present
  · next absent =>
      refine iff_of_false (fun made => nomatch made) ?_
      simpa using absent

/-- An allowed connection is refused as repeated just where an edge passes for it; that this
be its own edge takes edges that own their ids and nodes whose ids hold no name of a handle. -/
theorem refusesAsRepeated_iff (allowed : connection.IsAllowed graph.nodes graph.edges kind) :
    (graph.RefusesAsRepeated connection ↔ ∃ edge ∈ graph.edges, edge.PassesFor connection) ∧
      ((∀ edge ∈ graph.edges, edge.OwnsId) → connection.IsPlain →
        (graph.RefusesAsRepeated connection ↔
          ∃ edge ∈ graph.edges, edge.connection? = some connection)) := by
  have refused : graph.RefusesAsRepeated connection ↔
      ∃ edge ∈ graph.edges, edge.PassesFor connection := by
    rw [refusesAsRepeated_iff_id allowed]
    simp only [Edge.id_eq_iff_passesFor]
  refine ⟨refused, fun own plain => refused.trans ?_⟩
  constructor
  · rintro ⟨edge, inside, passes⟩
    exact ⟨edge, inside, passes.connection?_eq (own edge inside) plain⟩
  · rintro ⟨edge, inside, same⟩
    exact ⟨edge, inside, .repeated (own edge inside) same⟩

def attachment : Connection := ⟨"a", "b", .behaviour, .behaviour⟩

def attachedOnce : List Edit := [
  .addNode ⟨"a", none, .agent {}⟩,
  .addNode ⟨"b", none, .behaviour {}⟩,
  .connect attachment]

theorem refusesAsRepeated_iff_attachedOnce :
    attachment.IsAllowed (Graph.run {} attachedOnce).nodes (Graph.run {} attachedOnce).edges
        .agentBehaviour ∧
      ((Graph.run {} attachedOnce).RefusesAsRepeated attachment ↔
        ∃ edge ∈ (Graph.run {} attachedOnce).edges, edge.PassesFor attachment) ∧
      (∀ edge ∈ (Graph.run {} attachedOnce).edges, edge.OwnsId) ∧ attachment.IsPlain ∧
      ((Graph.run {} attachedOnce).RefusesAsRepeated attachment ↔
        ∃ edge ∈ (Graph.run {} attachedOnce).edges, edge.connection? = some attachment) := by
  have allowed : attachment.IsAllowed (Graph.run {} attachedOnce).nodes
      (Graph.run {} attachedOnce).edges .agentBehaviour :=
    Connection.classify_eq_ok.mp (by decide +kernel)
  have own : ∀ edge ∈ (Graph.run {} attachedOnce).edges, edge.OwnsId := by
    unfold Edge.OwnsId
    decide +kernel
  have plain : attachment.IsPlain := fun handle => by cases handle <;> decide +kernel
  obtain ⟨refused, wherePlain⟩ := refusesAsRepeated_iff allowed
  exact ⟨allowed, refused, own, plain, wherePlain own plain⟩

def handleNames : List Edit := [
  .addNode ⟨"a", none, .agent {}⟩,
  .addNode ⟨"bbehaviour-c", none, .behaviour {}⟩,
  .addNode ⟨"abehaviour-b", none, .agent {}⟩,
  .addNode ⟨"c", none, .behaviour {}⟩,
  .connect ⟨"a", "bbehaviour-c", .behaviour, .behaviour⟩]

def untied : Connection := ⟨"abehaviour-b", "c", .behaviour, .behaviour⟩

def renamedEdge : Graph where
  nodes := [⟨"a", none, .agent {}⟩, ⟨"b", none, .behaviour {}⟩]
  edges := [{ attachment.edge .agentBehaviour with id := "1" }]

/-- A connection is refused that no edge makes, and one is not that an edge does make. -/
theorem refusesAsRepeated_mistaken :
    (untied.classify (Graph.run {} handleNames).nodes (Graph.run {} handleNames).edges =
        .ok .agentBehaviour ∧
      (Graph.run {} handleNames).RefusesAsRepeated untied ∧
      ∀ edge ∈ (Graph.run {} handleNames).edges, edge.connection? ≠ some untied) ∧
    (attachment.classify renamedEdge.nodes renamedEdge.edges = .ok .agentBehaviour ∧
      ¬renamedEdge.RefusesAsRepeated attachment ∧
      ∃ edge ∈ renamedEdge.edges, edge.connection? = some attachment) := by
  decide +kernel

end Graph

end AgentGraph
