import AgentGraph.Proofs.Graph.Edits
import AgentGraph.Proofs.Node.Role

/-!
Kinds of edges while a graph is edited. The rules give an edge its kind when it is made;
they still give the same one later on, unless the payload of a node at one of its ends
changes so that the node plays another role.
-/

namespace AgentGraph

def roleOf? (nodes : List Node) (id : String) : Option Role :=
  (Node.find? nodes id).map fun node => node.payload.role

theorem roleOf?_append {nodes : List Node} {id : String} {role : Role}
    (known : roleOf? nodes id = some role) (more : List Node) :
    roleOf? (nodes ++ more) id = some role := by
  obtain ⟨node, found, same⟩ := Option.map_eq_some_iff.mp known
  have still : Node.find? (nodes ++ more) id = some node := by
    unfold Node.find? at found ⊢
    rw [List.find?_append, found]
    rfl
  rw [roleOf?, still, Option.map_some, same]

theorem find?_updateFirst (id asked : String) (change : Payload → Payload) (nodes : List Node) :
    Node.find? (Graph.updateFirst id change nodes) asked =
      if asked = id then
        (Node.find? nodes id).map fun node => { node with payload := change node.payload }
      else Node.find? nodes asked := by
  unfold Node.find?
  induction nodes with
  | nil => split <;> rfl
  | cons node nodes ih =>
      rw [Graph.updateFirst]
      by_cases here : node.id = id
      · rw [if_pos here]
        by_cases same : asked = id
        · simp [here, same]
        · have other : id ≠ asked := fun equal => same equal.symm
          simp [here, same, other]
      · rw [if_neg here]
        by_cases found : node.id = asked
        · have different : asked ≠ id := fun equal => here (found.trans equal)
          simp [found, different]
        · rw [List.find?_cons_of_neg (by simp [found]), List.find?_cons_of_neg (by simp [here]),
            List.find?_cons_of_neg (by simp [found]), ih]

theorem roleOf?_eraseP {nodes : List Node} {id asked : String} (different : asked ≠ id) :
    roleOf? (nodes.eraseP fun node => node.id == id) asked = roleOf? nodes asked := by
  unfold roleOf? Node.find?
  congr 1
  induction nodes with
  | nil => rfl
  | cons node nodes ih =>
      by_cases here : node.id = id
      · have other : node.id ≠ asked := fun equal => different (equal.symm.trans here)
        rw [List.eraseP_cons_of_pos (by simp [here]), List.find?_cons_of_neg (by simp [other])]
      · rw [List.eraseP_cons_of_neg (by simp [here])]
        by_cases found : node.id = asked
        · rw [List.find?_cons_of_pos (by simp [found]), List.find?_cons_of_pos (by simp [found])]
        · rw [List.find?_cons_of_neg (by simp [found]), List.find?_cons_of_neg (by simp [found]),
            ih]

/-- Whether the rules give the edge its kind, its ends being what they are now. -/
def Edge.FollowsRules (nodes : List Node) (edge : Edge) : Prop :=
  ∃ source target sourceHandle targetHandle,
    Node.find? nodes edge.source = some source ∧
    Node.find? nodes edge.target = some target ∧
    edge.sourceHandle = some sourceHandle ∧ edge.targetHandle = some targetHandle ∧
    EdgeKind.ofEnds? source.payload target.payload sourceHandle targetHandle =
      some edge.kind

/-- Whether both ends play the roles that the kind of the edge asks for. -/
structure Edge.IsPlayed (nodes : List Node) (edge : Edge) : Prop where
  source : roleOf? nodes edge.source = some edge.kind.sourceRole
  target : roleOf? nodes edge.target = some edge.kind.targetRole

namespace Edge

variable {nodes others : List Node} {edge : Edge}

theorem followsRules_iff :
    edge.FollowsRules nodes ↔ edge.IsPlayed nodes ∧
      edge.sourceHandle = some edge.kind.handles.1 ∧
      edge.targetHandle = some edge.kind.handles.2 := by
  constructor
  · rintro ⟨source, target, sourceHandle, targetHandle, sourceFound, targetFound, leaves, arrives,
      determined⟩
    obtain ⟨fits, handles⟩ := EdgeKind.ofEnds?_eq_some.mp determined
    obtain ⟨sourceRole, targetRole⟩ := EdgeKind.fits_iff.mp fits
    rw [leaves, arrives, handles]
    refine ⟨⟨?_, ?_⟩, rfl, rfl⟩
    · rw [roleOf?, sourceFound, Option.map_some, sourceRole]
    · rw [roleOf?, targetFound, Option.map_some, targetRole]
  · rintro ⟨⟨sourceRole, targetRole⟩, leaves, arrives⟩
    obtain ⟨source, sourceFound, sourcePlays⟩ := Option.map_eq_some_iff.mp sourceRole
    obtain ⟨target, targetFound, targetPlays⟩ := Option.map_eq_some_iff.mp targetRole
    refine ⟨source, target, _, _, sourceFound, targetFound, leaves, arrives, ?_⟩
    exact EdgeKind.ofEnds?_eq_some.mpr ⟨EdgeKind.fits_iff.mpr ⟨sourcePlays, targetPlays⟩, rfl⟩

theorem FollowsRules.of_roles (follows : edge.FollowsRules nodes)
    (kept : ∀ id role, edge.touches id = true → roleOf? nodes id = some role →
      roleOf? others id = some role) : edge.FollowsRules others := by
  obtain ⟨⟨source, target⟩, handles⟩ := followsRules_iff.mp follows
  refine followsRules_iff.mpr ⟨⟨?_, ?_⟩, handles⟩
  · exact kept _ _ (by simp [touches]) source
  · exact kept _ _ (by simp [touches]) target

theorem FollowsRules.roleOf?_eq (follows : edge.FollowsRules nodes)
    (after : edge.FollowsRules others) {id : String} (touched : edge.touches id = true) :
    roleOf? others id = roleOf? nodes id := by
  obtain ⟨⟨source, target⟩, _⟩ := followsRules_iff.mp follows
  obtain ⟨⟨laterSource, laterTarget⟩, _⟩ := followsRules_iff.mp after
  rcases Bool.or_eq_true_iff.mp touched with atSource | atTarget
  · rw [← beq_iff_eq.mp atSource, source, laterSource]
  · rw [← beq_iff_eq.mp atTarget, target, laterTarget]

end Edge

theorem Connection.IsAllowed.followsRules {connection : Connection} {nodes : List Node}
    {edges : List Edge} {kind : EdgeKind} (allowed : connection.IsAllowed nodes edges kind) :
    (connection.edge kind).FollowsRules nodes := by
  obtain ⟨⟨source, target, sourceFound, targetFound, fits⟩, handles, _⟩ := allowed
  exact ⟨source, target, _, _, sourceFound, targetFound, rfl, rfl,
    EdgeKind.ofEnds?_eq_some.mpr ⟨fits, handles⟩⟩

namespace Graph

def FollowsRules (graph : Graph) : Prop := ∀ edge ∈ graph.edges, edge.FollowsRules graph.nodes

/-- Whether the edit leaves the role alone of a node at which an edge ends. -/
def Edit.KeepsEnds (graph : Graph) : Edit → Prop
  | .updateNode id change => ∀ node, graph.node? id = some node →
      ∀ edge ∈ graph.edges, edge.touches id = true →
        (change node.payload).role = node.payload.role
  | .addNode _ | .connect _ | .removeEdge _ | .removeNode _ => True

def Edit.AddsNew (graph : Graph) : Edit → Prop
  | .addNode node => node.id ∉ graph.nodeIds
  | .updateNode _ _ | .connect _ | .removeEdge _ | .removeNode _ => True

instance (graph : Graph) (edit : Edit) : Decidable (edit.AddsNew graph) :=
  match edit with
  | .addNode node => inferInstanceAs (Decidable (node.id ∉ graph.nodeIds))
  | .updateNode _ _ | .connect _ | .removeEdge _ | .removeNode _ => .isTrue trivial

/-- Whether all edits of a run have a property, each in the graph that it is made in. -/
def Along (holds : Graph → Edit → Prop) : Graph → List Edit → Prop
  | _, [] => True
  | graph, edit :: edits => holds graph edit ∧ Along holds (graph.edit edit) edits

instance Along.decidable (holds : Graph → Edit → Prop) [∀ graph edit, Decidable (holds graph edit)] :
    (graph : Graph) → (edits : List Edit) → Decidable (Along holds graph edits)
  | _, [] => .isTrue trivial
  | graph, edit :: edits =>
      have := Along.decidable holds (graph.edit edit) edits
      inferInstanceAs (Decidable (_ ∧ _))

variable {graph : Graph}

theorem roleOf?_updateNode (id asked : String) (change : Payload → Payload) :
    roleOf? (graph.updateNode id change).nodes asked =
      if asked = id then (graph.node? id).map fun node => (change node.payload).role
      else roleOf? graph.nodes asked := by
  rw [roleOf?, updateNode, find?_updateFirst]
  split
  · rw [Option.map_map]
    rfl
  · rfl

theorem FollowsRules.updateNode_iff (follows : graph.FollowsRules) {id : String}
    {change : Payload → Payload} :
    (graph.updateNode id change).FollowsRules ↔ (Edit.updateNode id change).KeepsEnds graph := by
  constructor
  · intro after node found edge inside touched
    have role := (follows edge inside).roleOf?_eq (after edge inside) touched
    rw [roleOf?_updateNode, if_pos rfl, found, roleOf?, show Node.find? graph.nodes id =
      some node from found] at role
    exact Option.some.inj role
  · intro keeps edge inside
    refine (follows edge inside).of_roles fun asked role touched known => ?_
    rw [roleOf?_updateNode]
    split
    · next same =>
        subst same
        obtain ⟨node, found, plays⟩ := Option.map_eq_some_iff.mp known
        have found : graph.node? asked = some node := found
        rw [found, Option.map_some, keeps node found edge inside touched, plays]
    · exact known

theorem FollowsRules.edit_iff (follows : graph.FollowsRules) {edit : Edit} :
    (graph.edit edit).FollowsRules ↔ edit.KeepsEnds graph := by
  cases edit with
  | updateNode id change => exact follows.updateNode_iff
  | addNode node =>
      refine iff_of_true (fun edge inside => ?_) trivial
      exact (follows edge inside).of_roles fun _ _ _ known => roleOf?_append known [node]
  | connect connection =>
      refine iff_of_true ?_ trivial
      rw [Graph.edit]
      rcases made : graph.connect connection with ⟨rejection | edge, after⟩
      · rw [(connect_eq_error made).1]
        exact follows
      · obtain ⟨kind, allowed, _, rfl, rfl⟩ := connect_eq_ok made
        intro edge inside
        rcases List.mem_append.mp inside with old | added
        · exact follows edge old
        · rw [List.mem_singleton.mp added]
          exact allowed.followsRules
  | removeEdge id =>
      refine iff_of_true ?_ trivial
      rw [Graph.edit]
      cases removed : graph.removeEdge id with
      | none => exact follows
      | some entry =>
          obtain ⟨sameNodes, sublist⟩ := nodes_removeEdge removed
          intro edge inside
          rw [Option.map_some, Option.getD_some, sameNodes]
          exact follows edge (sublist.subset inside)
  | removeNode id =>
      refine iff_of_true ?_ trivial
      rw [Graph.edit]
      cases removed : graph.removeNode id with
      | none => exact follows
      | some entry =>
          obtain ⟨nodes, edges⟩ := removeNode_eq removed
          intro edge inside
          rw [Option.map_some, Option.getD_some] at inside ⊢
          rw [edges] at inside
          obtain ⟨old, apart⟩ := List.mem_filter.mp inside
          refine (follows edge old).of_roles fun asked role touched known => ?_
          have different : asked ≠ id := by
            rintro rfl
            rw [touched] at apart
            contradiction
          rw [nodes, roleOf?_eraseP different, known]

theorem FollowsRules.along_iff {edits : List Edit} (follows : graph.FollowsRules) :
    (∀ past, past <+: edits → (graph.run past).FollowsRules) ↔
      Along Edit.KeepsEnds graph edits := by
  induction edits generalizing graph with
  | nil =>
      refine iff_of_true (fun past isPast => ?_) trivial
      rw [List.prefix_nil.mp isPast]
      exact follows
  | cons edit edits ih =>
      constructor
      · intro always
        have next : (graph.edit edit).FollowsRules :=
          always [edit] ((List.prefix_append [edit] edits))
        refine ⟨follows.edit_iff.mp next, (ih next).mp fun past isPast => ?_⟩
        exact always (edit :: past) ((List.prefix_cons_inj edit).mpr isPast)
      · rintro ⟨keeps, rest⟩ past isPast
        have next := follows.edit_iff.mpr keeps
        rcases List.prefix_cons_iff.mp isPast with rfl | ⟨later, rfl, isLater⟩
        · exact follows
        · exact (ih next).mpr rest later isLater

theorem followsRules_empty : FollowsRules {} := List.forall_mem_nil _

/-- From the empty graph on, the rules always give every edge its kind, if and only if no
node at which an edge ends ever changes its role. -/
theorem followsRules_run_iff (edits : List Edit) :
    (∀ past, past <+: edits → (Graph.run {} past).FollowsRules) ↔
      Along Edit.KeepsEnds {} edits :=
  followsRules_empty.along_iff

/-- A behaviour becomes a note while it is attached to an agent. -/
def retypedBehaviour : List Edit := [
  .addNode ⟨"a", none, .agent {}⟩,
  .addNode ⟨"b", none, .behaviour {}⟩,
  .connect ⟨"a", "b", .behaviour, .behaviour⟩,
  .updateNode "b" fun _ => .note "later"]

theorem retypedBehaviour_breaksRules :
    Along Edit.AddsNew {} retypedBehaviour ∧
      ¬(Graph.run {} retypedBehaviour).FollowsRules := by
  refine ⟨by decide +kernel, fun follows => ?_⟩
  let attachment := (Connection.mk "a" "b" .behaviour .behaviour).edge .agentBehaviour
  have inside : attachment ∈ (Graph.run {} retypedBehaviour).edges := by decide +kernel
  obtain ⟨⟨_, target⟩, _⟩ := Edge.followsRules_iff.mp (follows attachment inside)
  have isNote : roleOf? (Graph.run {} retypedBehaviour).nodes "b" = some .note := by
    decide +kernel
  exact Role.noConfusion (Option.some.inj (isNote.symm.trans target))

end Graph

end AgentGraph
