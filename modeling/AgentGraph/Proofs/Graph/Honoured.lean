import AgentGraph.Proofs.Graph.Consistent
import AgentGraph.Proofs.Graph.Kinds
import AgentGraph.Proofs.Relations.Friends

/-!
Edges of edited graphs and the relations built from them. Every edge that a connection
made is found in the relations, except for an inheritance from an agent to itself, and
for a message where a later edge gives the behaviour another one.
-/

namespace AgentGraph

namespace Relations

/-- Whether the relations hold what the edge says. -/
def Honours (relations : Relations) (edge : Edge) : Prop :=
  match edge.kind with
  | .agentBehaviour => edge.target ∈ relations.behavioursOf edge.source
  | .friendship => ∃ sourceJid targetJid,
      relations.jid? edge.source = some sourceJid ∧
      relations.jid? edge.target = some targetJid ∧
      targetJid ∈ relations.friendsOf edge.source ∧
      sourceJid ∈ relations.friendsOf edge.target
  | .inheritance => edge.source ∈ relations.parentsOf edge.target
  | .template => relations.template? edge.source = some edge.target
  | .message => relations.message? edge.source = some edge.target

variable {settings : Settings} {nodes : List Node} {edges : List Edge} {edge : Edge}

theorem mem_attached (inside : edge ∈ edges)
    (means : edge.means nodes .agentBehaviour = true) :
    edge.target ∈ attached nodes edges edge.source :=
  List.mem_map_of_mem (List.mem_filter.mpr ⟨inside, by simp [means]⟩)

/-- An agent's parents are the other agents that an edge makes its parents. -/
theorem mem_inherited_iff (inside : edge ∈ edges)
    (means : edge.means nodes .inheritance = true) :
    edge.source ∈ inherited nodes edges edge.target ↔ edge.source ≠ edge.target := by
  constructor
  · intro isParent
    obtain ⟨other, filtered, sameSource⟩ := List.mem_map.mp isParent
    obtain ⟨joined, apart⟩ := Bool.and_eq_true_iff.mp (List.mem_filter.mp filtered).2
    have sameTarget := beq_iff_eq.mp (Bool.and_eq_true_iff.mp joined).2
    rw [← sameSource, ← sameTarget]
    exact bne_iff_ne.mp apart
  · intro apart
    exact List.mem_map_of_mem (List.mem_filter.mpr ⟨inside, by simp [means, apart]⟩)

theorem mem_friendsOf_build {agentId address : String} :
    address ∈ (build settings nodes edges).friendsOf agentId ↔
      ∃ partner ∈ partners nodes edges agentId,
        (ofNodes settings nodes).jid? partner = some address := by
  rw [friendsOf_build, addJids, Dict.mem_keys_foldl_insert, List.mem_filterMap]
  exact or_iff_right List.not_mem_nil

theorem jid?_build : (build settings nodes edges).jid? = (ofNodes settings nodes).jid? := by
  unfold jid? identity?
  rw [identities_build]
  rfl

theorem honours_friendship (inside : edge ∈ edges) (apart : edge.source ≠ edge.target)
    (means : edge.means nodes .friendship = true) :
    ∃ sourceJid targetJid,
      (build settings nodes edges).jid? edge.source = some sourceJid ∧
      (build settings nodes edges).jid? edge.target = some targetJid ∧
      targetJid ∈ (build settings nodes edges).friendsOf edge.source ∧
      sourceJid ∈ (build settings nodes edges).friendsOf edge.target := by
  obtain ⟨sourceKnown, targetKnown⟩ := isSome_identity_of_means settings nodes means
  obtain ⟨source, sourceFound⟩ := Option.isSome_iff_exists.mp sourceKnown
  obtain ⟨target, targetFound⟩ := Option.isSome_iff_exists.mp targetKnown
  have sourceJid : (ofNodes settings nodes).jid? edge.source = some source.jid :=
    Option.map_eq_some_iff.mpr ⟨source, sourceFound, rfl⟩
  have targetJid : (ofNodes settings nodes).jid? edge.target = some target.jid :=
    Option.map_eq_some_iff.mpr ⟨target, targetFound, rfl⟩
  have atSource : edge.target ∈ partners nodes edges edge.source :=
    List.mem_filterMap.mpr ⟨edge, inside, by simp [partner?, means, apart]⟩
  have atTarget : edge.source ∈ partners nodes edges edge.target :=
    List.mem_filterMap.mpr ⟨edge, inside, by simp [partner?, means, apart]⟩
  rw [jid?_build]
  exact ⟨source.jid, target.jid, sourceJid, targetJid,
    mem_friendsOf_build.mpr ⟨_, atSource, targetJid⟩,
    mem_friendsOf_build.mpr ⟨_, atTarget, sourceJid⟩⟩

theorem lastTarget?_append_cons {kind : EdgeKind} (means : edge.means nodes kind = true)
    (before after : List Edge) :
    lastTarget? nodes kind (before ++ edge :: after) edge.source =
      (lastTarget? nodes kind after edge.source).or (some edge.target) := by
  have chosen : (edge.means nodes kind && edge.source == edge.source) = true := by
    simp [means]
  unfold lastTarget?
  rw [List.filter_append, List.filter_cons, if_pos chosen, List.map_append, List.map_cons,
    List.getLast?_append, List.getLast?_cons]
  cases List.getLast? _ <;> rfl

theorem lastTarget?_eq_none_iff {kind : EdgeKind} {source : String} :
    lastTarget? nodes kind edges source = none ↔
      ∀ edge ∈ edges, edge.means nodes kind = true → edge.source ≠ source := by
  rw [lastTarget?, List.getLast?_eq_none_iff, List.map_eq_nil_iff, List.filter_eq_nil_iff]
  simp only [Bool.and_eq_true, beq_iff_eq, not_and]

theorem edge_of_lastTarget? {kind : EdgeKind} {source target : String}
    (last : lastTarget? nodes kind edges source = some target) :
    ∃ edge ∈ edges, edge.kind = kind ∧ edge.source = source ∧ edge.target = target := by
  obtain ⟨edge, filtered, isTarget⟩ := List.mem_map.mp (List.mem_of_getLast? last)
  obtain ⟨inside, chosen⟩ := List.mem_filter.mp filtered
  obtain ⟨means, isSource⟩ := Bool.and_eq_true_iff.mp chosen
  have isKind := beq_iff_eq.mp (Bool.and_eq_true_iff.mp means).1
  exact ⟨edge, inside, isKind, beq_iff_eq.mp isSource, isTarget⟩

end Relations

open Relations

theorem Edge.FollowsRules.means {nodes : List Node} {edge : Edge}
    (distinct : (nodes.map Node.id).Nodup) (follows : edge.FollowsRules nodes) :
    edge.means nodes edge.kind = true := by
  obtain ⟨source, target, _, _, sourceFound, targetFound, _, _, determined⟩ := follows
  have fits := (EdgeKind.ofEnds?_eq_some.mp determined).1
  have ends := endOf?_eq_find? distinct
  exact means_iff.mpr ⟨rfl, source, target, (ends _).trans sourceFound,
    (ends _).trans targetFound, fits⟩

/-- Edges that connections made are the same if they have the same kind and ends. -/
theorem Edge.IsMade.id_eq {nodeIds : List String} {edge other : Edge}
    (made : edge.IsMade nodeIds) (otherMade : other.IsMade nodeIds)
    (kind : edge.kind = other.kind) (source : edge.source = other.source)
    (target : edge.target = other.target) : edge.id = other.id := by
  have same : edge.connection? = other.connection? := by
    unfold Edge.connection?
    rw [made.sourceHandle, made.targetHandle, otherMade.sourceHandle, otherMade.targetHandle,
      kind, source, target]
  exact Option.some.inj (made.id.symm.trans (same ▸ otherMade.id))

namespace Graph

def Edit.KeepsType (graph : Graph) : Edit → Prop
  | .updateNode id change => ∀ node ∈ graph.node? id,
      (change node.payload).typeName = node.payload.typeName
  | .addNode _ | .connect _ | .removeEdge _ | .removeNode _ => True

instance (graph : Graph) (edit : Edit) : Decidable (edit.KeepsType graph) :=
  match edit with
  | .updateNode id change => inferInstanceAs (Decidable (∀ node ∈ graph.node? id,
      (change node.payload).typeName = node.payload.typeName))
  | .addNode _ | .connect _ | .removeEdge _ | .removeNode _ => .isTrue trivial

/-- Whether an added node has a new id, and a changed payload is of the type it was. -/
def Edit.IsOrderly (graph : Graph) (edit : Edit) : Prop :=
  edit.AddsNew graph ∧ edit.KeepsType graph

instance (graph : Graph) (edit : Edit) : Decidable (edit.IsOrderly graph) :=
  inferInstanceAs (Decidable (_ ∧ _))

/-- What graphs are whose edits were orderly. -/
structure IsFaithful (graph : Graph) : Prop where
  distinct : graph.nodeIds.Nodup
  follows : graph.FollowsRules
  consistent : graph.IsConsistent

variable {graph : Graph}

theorem Edit.KeepsType.keepsEnds {edit : Edit} (keeps : edit.KeepsType graph) :
    edit.KeepsEnds graph := by
  cases edit with
  | updateNode id change =>
      intro node found _ _ _
      exact Payload.role_eq_of_typeName (keeps node found)
  | addNode | connect | removeEdge | removeNode => trivial

theorem Edit.AddsNew.nodup_nodeIds {edit : Edit} (addsNew : edit.AddsNew graph)
    (distinct : graph.nodeIds.Nodup) : (graph.edit edit).nodeIds.Nodup := by
  cases edit with
  | addNode node =>
      rw [Graph.edit, nodeIds_addNode]
      exact nodup_concat distinct addsNew
  | updateNode id change =>
      rw [Graph.edit, nodeIds_updateNode]
      exact distinct
  | connect connection =>
      rw [Graph.edit]
      rcases made : graph.connect connection with ⟨rejection | edge, after⟩
      · rw [(connect_eq_error made).1]
        exact distinct
      · obtain ⟨kind, _, _, _, rfl⟩ := connect_eq_ok made
        exact distinct
  | removeEdge id =>
      rw [Graph.edit]
      cases removed : graph.removeEdge id with
      | none => exact distinct
      | some entry =>
          rw [Option.map_some, Option.getD_some, nodeIds, (nodes_removeEdge removed).1]
          exact distinct
  | removeNode id =>
      rw [Graph.edit]
      cases removed : graph.removeNode id with
      | none => exact distinct
      | some entry =>
          rw [Option.map_some, Option.getD_some, nodeIds, (removeNode_eq removed).1]
          exact distinct.sublist ((List.eraseP_sublist).map Node.id)

theorem IsFaithful.edit {edit : Edit} (faithful : graph.IsFaithful)
    (orderly : edit.IsOrderly graph) : (graph.edit edit).IsFaithful where
  distinct := orderly.1.nodup_nodeIds faithful.distinct
  follows := faithful.follows.edit_iff.mpr orderly.2.keepsEnds
  consistent := faithful.consistent.edit edit

theorem IsFaithful.run {edits : List Edit} (faithful : graph.IsFaithful)
    (orderly : Along Edit.IsOrderly graph edits) : (graph.run edits).IsFaithful := by
  induction edits generalizing graph with
  | nil => exact faithful
  | cons edit edits ih =>
      obtain ⟨now, later⟩ := orderly
      exact ih (faithful.edit now) later

theorem isFaithful_run {edits : List Edit} (orderly : Along Edit.IsOrderly {} edits) :
    (Graph.run {} edits).IsFaithful := by
  have empty : IsFaithful {} := {
    distinct := List.nodup_nil
    follows := followsRules_empty
    consistent := ⟨List.forall_mem_nil _, List.nodup_nil, List.nodup_nil, List.nodup_nil⟩ }
  exact empty.run orderly

section Faithful

variable {before after : List Edge} {edge : Edge} (faithful : graph.IsFaithful)
  (split : graph.edges = before ++ edge :: after)

include faithful split

theorem IsFaithful.target_ne {later : Edge} (isLater : later ∈ after)
    (kind : later.kind = edge.kind) (source : later.source = edge.source) :
    later.target ≠ edge.target := by
  intro target
  have inside : edge ∈ graph.edges := split ▸ List.mem_append_right _ List.mem_cons_self
  have laterInside : later ∈ graph.edges :=
    split ▸ List.mem_append_right _ (List.mem_cons_of_mem _ isLater)
  have sameId := (faithful.consistent.made later laterInside).id_eq
    (faithful.consistent.made edge inside) kind source target
  have ids := faithful.consistent.edgeIds_nodup
  rw [split, List.map_append, List.map_cons] at ids
  have new := (List.nodup_cons.mp (List.nodup_append.mp ids).2.1).1
  exact new (sameId ▸ List.mem_map_of_mem isLater)

/-- Of the edges that bind one thing to a source, the last one is found. -/
theorem IsFaithful.lastTarget?_iff {kind : EdgeKind} (isKind : edge.kind = kind) :
    lastTarget? graph.nodes kind graph.edges edge.source = some edge.target ↔
      ∀ later ∈ after, later.kind = kind → later.source ≠ edge.source := by
  have means {other : Edge} (inside : other ∈ edge :: after) (sameKind : other.kind = kind) :
      other.means graph.nodes kind = true := by
    have held : other ∈ graph.edges := split ▸ List.mem_append_right _ inside
    exact sameKind ▸ (faithful.follows other held).means faithful.distinct
  rw [split, lastTarget?_append_cons (means List.mem_cons_self isKind)]
  cases last : lastTarget? graph.nodes kind after edge.source with
  | none =>
      refine iff_of_true rfl fun later isLater sameKind => ?_
      exact lastTarget?_eq_none_iff.mp last later isLater
        (means (List.mem_cons_of_mem _ isLater) sameKind)
  | some target =>
      obtain ⟨later, isLater, sameKind, sameSource, rfl⟩ := edge_of_lastTarget? last
      have different := faithful.target_ne split isLater (sameKind.trans isKind.symm) sameSource
      refine iff_of_false (fun same => different (Option.some.inj same)) fun free => ?_
      exact free later isLater sameKind sameSource

theorem IsFaithful.template_unique (isKind : edge.kind = .template) :
    ∀ later ∈ after, later.kind = .template → later.source ≠ edge.source := by
  intro later isLater sameKind sameSource
  have sources := faithful.consistent.template_nodup
  rw [split, sourcesOf, List.filter_append, List.filter_cons_of_pos (by simp [isKind]),
    List.map_append, List.map_cons] at sources
  have new := (List.nodup_cons.mp (List.nodup_append.mp sources).2.1).1
  refine new (List.mem_map.mpr ⟨later, List.mem_filter.mpr ⟨isLater, ?_⟩, sameSource⟩)
  exact beq_iff_eq.mpr sameKind

theorem IsFaithful.honours_iff (settings : Settings) :
    (build settings graph.nodes graph.edges).Honours edge ↔
      (edge.kind = .inheritance → edge.source ≠ edge.target) ∧
      (edge.kind = .message →
        ∀ later ∈ after, later.kind = .message → later.source ≠ edge.source) := by
  have inside : edge ∈ graph.edges := split ▸ List.mem_append_right _ List.mem_cons_self
  have means := (faithful.follows edge inside).means faithful.distinct
  unfold Honours
  cases isKind : edge.kind with
  | agentBehaviour =>
      rw [isKind] at means
      rw [behavioursOf_build]
      exact iff_of_true (mem_attached inside means) ⟨nofun, nofun⟩
  | friendship =>
      rw [isKind] at means
      have apart := (faithful.consistent.made edge inside).loopless isKind
      exact iff_of_true (honours_friendship inside apart means) ⟨nofun, nofun⟩
  | inheritance =>
      rw [isKind] at means
      have isParent := mem_inherited_iff inside means
      rw [parentsOf_build, mem_foldl_addOnce, or_iff_right List.not_mem_nil, isParent]
      exact ⟨fun apart => ⟨fun _ => apart, nofun⟩, fun ⟨apart, _⟩ => apart rfl⟩
  | template =>
      rw [template?_build, faithful.lastTarget?_iff split isKind]
      exact iff_of_true (faithful.template_unique split isKind) ⟨nofun, nofun⟩
  | message =>
      rw [message?_build, faithful.lastTarget?_iff split isKind]
      exact ⟨fun last => ⟨nofun, fun _ => last⟩, fun ⟨_, last⟩ => last rfl⟩

end Faithful

/-- Where no edit adds a node under an old id or changes the type of a payload, every edge is
honoured that is not an inheritance from an agent to itself, nor a message edge before
another one of the same behaviour. -/
theorem honours_run_iff {edits : List Edit} (orderly : Along Edit.IsOrderly {} edits)
    (settings : Settings) {before after : List Edge} {edge : Edge}
    (split : (Graph.run {} edits).edges = before ++ edge :: after) :
    (build settings (Graph.run {} edits).nodes (Graph.run {} edits).edges).Honours edge ↔
      (edge.kind = .inheritance → edge.source ≠ edge.target) ∧
      (edge.kind = .message →
        ∀ later ∈ after, later.kind = .message → later.source ≠ edge.source) :=
  (isFaithful_run orderly).honours_iff split settings

/-- An agent named later on has a behaviour that is given a message, and then another. -/
def twoMessages : List Edit := [
  .addNode ⟨"a", none, .agent {}⟩,
  .addNode ⟨"b", none, .behaviour {}⟩,
  .addNode ⟨"m", none, .message {}⟩,
  .addNode ⟨"n", none, .message {}⟩,
  .connect ⟨"a", "b", .behaviour, .behaviour⟩,
  .connect ⟨"b", "m", .message, .message⟩,
  .updateNode "a" fun _ => .agent { instanceName := "alice" },
  .connect ⟨"b", "n", .message, .message⟩]

theorem honours_run_iff_twoMessages :
    Along Edit.IsOrderly {} twoMessages ∧
      ∃ before edge after, (Graph.run {} twoMessages).edges = before ++ edge :: after ∧
        edge.target = "m" ∧
        ((build {} (Graph.run {} twoMessages).nodes (Graph.run {} twoMessages).edges).Honours edge ↔
          (edge.kind = .inheritance → edge.source ≠ edge.target) ∧
          (edge.kind = .message →
            ∀ later ∈ after, later.kind = .message → later.source ≠ edge.source)) := by
  have orderly : Along Edit.IsOrderly {} twoMessages := by decide +kernel
  have split : (Graph.run {} twoMessages).edges =
      [(Connection.mk "a" "b" .behaviour .behaviour).edge .agentBehaviour] ++
        (Connection.mk "b" "m" .message .message).edge .message ::
          [(Connection.mk "b" "n" .message .message).edge .message] := by decide +kernel
  exact ⟨orderly, _, _, _, split, rfl, honours_run_iff orderly {} split⟩

/-- An agent is made its own parent, which no rule forbids. -/
def ownParent : List Edit := [
  .addNode ⟨"a", none, .agent {}⟩,
  .connect ⟨"a", "a", .inheritanceSource, .inheritanceTarget⟩]

theorem ownParent_notHonoured :
    Along Edit.IsOrderly {} ownParent ∧ ∃ edge ∈ (Graph.run {} ownParent).edges,
      ¬(build {} (Graph.run {} ownParent).nodes (Graph.run {} ownParent).edges).Honours edge := by
  refine ⟨by decide +kernel,
    (Connection.mk "a" "a" .inheritanceSource .inheritanceTarget).edge .inheritance,
    by decide +kernel, ?_⟩
  change "a" ∉ (build {} (Graph.run {} ownParent).nodes (Graph.run {} ownParent).edges).parentsOf "a"
  decide +kernel

end Graph

end AgentGraph
