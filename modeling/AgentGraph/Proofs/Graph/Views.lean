import AgentGraph.Proofs.Program.Subscriptions

/-!
What the relations of a graph say of its agents and behaviours, told from the nodes and edges
alone: which edges count for a view, in what order, and what of them is kept.
-/

namespace AgentGraph

namespace Relations

variable {nodes : List Node} {edges : List Edge} {kind : EdgeKind} {id : String}

/-- Collecting each id once keeps the first of each. -/
theorem foldl_addOnce (added : List String) : ∀ found : List String,
    added.foldl (fun found id => addOnce id found) found =
      found ++ (added.filter fun id => decide (id ∉ found)).eraseDups := by
  induction added with
  | nil => simp
  | cons head added ih =>
      intro found
      rw [List.foldl_cons, ih]
      by_cases old : head ∈ found
      · simp [addOnce, old]
      · have later : (added.filter fun id => decide (id ∉ found)).filter (fun id => !id == head) =
            added.filter fun id => decide (id ∉ found ++ [head]) := by
          rw [List.filter_filter]
          congr 1
          funext id
          rw [Bool.eq_iff_iff]
          simp only [List.mem_append, List.mem_singleton, Bool.and_eq_true, Bool.not_eq_true',
            beq_eq_false_iff_ne, decide_eq_true_eq, not_or]
          exact and_comm
        rw [List.filter_cons_of_pos (by simpa using old), List.eraseDups_cons, later]
        simp [addOnce, old]

theorem foldl_addOnce_nil (added : List String) :
    added.foldl (fun found id => addOnce id found) [] = added.eraseDups := by
  simp [foldl_addOnce]

theorem roleOf?_eq_some_iff (distinct : (nodes.map Node.id).Nodup) {role : Role} :
    roleOf? nodes id = some role ↔ ∃ node ∈ nodes, node.id = id ∧ node.payload.role = role := by
  unfold roleOf?
  simp only [Option.map_eq_some_iff, Node.find?_eq_some_iff distinct, and_assoc]

/-- An edge means something where its ends play the roles that its kind asks for. -/
theorem means_iff_roles (distinct : (nodes.map Node.id).Nodup) {edge : Edge} :
    edge.means nodes kind = true ↔
      edge.kind = kind ∧ roleOf? nodes edge.source = some kind.sourceRole ∧
        roleOf? nodes edge.target = some kind.targetRole := by
  rw [means_iff, endOf?_eq_find? distinct, endOf?_eq_find? distinct]
  simp only [EdgeKind.fits_iff, roleOf?, Option.map_eq_some_iff]
  constructor
  · rintro ⟨sameKind, source, target, sourceFound, targetFound, plays⟩
    exact ⟨sameKind, ⟨source, sourceFound, plays.1⟩, target, targetFound, plays.2⟩
  · rintro ⟨sameKind, ⟨source, sourceFound, sourcePlays⟩, target, targetFound, targetPlays⟩
    exact ⟨sameKind, source, target, sourceFound, targetFound, sourcePlays, targetPlays⟩

/-- The nodes to which edges of this kind lead from `source`, in the order of the edges. -/
def targetsFrom (nodes : List Node) (edges : List Edge) (kind : EdgeKind) (source : String) :
    List String :=
  (edges.filter fun edge => edge.kind = kind ∧ edge.source = source ∧
    roleOf? nodes edge.target = some kind.targetRole).map Edge.target

/-- The other agents from which edges of inheritance lead to `target`, in the order of the
edges. -/
def parentsTo (nodes : List Node) (edges : List Edge) (target : String) : List String :=
  (edges.filter fun edge => edge.kind = .inheritance ∧ edge.target = target ∧
    edge.source ≠ target ∧ roleOf? nodes edge.source = some .agent).map Edge.source

theorem map_target_filter (distinct : (nodes.map Node.id).Nodup)
    (plays : roleOf? nodes id = some kind.sourceRole) :
    (edges.filter fun edge => edge.means nodes kind && edge.source == id).map Edge.target =
      targetsFrom nodes edges kind id := by
  unfold targetsFrom
  congr 2
  funext edge
  rw [Bool.eq_iff_iff, Bool.and_eq_true, means_iff_roles distinct, beq_iff_eq, decide_eq_true_eq]
  constructor
  · rintro ⟨⟨sameKind, _, target⟩, source⟩
    exact ⟨sameKind, source, target⟩
  · rintro ⟨sameKind, source, target⟩
    exact ⟨⟨sameKind, source ▸ plays, target⟩, source⟩

theorem map_target_filter_eq_nil (distinct : (nodes.map Node.id).Nodup)
    (playsNot : roleOf? nodes id ≠ some kind.sourceRole) :
    (edges.filter fun edge => edge.means nodes kind && edge.source == id).map Edge.target =
      [] := by
  rw [List.map_eq_nil_iff, List.filter_eq_nil_iff]
  intro edge _ chosen
  rw [Bool.and_eq_true, means_iff_roles distinct, beq_iff_eq] at chosen
  exact playsNot (chosen.2 ▸ chosen.1.2.1)

theorem inherited_eq_parentsTo (distinct : (nodes.map Node.id).Nodup)
    (plays : roleOf? nodes id = some .agent) :
    inherited nodes edges id = parentsTo nodes edges id := by
  unfold inherited parentsTo
  congr 2
  funext edge
  rw [Bool.eq_iff_iff, Bool.and_eq_true, Bool.and_eq_true, means_iff_roles distinct, beq_iff_eq,
    bne_iff_ne, decide_eq_true_eq]
  constructor
  · rintro ⟨⟨⟨sameKind, source, _⟩, target⟩, apart⟩
    exact ⟨sameKind, target, target ▸ apart, source⟩
  · rintro ⟨sameKind, target, apart, source⟩
    exact ⟨⟨⟨sameKind, source, target ▸ plays⟩, target⟩, target ▸ apart⟩

theorem inherited_eq_nil (distinct : (nodes.map Node.id).Nodup)
    (playsNot : roleOf? nodes id ≠ some .agent) : inherited nodes edges id = [] := by
  refine List.eq_nil_iff_forall_not_mem.mpr fun parent inside => ?_
  obtain ⟨_, target, _, sameId, joins⟩ := joins_of_inherited inside
  exact playsNot ((roleOf?_eq_some_iff distinct).mpr
    ⟨target, joins.targetInside, sameId, (EdgeKind.fits_iff.mp joins.fits).2⟩)

theorem isSome_jid?_iff (distinct : (nodes.map Node.id).Nodup) {settings : Settings} :
    ((build settings nodes edges).jid? id).isSome = true ↔ roleOf? nodes id = some .agent := by
  rw [jid?, Option.isSome_map, identity?, identities_build, roleOf?_eq_some_iff distinct]
  constructor
  · intro known
    obtain ⟨identity, found⟩ := Option.isSome_iff_exists.mp known
    obtain ⟨node, inside, sameId, identifies⟩ := identitiesOf_find? found
    have isAgent := identifies.isAgent
    rw [Payload.isAgent_eq, beq_iff_eq] at isAgent
    exact ⟨node, inside, sameId, isAgent⟩
  · rintro ⟨node, inside, rfl, plays⟩
    refine identitiesOf_isSome inside ?_
    rw [Node.isAgent, Payload.isAgent_eq, plays]
    rfl

end Relations

namespace Graph

structure HasViews (graph : Graph) (relations : Relations) : Prop where
  jid : ∀ agent, (relations.jid? agent).isSome = true ↔ roleOf? graph.nodes agent = some .agent
  behaviours : ∀ agent, roleOf? graph.nodes agent = some .agent →
    relations.behavioursOf agent =
      Relations.targetsFrom graph.nodes graph.edges .agentBehaviour agent
  friends : ∀ agent, roleOf? graph.nodes agent = some .agent →
    ∀ jid, jid ∈ relations.friendsOf agent ↔
      ∃ other, roleOf? graph.nodes other = some .agent ∧ agent ≠ other ∧
        graph.Befriends agent other ∧ relations.jid? other = some jid
  friends_sorted : ∀ agent, (relations.friendsOf agent).Pairwise (· < ·)
  parents : ∀ agent, roleOf? graph.nodes agent = some .agent →
    relations.parentsOf agent =
      (Relations.parentsTo graph.nodes graph.edges agent).eraseDups
  template : ∀ behaviour, roleOf? graph.nodes behaviour = some .behaviour →
    relations.template? behaviour =
      (Relations.targetsFrom graph.nodes graph.edges .template behaviour).getLast?
  message : ∀ behaviour, roleOf? graph.nodes behaviour = some .behaviour →
    relations.message? behaviour =
      (Relations.targetsFrom graph.nodes graph.edges .message behaviour).getLast?
  templates : ∀ agent, roleOf? graph.nodes agent = some .agent →
    relations.templatesOf agent =
      ((relations.behavioursOf agent).filterMap relations.template?).eraseDups
  ofNoAgent : ∀ id, roleOf? graph.nodes id ≠ some .agent →
    relations.behavioursOf id = [] ∧ relations.friendsOf id = [] ∧
      relations.parentsOf id = [] ∧ relations.templatesOf id = []
  ofNoBehaviour : ∀ id, roleOf? graph.nodes id ≠ some .behaviour →
    relations.template? id = none ∧ relations.message? id = none

variable {graph : Graph} {settings : Settings}

open Relations

theorem mem_friendsOf_build_iff (distinct : (graph.nodes.map Node.id).Nodup) {agent : String}
    (plays : roleOf? graph.nodes agent = some .agent) {jid : String} :
    jid ∈ (build settings graph.nodes graph.edges).friendsOf agent ↔
      ∃ other, roleOf? graph.nodes other = some .agent ∧ agent ≠ other ∧
        graph.Befriends agent other ∧
          (build settings graph.nodes graph.edges).jid? other = some jid := by
  have agentAt {id : String} (plays : roleOf? graph.nodes id = some .agent) :
      ∃ node ∈ graph.nodes, node.id = id ∧ node.isAgent = true := by
    obtain ⟨node, inside, sameId, role⟩ := (roleOf?_eq_some_iff distinct).mp plays
    refine ⟨node, inside, sameId, ?_⟩
    rw [Node.isAgent, Payload.isAgent_eq, role]
    rfl
  rw [mem_friendsOf_build, ← @jid?_build settings graph.nodes graph.edges]
  constructor
  · rintro ⟨other, isPartner, found⟩
    obtain ⟨apart, befriends⟩ := befriends_of_mem_partners isPartner
    have known : ((build settings graph.nodes graph.edges).jid? other).isSome = true :=
      Option.isSome_iff_exists.mpr ⟨jid, found⟩
    exact ⟨other, (isSome_jid?_iff distinct).mp known, apart, befriends, found⟩
  · rintro ⟨other, otherPlays, apart, befriends, found⟩
    obtain ⟨node, inside, rfl, isAgent⟩ := agentAt plays
    obtain ⟨otherNode, otherInside, rfl, otherIsAgent⟩ := agentAt otherPlays
    exact ⟨otherNode.id, (mem_partners_iff distinct inside isAgent otherInside otherIsAgent).mpr
      ⟨apart, befriends⟩, found⟩

theorem partners_eq_nil (distinct : (graph.nodes.map Node.id).Nodup) {id : String}
    (playsNot : roleOf? graph.nodes id ≠ some .agent) :
    partners graph.nodes graph.edges id = [] := by
  refine List.eq_nil_iff_forall_not_mem.mpr fun other isPartner => playsNot ?_
  obtain ⟨edge, _, joined⟩ := List.mem_filterMap.mp isPartner
  unfold partner? at joined
  split at joined
  · next friendship =>
      obtain ⟨_, source, target⟩ :=
        (means_iff_roles distinct).mp (Bool.and_eq_true_iff.mp friendship).1
      split at joined
      · next isSource => exact isSource ▸ source
      · split at joined
        · next isTarget => exact isTarget ▸ target
        · contradiction
  · contradiction

theorem hasViews_build (settings : Settings) (distinct : (graph.nodes.map Node.id).Nodup) :
    graph.HasViews (build settings graph.nodes graph.edges) where
  jid _ := isSome_jid?_iff distinct
  behaviours agent plays := by
    rw [behavioursOf_build]
    exact map_target_filter distinct plays
  friends _ plays _ := mem_friendsOf_build_iff distinct plays
  friends_sorted _ := List.pairwise_map.mpr (Dict.sorted _)
  parents agent plays := by
    rw [parentsOf_build, foldl_addOnce_nil, inherited_eq_parentsTo distinct plays]
  template behaviour plays := by
    rw [template?_build, lastTarget?, map_target_filter distinct plays]
  message behaviour plays := by
    rw [message?_build, lastTarget?, map_target_filter distinct plays]
  templates agent _ := by
    have template? : (build settings graph.nodes graph.edges).template? =
        lastTarget? graph.nodes .template graph.edges :=
      funext (template?_build graph.nodes settings graph.edges)
    rw [templatesOf_build, foldl_addOnce_nil, behavioursOf_build, template?]
  ofNoAgent id playsNot := by
    have none_attached : attached graph.nodes graph.edges id = [] :=
      map_target_filter_eq_nil distinct playsNot
    refine ⟨?_, ?_, ?_, ?_⟩
    · rw [behavioursOf_build, none_attached]
    · rw [friendsOf_build, partners_eq_nil distinct playsNot]
      rfl
    · rw [parentsOf_build, inherited_eq_nil distinct playsNot]
      rfl
    · rw [templatesOf_build, none_attached]
      rfl
  ofNoBehaviour id playsNot := by
    refine ⟨?_, ?_⟩
    · rw [template?_build, lastTarget?, map_target_filter_eq_nil distinct playsNot]
      rfl
    · rw [message?_build, lastTarget?, map_target_filter_eq_nil distinct playsNot]
      rfl

/-- Edges that come twice, that lead to nothing, back to where they start or to nodes of another
role, and that take the place of earlier ones. -/
def motley : Graph where
  nodes := [⟨"a", none, .agent {}⟩, ⟨"b", none, .reasoning {}⟩, ⟨"c", none, .behaviour {}⟩,
    ⟨"d", none, .behaviour {}⟩, ⟨"t", none, .template {}⟩, ⟨"u", none, .template {}⟩,
    ⟨"m", none, .message {}⟩, ⟨"n", none, .note ""⟩]
  edges := [{ id := "1", source := "a", target := "d", kind := .agentBehaviour },
    { id := "2", source := "a", target := "t", kind := .agentBehaviour },
    { id := "3", source := "a", target := "c", kind := .agentBehaviour },
    { id := "4", source := "a", target := "d", kind := .agentBehaviour },
    { id := "5", source := "b", target := "a", kind := .inheritance },
    { id := "6", source := "a", target := "a", kind := .inheritance },
    { id := "7", source := "b", target := "a", kind := .inheritance },
    { id := "8", source := "b", target := "a", kind := .friendship },
    { id := "9", source := "b", target := "b", kind := .friendship },
    { id := "10", source := "d", target := "t", kind := .template },
    { id := "11", source := "c", target := "t", kind := .template },
    { id := "12", source := "d", target := "u", kind := .template },
    { id := "13", source := "c", target := "m", kind := .message },
    { id := "14", source := "c", target := "gone", kind := .message }]

theorem hasViews_build_motley :
    (motley.nodes.map Node.id).Nodup ∧
      motley.HasViews (build {} motley.nodes motley.edges) :=
  ⟨by decide +kernel, hasViews_build {} (by decide +kernel)⟩

example : (build {} motley.nodes motley.edges).behavioursOf "a" = ["d", "c", "d"] ∧
    (build {} motley.nodes motley.edges).templatesOf "a" = ["u", "t"] ∧
    (build {} motley.nodes motley.edges).parentsOf "a" = ["b"] := by
  decide +kernel

end Graph

end AgentGraph
