import AgentGraph.Proofs.Relations.Meaning
import Mathlib.Data.List.Nodup

/-!
The ends of edges that mean something: nodes of the graph whose payloads fit the kind.
-/

namespace AgentGraph

theorem Node.of_find? {nodes : List Node} {id : String} {node : Node}
    (found : Node.find? nodes id = some node) : node ∈ nodes ∧ node.id = id := by
  have satisfied := @List.find?_some _ (fun node : Node => node.id == id) _ _ found
  exact ⟨List.mem_of_find?_eq_some found, beq_iff_eq.mp satisfied⟩

/-- Where ids are distinct, a node is found by its own. -/
theorem Node.find?_of_mem {nodes : List Node} (distinct : (nodes.map Node.id).Nodup)
    {node : Node} (inside : node ∈ nodes) : Node.find? nodes node.id = some node := by
  have known : (Node.find? nodes node.id).isSome = true :=
    List.find?_isSome.mpr ⟨node, inside, beq_self_eq_true _⟩
  obtain ⟨other, found⟩ := Option.isSome_iff_exists.mp known
  obtain ⟨held, sameId⟩ := Node.of_find? found
  rw [found, List.inj_on_of_nodup_map distinct held inside sameId]

theorem Node.find?_eq_some_iff {nodes : List Node} (distinct : (nodes.map Node.id).Nodup)
    {id : String} {node : Node} :
    Node.find? nodes id = some node ↔ node ∈ nodes ∧ node.id = id := by
  constructor
  · exact Node.of_find?
  · rintro ⟨inside, rfl⟩
    exact Node.find?_of_mem distinct inside

namespace Relations

variable {nodes : List Node} {edges : List Edge} {kind : EdgeKind}

/-- Where ids are distinct, the last node of an id is the first one. -/
theorem endOf?_eq_find? (distinct : (nodes.map Node.id).Nodup) (id : String) :
    endOf? nodes id = Node.find? nodes id := by
  have reversed : (nodes.reverse.map Node.id).Nodup := by
    rw [List.map_reverse]
    exact List.nodup_reverse.mpr distinct
  ext node
  rw [endOf?, Node.find?_eq_some_iff reversed, Node.find?_eq_some_iff distinct,
    List.mem_reverse]

theorem of_endOf? {id : String} {node : Node} (found : endOf? nodes id = some node) :
    node ∈ nodes ∧ node.id = id := by
  obtain ⟨inside, sameId⟩ := Node.of_find? found
  exact ⟨List.mem_reverse.mp inside, sameId⟩

/-- Whether both nodes are there and fit the kind. -/
structure Joins (nodes : List Node) (kind : EdgeKind) (source target : Node) : Prop where
  sourceInside : source ∈ nodes
  targetInside : target ∈ nodes
  fits : kind.fits source.payload target.payload = true

/-- What it takes for an edge to mean something. -/
theorem means_iff {edge : Edge} :
    edge.means nodes kind = true ↔
      edge.kind = kind ∧ ∃ source target, endOf? nodes edge.source = some source ∧
        endOf? nodes edge.target = some target ∧
        kind.fits source.payload target.payload = true := by
  unfold Edge.means
  rw [Bool.and_eq_true, beq_iff_eq]
  apply and_congr_right
  intro _
  cases endOf? nodes edge.source with
  | none => simp
  | some source =>
      cases endOf? nodes edge.target with
      | none => simp
      | some target => simp

theorem joins_of_means {edge : Edge} (means : edge.means nodes kind = true) :
    ∃ source target, source.id = edge.source ∧ target.id = edge.target ∧
      Joins nodes kind source target := by
  obtain ⟨_, source, target, sourceEnd, targetEnd, fits⟩ := means_iff.mp means
  obtain ⟨sourceInside, sourceId⟩ := of_endOf? sourceEnd
  obtain ⟨targetInside, targetId⟩ := of_endOf? targetEnd
  exact ⟨source, target, sourceId, targetId, sourceInside, targetInside, fits⟩

theorem joins_of_attached {agentId behaviourId : String}
    (attached : behaviourId ∈ attached nodes edges agentId) :
    ∃ source target, source.id = agentId ∧ target.id = behaviourId ∧
      Joins nodes .agentBehaviour source target := by
  obtain ⟨edge, filtered, rfl⟩ := List.mem_map.mp attached
  obtain ⟨means, isSource⟩ := Bool.and_eq_true_iff.mp (List.mem_filter.mp filtered).2
  rw [← beq_iff_eq.mp isSource]
  exact joins_of_means means

theorem joins_of_lastTarget? {source target : String}
    (last : lastTarget? nodes kind edges source = some target) :
    ∃ sourceNode targetNode, sourceNode.id = source ∧ targetNode.id = target ∧
      Joins nodes kind sourceNode targetNode := by
  obtain ⟨edge, filtered, rfl⟩ := List.mem_map.mp (List.mem_of_getLast? last)
  obtain ⟨means, isSource⟩ := Bool.and_eq_true_iff.mp (List.mem_filter.mp filtered).2
  rw [← beq_iff_eq.mp isSource]
  exact joins_of_means means

theorem joins_of_inherited {parent child : String} (inside : parent ∈ inherited nodes edges child) :
    ∃ source target, source.id = parent ∧ target.id = child ∧
      Joins nodes .inheritance source target := by
  obtain ⟨edge, filtered, rfl⟩ := List.mem_map.mp inside
  obtain ⟨joined, _⟩ := Bool.and_eq_true_iff.mp (List.mem_filter.mp filtered).2
  obtain ⟨means, isTarget⟩ := Bool.and_eq_true_iff.mp joined
  rw [← beq_iff_eq.mp isTarget]
  exact joins_of_means means

theorem mem_foldl_addOnce {id : String} (added : List String) : ∀ found : List String,
    id ∈ added.foldl (fun found id => addOnce id found) found ↔ id ∈ found ∨ id ∈ added := by
  induction added with
  | nil => simp
  | cons head added ih =>
      intro found
      have once : id ∈ addOnce head found ↔ id ∈ found ∨ id = head := by
        unfold addOnce
        split
        · next inside =>
            refine ⟨.inl, ?_⟩
            rintro (old | rfl)
            · exact old
            · exact inside
        · simp
      rw [List.foldl_cons, ih, once, List.mem_cons, or_assoc]

theorem nodup_foldl_addOnce (added : List String) : ∀ found : List String, found.Nodup →
    (added.foldl (fun found id => addOnce id found) found).Nodup := by
  induction added with
  | nil => exact fun _ distinct => distinct
  | cons head added ih =>
      intro found distinct
      apply ih (addOnce head found)
      unfold addOnce
      split
      · exact distinct
      · next missing =>
          refine List.nodup_append.mpr ⟨distinct, List.nodup_singleton _, ?_⟩
          intro id old other new
          rw [List.mem_singleton.mp new]
          exact fun same => missing (same ▸ old)

end Relations

end AgentGraph
