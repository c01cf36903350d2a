import AgentGraph.Proofs.Graph.Consistent
import AgentGraph.Proofs.Graph.Views

/-!
A behaviour's template in the index and before the policy. The index goes by the kind of an edge
and by its ends; the policy looks for an edge of that kind that leaves the behaviour by the kind's
own handle. They see the same bindings where the edges were made by connections, but not where
edges came without that handle.
-/

namespace AgentGraph

namespace Connection

def binding (behaviour template : String) : Connection :=
  ⟨behaviour, template, .template, .template⟩

theorem classify_binding {nodes : List Node} {edges : List Edge} {behaviour template : String}
    (isBehaviour : roleOf? nodes behaviour = some .behaviour)
    (isTemplate : roleOf? nodes template = some .template) :
    (binding behaviour template).classify nodes edges =
      if hasOutgoing edges behaviour .template then .error (.duplicateTemplate behaviour)
      else .ok .template := by
  obtain ⟨source, sourceFound, sourceRole⟩ := Option.map_eq_some_iff.mp isBehaviour
  obtain ⟨target, targetFound, targetRole⟩ := Option.map_eq_some_iff.mp isTemplate
  let request := binding behaviour template
  have determined : EdgeKind.ofEnds? source.payload target.payload request.sourceHandle
      request.targetHandle = some .template :=
    EdgeKind.ofEnds?_eq_some.mpr ⟨EdgeKind.fits_iff.mpr ⟨sourceRole, targetRole⟩, rfl⟩
  have sourceFound : Node.find? nodes request.source = some source := sourceFound
  have targetFound : Node.find? nodes request.target = some target := targetFound
  have obstacle : request.obstacle? edges .template =
      if hasOutgoing edges behaviour .template then some (.duplicateTemplate behaviour)
      else none := rfl
  change request.classify nodes edges = _
  rw [classify, sourceFound, targetFound]
  simp only [determined, obstacle]
  by_cases held : hasOutgoing edges behaviour .template = true
  · rw [if_pos held, if_pos held]
  · rw [if_neg held, if_neg held]

end Connection

namespace Graph

open Connection Relations

variable {graph : Graph} {settings : Settings} {behaviour template bound : String}

/-- Whether every request to bind the behaviour to a template of the graph is refused, since it
has one. -/
def GuardsTemplate (graph : Graph) (behaviour : String) : Prop :=
  ∀ template, roleOf? graph.nodes template = some .template →
    (binding behaviour template).classify graph.nodes graph.edges =
      .error (.duplicateTemplate behaviour)

theorem guardsTemplate_iff_hasOutgoing
    (isBehaviour : roleOf? graph.nodes behaviour = some .behaviour)
    (isTemplate : roleOf? graph.nodes template = some .template) :
    graph.GuardsTemplate behaviour ↔ hasOutgoing graph.edges behaviour .template = true := by
  constructor
  · intro guards
    have refused := guards template isTemplate
    rw [classify_binding isBehaviour isTemplate] at refused
    by_contra free
    rw [if_neg free] at refused
    contradiction
  · intro leaves other otherIsTemplate
    rw [classify_binding isBehaviour otherIsTemplate, if_pos leaves]

theorem exists_binding (distinct : (graph.nodes.map Node.id).Nodup)
    (binds : (build settings graph.nodes graph.edges).template? behaviour = some bound) :
    roleOf? graph.nodes behaviour = some .behaviour ∧
      roleOf? graph.nodes bound = some .template ∧
      ∃ edge ∈ graph.edges, edge.kind = .template ∧ edge.source = behaviour := by
  rw [template?_build] at binds
  obtain ⟨edge, filtered, rfl⟩ := List.mem_map.mp (List.mem_of_getLast? binds)
  obtain ⟨inside, chosen⟩ := List.mem_filter.mp filtered
  obtain ⟨means, leaves⟩ := Bool.and_eq_true_iff.mp chosen
  obtain ⟨sameKind, source, target⟩ := (means_iff_roles distinct).mp means
  have leaves : edge.source = behaviour := beq_iff_eq.mp leaves
  exact ⟨leaves ▸ source, target, edge, inside, sameKind, leaves⟩

theorem template?_concat_binding (distinct : (graph.nodes.map Node.id).Nodup)
    (isBehaviour : roleOf? graph.nodes behaviour = some .behaviour)
    (isTemplate : roleOf? graph.nodes template = some .template) :
    (build settings graph.nodes
      (graph.edges ++ [(binding behaviour template).edge .template])).template? behaviour =
      some template := by
  have means : ((binding behaviour template).edge .template).means graph.nodes .template = true :=
    (means_iff_roles distinct).mpr ⟨rfl, isBehaviour, isTemplate⟩
  have leaves : (((binding behaviour template).edge .template).source == behaviour) = true :=
    beq_self_eq_true behaviour
  rw [template?_build, lastTarget?, List.filter_append, List.filter_singleton, means, leaves]
  simp [binding, Connection.edge]

theorem IsConsistent.guardsTemplate (consistent : graph.IsConsistent)
    (distinct : (graph.nodes.map Node.id).Nodup)
    (binds : (build settings graph.nodes graph.edges).template? behaviour = some bound) :
    graph.GuardsTemplate behaviour := by
  obtain ⟨isBehaviour, isTemplate, edge, inside, sameKind, leaves⟩ :=
    exists_binding distinct binds
  have handle := (consistent.made edge inside).sourceHandle
  rw [sameKind] at handle
  apply (guardsTemplate_iff_hasOutgoing isBehaviour isTemplate).mpr
  exact hasOutgoing_iff.mpr ⟨edge, inside, sameKind, leaves, handle⟩

/-- A binding that the index sees is guarded just where an edge of the kind leaves the behaviour
by the handle of the kind, and so wherever all such edges have that handle. One that is not
guarded gives way to any other template that is asked for. -/
theorem guardsTemplate_iff (distinct : (graph.nodes.map Node.id).Nodup)
    (binds : (build settings graph.nodes graph.edges).template? behaviour = some bound) :
    (graph.GuardsTemplate behaviour ↔
      ∃ edge ∈ graph.edges, edge.kind = .template ∧ edge.source = behaviour ∧
        edge.sourceHandle = some .template) ∧
    ((∀ edge ∈ graph.edges, edge.kind = .template → edge.sourceHandle = some .template) →
      graph.GuardsTemplate behaviour) ∧
    (¬graph.GuardsTemplate behaviour →
      ∀ template, roleOf? graph.nodes template = some .template →
        (binding behaviour template).classify graph.nodes graph.edges = .ok .template ∧
        (build settings graph.nodes
          (graph.edges ++ [(binding behaviour template).edge .template])).template? behaviour =
          some template) := by
  obtain ⟨isBehaviour, isTemplate, edge, inside, sameKind, leaves⟩ :=
    exists_binding distinct binds
  have guards := guardsTemplate_iff_hasOutgoing isBehaviour isTemplate
  refine ⟨guards.trans hasOutgoing_iff, ?_, ?_⟩
  · intro handled
    apply guards.mpr
    exact hasOutgoing_iff.mpr ⟨edge, inside, sameKind, leaves, handled edge inside sameKind⟩
  · intro unguarded other otherIsTemplate
    have free : ¬hasOutgoing graph.edges behaviour .template = true :=
      fun held => unguarded (guards.mpr held)
    refine ⟨?_, template?_concat_binding distinct isBehaviour otherIsTemplate⟩
    rw [classify_binding isBehaviour otherIsTemplate, if_neg free]

def mixedBindings : Graph where
  nodes := [⟨"b", none, .behaviour {}⟩, ⟨"c", none, .behaviour {}⟩, ⟨"t", none, .template {}⟩,
    ⟨"u", none, .template {}⟩]
  edges := [(binding "b" "t").edge .template,
    { id := "1", source := "c", target := "t", kind := .template }]

theorem guardsTemplate_iff_mixedBindings :
    (mixedBindings.nodes.map Node.id).Nodup ∧
      (build {} mixedBindings.nodes mixedBindings.edges).template? "b" = some "t" ∧
      (mixedBindings.GuardsTemplate "b" ↔
        ∃ edge ∈ mixedBindings.edges, edge.kind = .template ∧ edge.source = "b" ∧
          edge.sourceHandle = some .template) ∧
      (build {} mixedBindings.nodes mixedBindings.edges).template? "c" = some "t" ∧
      (¬mixedBindings.GuardsTemplate "c" →
        ∀ template, roleOf? mixedBindings.nodes template = some .template →
          (binding "c" template).classify mixedBindings.nodes mixedBindings.edges =
            .ok .template ∧
          (build {} mixedBindings.nodes (mixedBindings.edges ++
            [(binding "c" template).edge .template])).template? "c" = some template) := by
  have distinct : (mixedBindings.nodes.map Node.id).Nodup := by decide +kernel
  have handled : (build {} mixedBindings.nodes mixedBindings.edges).template? "b" = some "t" := by
    decide +kernel
  have unhandled : (build {} mixedBindings.nodes mixedBindings.edges).template? "c" =
      some "t" := by decide +kernel
  exact ⟨distinct, handled, (guardsTemplate_iff distinct handled).1, unhandled,
    (guardsTemplate_iff distinct unhandled).2.2⟩

/-- The index sees the binding of a behaviour to `t`, and yet the one to `u` is accepted and takes
its place. -/
theorem mixedBindings_replaced :
    (mixedBindings.nodes.map Node.id).Nodup ∧
      (build {} mixedBindings.nodes mixedBindings.edges).template? "c" = some "t" ∧
      (binding "c" "u").classify mixedBindings.nodes mixedBindings.edges = .ok .template ∧
      (build {} mixedBindings.nodes (mixedBindings.edges ++
        [(binding "c" "u").edge .template])).template? "c" = some "u" := by
  decide +kernel

end Graph

end AgentGraph
