import AgentGraph.Proofs.Naming.Identifiers
import AgentGraph.Proofs.Program.Names
import AgentGraph.Proofs.Relations.Friends

/-!
What names are worth once they are resolved: within each kind they are distinct, and all
but the agents' classes are identifiers that are not reserved. A made-up class is no class
of the other kind.
-/

namespace AgentGraph

open Naming

namespace Plan

/-- Whether every agent and behaviour has its names, and these keep the rules of their kind. -/
structure HasSoundNames (plan : Plan) : Prop where
  agents_named : ∀ node ∈ plan.nodes, node.isAgent = true →
    (plan.relations.identity? node.id).isSome = true
  behaviours_named : ∀ node ∈ plan.nodes, node.payload.isBehaviour = true →
    (plan.behaviourClasses.find? node.id).isSome = true
  instanceNames_distinct : plan.relations.identities.Separates Identity.instanceName
  agentClasses_distinct : plan.relations.identities.Separates Identity.className
  jids_distinct : plan.relations.identities.Separates Identity.jid
  behaviourClasses_distinct : plan.behaviourClasses.Separates id
  instanceName : ∀ agentId identity, plan.relations.identity? agentId = some identity →
    isIdentifier identity.instanceName = true ∧ isReserved identity.instanceName = false
  behaviourClass : ∀ behaviourId className,
    plan.behaviourClasses.find? behaviourId = some className →
      isIdentifier className = true ∧ isReserved className = false
  madeAgentClass : ∀ node ∈ plan.nodes, node.agentClass? = none →
    ∀ identity ∈ plan.relations.identity? node.id,
      identity.className ∉ Naming.behaviourClasses plan.nodes
  madeBehaviourClass : ∀ node ∈ plan.nodes, node.behaviourClass? = none →
    ∀ className ∈ plan.behaviourClasses.find? node.id,
      ∀ agentId identity, plan.relations.identity? agentId = some identity →
        className ≠ identity.className

variable {settings : Settings} {graph : Graph}

section Rules

variable (rules : IsValid graph.nodes)

include rules

theorem identities_separates :
    (ofGraph settings graph).relations.identities.Separates Identity.instanceName ∧
      (ofGraph settings graph).relations.identities.Separates Identity.className ∧
        (ofGraph settings graph).relations.identities.Separates Identity.jid := by
  rw [show (ofGraph settings graph).relations.identities =
    Relations.identitiesOf settings graph.nodes from
      Relations.identities_build graph.nodes settings graph.edges]
  obtain ⟨names, classes⟩ := Relations.identitiesOf_separates settings rules
  refine ⟨names, classes, ?_⟩
  intro first second identity other found otherFound same
  exact Relations.jid_injective rules found otherFound same

theorem behaviourClasses_separates : (ofGraph settings graph).behaviourClasses.Separates id := by
  have apart : Apart (Dict.empty : Dict String).values (Naming.behaviourClasses graph.nodes)
      (behaviourTaken settings graph) :=
    .initially rules.behaviourClasses_nodup (List.subset_append_right _ _)
  exact Dict.separates_of_values_nodup (resolveBehaviours_nodup apart)

theorem isIdentifier_instanceName {agentId : String} {identity : Identity}
    (found : (ofGraph settings graph).relations.identity? agentId = some identity) :
    isIdentifier identity.instanceName = true ∧ isReserved identity.instanceName = false := by
  obtain ⟨node, inside, _, identifies⟩ := identity?_ofGraph found
  have sound : ∀ name ∈ node.instanceName?,
      isIdentifier name = true ∧ isReserved name = false ∧ name ∉ allClasses graph.nodes :=
    fun name typed => rules.instanceName name (List.mem_filterMap.mpr ⟨node, inside, typed⟩)
  constructor
  · exact identifies.instanceName.isIdentifier (by decide) fun name typed => (sound name typed).1
  · exact identifies.instanceName.isReserved fun name typed => (sound name typed).2.1

theorem isIdentifier_behaviourClass {behaviourId className : String}
    (found : (ofGraph settings graph).behaviourClasses.find? behaviourId = some className) :
    isIdentifier className = true ∧ isReserved className = false := by
  obtain ⟨node, inside, _, _, resolved⟩ := behaviourClass_ofGraph found
  have sound : ∀ name ∈ node.behaviourClass?,
      isIdentifier name = true ∧ isReserved name = false :=
    fun name typed => rules.behaviourClass name (List.mem_filterMap.mpr ⟨node, inside, typed⟩)
  constructor
  · exact resolved.isIdentifier (by decide) fun name typed => (sound name typed).1
  · exact resolved.isReserved fun name typed => (sound name typed).2

end Rules

section Distinct

variable (distinct : (graph.nodes.map Node.id).Nodup) {node : Node} (inside : node ∈ graph.nodes)

include distinct inside

theorem madeAgentClass_not_mem (untyped : node.agentClass? = none) {identity : Identity}
    (found : (ofGraph settings graph).relations.identity? node.id = some identity) :
    identity.className ∉ allClasses graph.nodes := by
  obtain ⟨other, held, sameId, identifies⟩ := identity?_ofGraph found
  obtain rfl := List.inj_on_of_nodup_map distinct held inside sameId
  exact identifies.className.not_mem untyped

theorem madeBehaviourClass_ne (untyped : node.behaviourClass? = none) {className : String}
    (found : (ofGraph settings graph).behaviourClasses.find? node.id = some className)
    {agentId : String} {identity : Identity}
    (agentFound : (ofGraph settings graph).relations.identity? agentId = some identity) :
    className ≠ identity.className := by
  rintro rfl
  obtain ⟨other, held, sameId, _, resolved⟩ := behaviourClass_ofGraph found
  obtain rfl := List.inj_on_of_nodup_map distinct held inside sameId
  exact resolved.not_mem untyped (className_mem_behaviourTaken agentFound)

end Distinct

theorem hasSoundNames_ofGraph (settings : Settings)
    (distinct : (graph.nodes.map Node.id).Nodup) (valid : violations graph.nodes = []) :
    (ofGraph settings graph).HasSoundNames := by
  have rules := (violations_eq_nil_iff graph.nodes).mp valid
  obtain ⟨names, classes, jids⟩ := @identities_separates settings graph rules
  refine {
    agents_named := ?_
    behaviours_named := ?_
    instanceNames_distinct := names
    agentClasses_distinct := classes
    jids_distinct := jids
    behaviourClasses_distinct := behaviourClasses_separates rules
    instanceName := fun _ _ found => isIdentifier_instanceName rules found
    behaviourClass := fun _ _ found => isIdentifier_behaviourClass rules found
    madeAgentClass := ?_
    madeBehaviourClass := ?_ }
  · intro node inside isAgent
    obtain ⟨identity, found, _⟩ := identity?_of_mem settings distinct inside isAgent
    rw [found]
    rfl
  · intro node inside isBehaviour
    obtain ⟨className, found, _⟩ :=
      behaviourClass_of_mem settings distinct inside isBehaviour
    rw [found]
    rfl
  · intro node inside untyped identity found isClass
    exact madeAgentClass_not_mem distinct inside untyped found (List.mem_append_right _ isClass)
  · intro node inside untyped className found agentId identity agentFound
    exact madeBehaviourClass_ne distinct inside untyped found agentFound

/-- Typed names that look like made-up ones, beside nodes that were left without names. -/
def lookalikes : Graph where
  nodes := [⟨"a", none, .agent {}⟩,
    ⟨"b", none, .agent { instanceName := "agent1", className := "MyBehaviour1" }⟩,
    ⟨"c", none, .behaviour {}⟩,
    ⟨"d", none, .behaviour { className := "MyAgent1" }⟩]

theorem hasSoundNames_ofGraph_lookalikes :
    (lookalikes.nodes.map Node.id).Nodup ∧ violations lookalikes.nodes = [] ∧
      (ofGraph {} lookalikes).HasSoundNames :=
  ⟨by decide +kernel, by decide +kernel,
    hasSoundNames_ofGraph {} (by decide +kernel) (by decide +kernel)⟩

end Plan

end AgentGraph
