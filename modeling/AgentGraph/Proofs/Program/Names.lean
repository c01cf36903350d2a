import AgentGraph.Proofs.Naming.Resolved
import AgentGraph.Proofs.Naming.Valid
import AgentGraph.Proofs.Relations.Meaning

/-!
The names of a graph's program: where they come from, node by node.
-/

namespace AgentGraph

open Naming

namespace Naming

theorem mem_allClasses {nodes : List Node} {name : String} :
    name ∈ allClasses nodes ↔
      (∃ node ∈ nodes, node.agentClass? = some name) ∨
        ∃ node ∈ nodes, node.behaviourClass? = some name := by
  rw [allClasses, List.mem_append, agentClasses, behaviourClasses, List.mem_filterMap,
    List.mem_filterMap]

end Naming

namespace Node

theorem isAgent_of_instanceName? {node : Node} {name : String}
    (typed : node.instanceName? = some name) : node.isAgent = true := by
  obtain ⟨agent, isAgent, _⟩ := Option.bind_eq_some_iff.mp typed
  rw [Node.isAgent, Payload.isAgent, isAgent]
  rfl

theorem isAgent_of_agentClass? {node : Node} {name : String}
    (typed : node.agentClass? = some name) : node.isAgent = true := by
  obtain ⟨agent, isAgent, _⟩ := Option.bind_eq_some_iff.mp typed
  rw [Node.isAgent, Payload.isAgent, isAgent]
  rfl

theorem isBehaviour_of_behaviourClass? {node : Node} {name : String}
    (typed : node.behaviourClass? = some name) : node.payload.isBehaviour = true := by
  obtain ⟨behaviour, isBehaviour, _⟩ := Option.bind_eq_some_iff.mp typed
  cases payload : node.payload with
  | behaviour settings => rfl
  | agent | reasoning | prompted | template | message | note =>
      rw [payload] at isBehaviour
      contradiction

end Node

namespace Plan

def ofGraph (settings : Settings) (graph : Graph) : Plan :=
  build settings graph.nodes (Relations.build settings graph.nodes graph.edges)

variable {settings : Settings} {graph : Graph}

theorem identity?_ofGraph {id : String} {identity : Identity}
    (found : (ofGraph settings graph).relations.identity? id = some identity) :
    ∃ node ∈ graph.nodes, node.id = id ∧
      Relations.Identifies settings (instanceNames graph.nodes) (allClasses graph.nodes)
        node identity := by
  apply Relations.identitiesOf_find?
  rwa [← Relations.identities_build graph.nodes settings graph.edges]

/-- The identity of an agent is resolved from its own node. -/
theorem identity?_of_mem (settings : Settings) (distinct : (graph.nodes.map Node.id).Nodup) {node : Node}
    (inside : node ∈ graph.nodes) (isAgent : node.isAgent = true) :
    ∃ identity, (ofGraph settings graph).relations.identity? node.id = some identity ∧
      Relations.Identifies settings (instanceNames graph.nodes) (allClasses graph.nodes)
        node identity := by
  have known := @Relations.identitiesOf_isSome settings graph.nodes node inside isAgent
  rw [← Relations.identities_build graph.nodes settings graph.edges] at known
  obtain ⟨identity, found⟩ := Option.isSome_iff_exists.mp known
  obtain ⟨other, held, sameId, identifies⟩ := identity?_ofGraph found
  obtain rfl := List.inj_on_of_nodup_map distinct held inside sameId
  exact ⟨identity, found, identifies⟩

/-- The names that fallbacks of behaviours keep away from. -/
def behaviourTaken (settings : Settings) (graph : Graph) : List String :=
  (ofGraph settings graph).relations.identities.values.map Identity.className ++
    Naming.behaviourClasses graph.nodes

theorem className_mem_behaviourTaken {agentId : String} {identity : Identity}
    (found : (ofGraph settings graph).relations.identity? agentId = some identity) :
    identity.className ∈ behaviourTaken settings graph := by
  have entry := Dict.find?_eq_some_iff.mp found
  exact List.mem_append_left _ (List.mem_map_of_mem (List.mem_map_of_mem entry))

theorem behaviourClass_ofGraph {id className : String}
    (found : (ofGraph settings graph).behaviourClasses.find? id = some className) :
    ∃ node ∈ graph.nodes, node.id = id ∧ node.payload.isBehaviour = true ∧
      IsResolved "MyBehaviour" (behaviourTaken settings graph) node.behaviourClass?
        className := by
  rcases resolveBehaviours_find? found with old | resolved
  · contradiction
  · exact resolved

theorem behaviourClass_of_mem (settings : Settings) (distinct : (graph.nodes.map Node.id).Nodup) {node : Node}
    (inside : node ∈ graph.nodes) (isBehaviour : node.payload.isBehaviour = true) :
    ∃ className, (ofGraph settings graph).behaviourClasses.find? node.id = some className ∧
      IsResolved "MyBehaviour" (behaviourTaken settings graph) node.behaviourClass?
        className := by
  have known : ((ofGraph settings graph).behaviourClasses.find? node.id).isSome = true :=
    resolveBehaviours_isSome (.inr ⟨node, inside, rfl, isBehaviour⟩)
  obtain ⟨className, found⟩ := Option.isSome_iff_exists.mp known
  obtain ⟨other, held, sameId, _, resolved⟩ := behaviourClass_ofGraph found
  obtain rfl := List.inj_on_of_nodup_map distinct held inside sameId
  exact ⟨className, found, resolved⟩

section Typed

variable (settings : Settings) (distinct : (graph.nodes.map Node.id).Nodup) {node : Node} {name : String}

include distinct

theorem identity?_of_instanceName (inside : node ∈ graph.nodes)
    (typed : node.instanceName? = some name) :
    ∃ identity, (ofGraph settings graph).relations.identity? node.id = some identity ∧
      identity.instanceName = name := by
  obtain ⟨identity, found, identifies⟩ :=
    identity?_of_mem settings distinct inside (Node.isAgent_of_instanceName? typed)
  have resolved := identifies.instanceName
  rw [typed] at resolved
  exact ⟨identity, found, resolved.eq_of_typed.symm⟩

theorem identity?_of_agentClass (inside : node ∈ graph.nodes)
    (typed : node.agentClass? = some name) :
    ∃ identity, (ofGraph settings graph).relations.identity? node.id = some identity ∧
      identity.className = name := by
  obtain ⟨identity, found, identifies⟩ :=
    identity?_of_mem settings distinct inside (Node.isAgent_of_agentClass? typed)
  have resolved := identifies.className
  rw [typed] at resolved
  exact ⟨identity, found, resolved.eq_of_typed.symm⟩

theorem behaviourClass_of_typed (inside : node ∈ graph.nodes)
    (typed : node.behaviourClass? = some name) :
    (ofGraph settings graph).behaviourClasses.find? node.id = some name := by
  obtain ⟨className, found, resolved⟩ :=
    behaviourClass_of_mem settings distinct inside (Node.isBehaviour_of_behaviourClass? typed)
  rw [typed] at resolved
  rw [found, resolved.eq_of_typed]

end Typed

end Plan

end AgentGraph
