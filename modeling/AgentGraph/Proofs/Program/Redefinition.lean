import AgentGraph.Proofs.Program.Names

/-!
Whether a class of an agent and a class of a behaviour have the same name, so that the
later one redefines the earlier one. A made-up class is kept away from all classes of the
other kind, but typed ones are compared with those of their own kind only.
-/

namespace AgentGraph

open Naming

namespace Plan

/-- Whether no class of an agent has the name of a class of a behaviour. -/
def RedefinesNoClass (plan : Plan) : Prop :=
  ∀ agentId identity, plan.relations.identity? agentId = some identity →
    ∀ behaviourId className, plan.behaviourClasses.find? behaviourId = some className →
      identity.className ≠ className

variable {settings : Settings} {graph : Graph}

theorem typed_of_redefined {agentId behaviourId : String} {identity : Identity}
    (agentFound : (ofGraph settings graph).relations.identity? agentId = some identity)
    (behaviourFound : (ofGraph settings graph).behaviourClasses.find? behaviourId =
      some identity.className) :
    identity.className ∈ agentClasses graph.nodes ∧
      identity.className ∈ Naming.behaviourClasses graph.nodes := by
  obtain ⟨agent, agentInside, _, identifies⟩ := identity?_ofGraph agentFound
  obtain ⟨behaviour, behaviourInside, _, _, resolved⟩ := behaviourClass_ofGraph behaviourFound
  have isBehaviourClass : identity.className ∈ Naming.behaviourClasses graph.nodes := by
    rcases resolved with typed | ⟨_, free, _⟩
    · exact List.mem_filterMap.mpr ⟨behaviour, behaviourInside, typed⟩
    · exact absurd (className_mem_behaviourTaken agentFound) free
  refine ⟨?_, isBehaviourClass⟩
  rcases identifies.className with typed | ⟨_, free, _⟩
  · exact List.mem_filterMap.mpr ⟨agent, agentInside, typed⟩
  · exact absurd (List.mem_append_right _ isBehaviourClass) free

theorem redefinesNoClass_iff (settings : Settings)
    (distinct : (graph.nodes.map Node.id).Nodup) :
    (ofGraph settings graph).RedefinesNoClass ↔
      ∀ name ∈ agentClasses graph.nodes, name ∉ Naming.behaviourClasses graph.nodes := by
  constructor
  · intro redefines name isAgentClass isBehaviourClass
    obtain ⟨agent, agentInside, agentTyped⟩ := List.mem_filterMap.mp isAgentClass
    obtain ⟨behaviour, behaviourInside, behaviourTyped⟩ :=
      List.mem_filterMap.mp isBehaviourClass
    obtain ⟨identity, agentFound, same⟩ :=
      identity?_of_agentClass settings distinct agentInside agentTyped
    have behaviourFound :=
      behaviourClass_of_typed settings distinct behaviourInside behaviourTyped
    exact redefines _ _ agentFound _ _ behaviourFound same
  · rintro apart agentId identity agentFound behaviourId _ behaviourFound rfl
    obtain ⟨isAgentClass, isBehaviourClass⟩ := typed_of_redefined agentFound behaviourFound
    exact apart _ isAgentClass isBehaviourClass

def homonyms : Graph where
  nodes := [⟨"a", none, .agent { instanceName := "alice", className := "Poll" }⟩,
    ⟨"b", none, .behaviour { className := "Poll" }⟩]
  edges := [{ id := "e", source := "a", target := "b", kind := .agentBehaviour }]

theorem homonyms_redefined :
    (homonyms.nodes.map Node.id).Nodup ∧ violations homonyms.nodes = [] ∧
      ¬(ofGraph {} homonyms).RedefinesNoClass := by
  refine ⟨by decide +kernel, by decide +kernel, ?_⟩
  intro redefines
  have agentFound : (ofGraph {} homonyms).relations.identity? "a" =
      some ⟨"alice", "Poll", "alice@localhost"⟩ := by decide +kernel
  have behaviourFound : (ofGraph {} homonyms).behaviourClasses.find? "b" = some "Poll" := by
    decide +kernel
  exact redefines "a" _ agentFound "b" _ behaviourFound rfl

theorem redefinesNoClass_iff_homonyms :
    (homonyms.nodes.map Node.id).Nodup ∧
      ((ofGraph {} homonyms).RedefinesNoClass ↔
        ∀ name ∈ agentClasses homonyms.nodes, name ∉ Naming.behaviourClasses homonyms.nodes) :=
  ⟨by decide +kernel, redefinesNoClass_iff {} (by decide +kernel)⟩

end Plan

end AgentGraph
