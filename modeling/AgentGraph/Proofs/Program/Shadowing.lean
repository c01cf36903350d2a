import AgentGraph.Proofs.Program.Names

/-!
Whether the main function binds the name of a class to an agent. The rules for names
compare what was typed; a name that was made up is compared with names of its own kind
only, and so may meet a typed name of the other kind.
-/

namespace AgentGraph

open Naming

namespace Naming

theorem numbered_ne {stem other : String} {c d : Char} (first : stem.toList.head? = some c)
    (second : other.toList.head? = some d) (different : c ≠ d) (number another : Nat) :
    numbered stem number ≠ numbered other another := by
  intro same
  have heads := congrArg (fun name : String => name.toList.head?) same
  simp only [toList_numbered, List.head?_append, first, second, Option.some_or,
    Option.some.injEq] at heads
  exact different heads

theorem IsResolved.ne {stem other name another : String} {taken more names others : List String}
    {typed typedOther : Option String} (resolved : IsResolved stem taken typed name)
    (resolvedOther : IsResolved other more typedOther another)
    (listed : ∀ name ∈ typed, name ∈ names) (listedOther : ∀ name ∈ typedOther, name ∈ others)
    (typedDiffer : ∀ name ∈ names, name ∉ others)
    (madeDiffer : ∀ number other', numbered stem number ≠ numbered other other')
    (free : typed = none → name ∉ others) (freeOther : typedOther = none → another ∉ names) :
    name ≠ another := by
  rintro rfl
  rcases resolved with isTyped | ⟨untyped, _, number, made⟩
  · rcases resolvedOther with isOther | ⟨untypedOther, _⟩
    · exact typedDiffer name (listed name isTyped) (listedOther name isOther)
    · exact freeOther untypedOther (listed name isTyped)
  · rcases resolvedOther with isOther | ⟨_, _, otherNumber, madeOther⟩
    · exact free untyped (listedOther name isOther)
    · exact madeDiffer number otherNumber (made.symm.trans madeOther)

end Naming

namespace Plan

/-- Whether no instance of an agent has the name of a class of an agent or a behaviour. -/
def ShadowsNoClass (plan : Plan) : Prop :=
  ∀ agentId identity, plan.relations.identity? agentId = some identity →
    (∀ otherId other, plan.relations.identity? otherId = some other →
      identity.instanceName ≠ other.className) ∧
    ∀ behaviourId className, plan.behaviourClasses.find? behaviourId = some className →
      identity.instanceName ≠ className

/-- Whether no made-up name meets a typed name of the other kind at this node. -/
structure MeetsNoTyped (plan : Plan) (node : Node) : Prop where
  instanceName : node.instanceName? = none →
    ∀ identity ∈ plan.relations.identity? node.id,
      identity.instanceName ∉ allClasses plan.nodes
  agentClass : node.agentClass? = none →
    ∀ identity ∈ plan.relations.identity? node.id,
      identity.className ∉ instanceNames plan.nodes
  behaviourClass : node.behaviourClass? = none →
    ∀ className ∈ plan.behaviourClasses.find? node.id, className ∉ instanceNames plan.nodes

/-- Typed names never meet each other, and made-up names never meet each other. -/
theorem shadowsNoClass_iff (settings : Settings) {graph : Graph}
    (distinct : (graph.nodes.map Node.id).Nodup) (valid : violations graph.nodes = []) :
    (ofGraph settings graph).ShadowsNoClass ↔
      ∀ node ∈ graph.nodes, (ofGraph settings graph).MeetsNoTyped node := by
  have rules := (violations_eq_nil_iff graph.nodes).mp valid
  constructor
  · intro shadows node inside
    refine ⟨?_, ?_, ?_⟩
    · intro _ identity found isClass
      rcases mem_allClasses.mp isClass with ⟨other, held, typed⟩ | ⟨other, held, typed⟩
      · obtain ⟨otherIdentity, otherFound, same⟩ :=
          identity?_of_agentClass settings distinct held typed
        exact (shadows _ _ found).1 _ _ otherFound same.symm
      · have classFound := behaviourClass_of_typed settings distinct held typed
        exact (shadows _ _ found).2 _ _ classFound rfl
    · intro _ identity found isName
      obtain ⟨other, held, typed⟩ := List.mem_filterMap.mp isName
      obtain ⟨otherIdentity, otherFound, same⟩ :=
        identity?_of_instanceName settings distinct held typed
      exact (shadows _ _ otherFound).1 _ _ found same
    · intro _ className found isName
      obtain ⟨other, held, typed⟩ := List.mem_filterMap.mp isName
      obtain ⟨otherIdentity, otherFound, same⟩ :=
        identity?_of_instanceName settings distinct held typed
      exact (shadows _ _ otherFound).2 _ _ found same
  · intro meets agentId identity found
    obtain ⟨node, inside, rfl, identifies⟩ := identity?_ofGraph found
    have typedName : ∀ name ∈ node.instanceName?, name ∈ instanceNames graph.nodes :=
      fun name typed => List.mem_filterMap.mpr ⟨node, inside, typed⟩
    have typedDiffer : ∀ name ∈ instanceNames graph.nodes, name ∉ allClasses graph.nodes :=
      fun name isName => (rules.instanceName name isName).2.2
    have free : node.instanceName? = none → identity.instanceName ∉ allClasses graph.nodes :=
      fun untyped => (meets node inside).instanceName untyped identity found
    constructor
    · intro otherId other otherFound
      obtain ⟨otherNode, held, rfl, otherIdentifies⟩ := identity?_ofGraph otherFound
      have typedClass : ∀ name ∈ otherNode.agentClass?, name ∈ allClasses graph.nodes :=
        fun name typed => mem_allClasses.mpr (.inl ⟨otherNode, held, typed⟩)
      exact identifies.instanceName.ne otherIdentifies.className typedName typedClass
        typedDiffer (numbered_ne rfl rfl (by decide)) free
        fun untyped => (meets otherNode held).agentClass untyped other otherFound
    · intro behaviourId className classFound
      obtain ⟨otherNode, held, rfl, _, resolved⟩ := behaviourClass_ofGraph classFound
      have typedClass : ∀ name ∈ otherNode.behaviourClass?, name ∈ allClasses graph.nodes :=
        fun name typed => mem_allClasses.mpr (.inr ⟨otherNode, held, typed⟩)
      exact identifies.instanceName.ne resolved typedName typedClass typedDiffer
        (numbered_ne rfl rfl (by decide)) free
        fun untyped => (meets otherNode held).behaviourClass untyped className classFound

def unnamedAgent : Graph where
  nodes := [⟨"a", none, .agent { className := "agent1" }⟩]

theorem unnamedAgent_shadows :
    (unnamedAgent.nodes.map Node.id).Nodup ∧ violations unnamedAgent.nodes = [] ∧
      ¬(ofGraph {} unnamedAgent).ShadowsNoClass := by
  refine ⟨by decide +kernel, by decide +kernel, ?_⟩
  intro shadows
  have found : (ofGraph {} unnamedAgent).relations.identity? "a" =
      some ⟨"agent1", "agent1", "agent1@localhost"⟩ := by decide +kernel
  exact (shadows "a" _ found).1 "a" _ found rfl

theorem shadowsNoClass_iff_unnamedAgent :
    (unnamedAgent.nodes.map Node.id).Nodup ∧ violations unnamedAgent.nodes = [] ∧
      ((ofGraph {} unnamedAgent).ShadowsNoClass ↔
        ∀ node ∈ unnamedAgent.nodes, (ofGraph {} unnamedAgent).MeetsNoTyped node) :=
  ⟨by decide +kernel, by decide +kernel,
    shadowsNoClass_iff {} (by decide +kernel) (by decide +kernel)⟩

end Plan

end AgentGraph
