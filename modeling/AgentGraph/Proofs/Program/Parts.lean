import AgentGraph.Program.Plan

/-!
The parts of the start-up, and which statements they hold.
-/

namespace AgentGraph

/-- The parts of the start-up, as statements belong to them. -/
inductive Part where
  /-- What stands around the agents' sections. -/
  | frame
  | envelope
  | behaviour
  | start
deriving DecidableEq

def Statement.part : Statement → Part
  | .createAgent .. | .await _ | .nothing => .frame
  | .createEnvelope .. | .setField .. | .setMetadata .. => .envelope
  | .createBehaviour .. | .setMessage .. | .addBehaviour .. => .behaviour
  | .startAgent _ => .start

namespace Envelope

variable {envelope : Envelope} {kind : EnvelopeKind} {name : String} {statement : Statement}

theorem exists_of_mem_statements (inside : statement ∈ envelope.statements kind name) :
    statement = .createEnvelope kind name ∨
      (∃ field value, statement = .setField name field value) ∨
        ∃ key value, statement = .setMetadata name key value := by
  simp only [statements, List.mem_append, List.mem_cons, List.not_mem_nil, or_false,
    List.mem_map] at inside
  rcases inside with (made | ⟨field, _, set⟩) | ⟨entry, _, set⟩
  · exact .inl made
  · exact .inr (.inl ⟨_, _, set.symm⟩)
  · exact .inr (.inr ⟨_, _, set.symm⟩)

theorem part_of_mem_statements (inside : statement ∈ envelope.statements kind name) :
    statement.part = .envelope := by
  obtain rfl | ⟨_, _, rfl⟩ | ⟨_, _, rfl⟩ := exists_of_mem_statements inside
  · rfl
  · rfl
  · rfl

end Envelope

namespace Plan

variable {plan : Plan} {agent : String} {statement : Statement}

/-- Creations make instances of the agents, each of its own class. -/
theorem createAgent_of_creation? {node : Node} (created : plan.creation? node = some statement) :
    ∃ identity password program port verifySecurity,
      plan.relations.identity? node.id = some identity ∧
        statement = .createAgent identity password program port verifySecurity := by
  simp only [creation?, Option.bind_eq_bind, Option.bind_eq_some_iff] at created
  obtain ⟨agent, _, identity, found, same⟩ := created
  injection same with same
  exact ⟨identity, _, _, _, _, found, same.symm⟩

/-- What is written for a template comes from its node. -/
theorem exists_of_mem_templateStatements {id : String}
    (inside : statement ∈ plan.templateStatements agent id) :
    ∃ envelope, plan.payload? id = some (.template envelope) ∧
      statement ∈ envelope.statements .template (plan.templateVariable agent id) := by
  unfold templateStatements at inside
  split at inside
  · next envelope found => exact ⟨envelope, found, inside⟩
  · exact absurd inside List.not_mem_nil

theorem exists_of_mem_messageStatements {id : String}
    (inside : statement ∈ plan.messageStatements agent id) :
    ∃ envelope, plan.payload? id = some (.message envelope) ∧
      statement ∈ envelope.statements .message (plan.messageVariable agent id) := by
  unfold messageStatements at inside
  split at inside
  · next envelope found => exact ⟨envelope, found, inside⟩
  · exact absurd inside List.not_mem_nil

/-- A behaviour is made with the template that is bound to it, given its message, and
attached. -/
theorem exists_of_mem_behaviourStatements {place : Nat} {id : String}
    (inside : statement ∈ plan.behaviourStatements agent place id) :
    ∃ behaviour className, plan.payload? id = some (.behaviour behaviour) ∧
      plan.behaviourClasses.find? id = some className ∧
      (statement = .createBehaviour (behaviourVariable agent place) className
          (behaviour.arguments ((plan.boundTemplate? id).map (plan.templateVariable agent))) ∨
        (∃ messageId, plan.boundMessage? id = some messageId ∧
          statement = .setMessage (behaviourVariable agent place)
            (plan.messageVariable agent messageId)) ∨
        statement = .addBehaviour agent (behaviourVariable agent place)) := by
  unfold behaviourStatements at inside
  split at inside
  · next behaviour className found named =>
      refine ⟨behaviour, className, found, named, ?_⟩
      simp only [List.mem_append, List.mem_cons, List.not_mem_nil, or_false, Option.mem_toList,
        Option.map_eq_some_iff] at inside
      rcases inside with (made | ⟨_, ⟨messageId, bound, rfl⟩, given⟩) | attached
      · exact .inl made
      · exact .inr (.inl ⟨messageId, bound, given.symm⟩)
      · exact .inr (.inr attached)
  · exact absurd inside List.not_mem_nil

theorem part_of_mem_templateStatements {id : String}
    (inside : statement ∈ plan.templateStatements agent id) : statement.part = .envelope := by
  obtain ⟨_, _, inside⟩ := exists_of_mem_templateStatements inside
  exact Envelope.part_of_mem_statements inside

theorem part_of_mem_messageStatements {id : String}
    (inside : statement ∈ plan.messageStatements agent id) : statement.part = .envelope := by
  obtain ⟨_, _, inside⟩ := exists_of_mem_messageStatements inside
  exact Envelope.part_of_mem_statements inside

theorem part_of_mem_behaviourStatements {place : Nat} {id : String}
    (inside : statement ∈ plan.behaviourStatements agent place id) :
    statement.part = .behaviour := by
  obtain ⟨_, _, _, _, rfl | ⟨_, _, rfl⟩ | rfl⟩ := exists_of_mem_behaviourStatements inside
  · rfl
  · rfl
  · rfl

/-- The parts of the start-up that a statement can come from. -/
inductive Emits (plan : Plan) (statement : Statement) : Prop where
  | nothing (same : statement = .nothing)
  | creation (node : Node) (created : plan.creation? node = some statement)
  | template (agent templateId : String)
      (inside : statement ∈ plan.templateStatements agent templateId)
  | message (agent messageId : String)
      (inside : statement ∈ plan.messageStatements agent messageId)
  | behaviour (agent : String) (place : Nat) (behaviourId : String)
      (inside : statement ∈ plan.behaviourStatements agent place behaviourId)
  | start (agent : String) (same : statement = .startAgent agent)
  | await (node : Node) (agent : node ∈ plan.agents) (names : List String)
      (same : statement = .await names)

theorem emits_of_mem (inside : statement ∈ plan.statements) :
    plan.Emits statement := by
  unfold statements at inside
  split at inside
  · exact .nothing (List.mem_singleton.mp inside)
  · next some_agents =>
      rcases List.mem_append.mp inside with earlier | last
      · rcases List.mem_append.mp earlier with created | later
        · obtain ⟨node, _, created⟩ := List.mem_filterMap.mp created
          exact .creation node created
        · obtain ⟨⟨agentId, identity⟩, _, inside⟩ := List.mem_flatMap.mp later
          simp only [agentStatements, List.mem_append, List.mem_flatMap,
            List.mem_singleton] at inside
          rcases inside with ((⟨id, _, inside⟩ | ⟨id, _, inside⟩) | ⟨entry, _, inside⟩) | same
          · exact .template _ id inside
          · exact .message _ id inside
          · exact .behaviour _ entry.2 entry.1 inside
          · exact .start _ same
      · obtain ⟨node, agent⟩ := List.isEmpty_eq_false_iff_exists_mem.mp
          (Bool.eq_false_iff.mpr some_agents)
        exact .await node agent _ (List.mem_singleton.mp last)

end Plan

end AgentGraph
