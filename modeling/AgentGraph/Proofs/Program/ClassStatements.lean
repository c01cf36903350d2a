import AgentGraph.Proofs.Naming.Identifiers
import AgentGraph.Proofs.Program.Heirs
import AgentGraph.Proofs.Program.Names
import AgentGraph.Proofs.Program.Parts
import Mathlib.Data.List.TakeWhile

/-!
The class names that the program writes for agents: in the class statements, among the
classes that these extend, and where instances are made. The rules for names do not ask
of a typed class that it be an identifier, and nothing later does.
-/

namespace AgentGraph

open Naming

theorem Text.trimEnd_append_of_shown (first : String) {second : String}
    (shown : isBlankText second = false) :
    trimEnd (first ++ second) = first ++ trimEnd second := by
  have kept : (second.toList.reverse.dropWhile isBlank).isEmpty = false := by
    by_contra gone
    rw [Bool.not_eq_false, List.isEmpty_iff, List.dropWhile_eq_nil_iff] at gone
    rw [isBlankText, ← List.all_reverse, List.all_eq_true.mpr gone] at shown
    contradiction
  rw [trimEnd, trimEnd, dropBlankEnd, dropBlankEnd, dropBlank, dropBlank, String.toList_append,
    List.reverse_append, List.dropWhile_append, kept]
  simp

theorem Text.isBlankText_intercalate (separator : String) {head : String} (rest : List String)
    (shown : isBlankText head = false) :
    isBlankText (separator.intercalate (head :: rest)) = false := by
  cases rest with
  | nil => rwa [String.intercalate_singleton]
  | cons next rest =>
      rw [isBlankText] at shown
      rw [String.intercalate_cons_cons, isBlankText, String.toList_append, String.toList_append,
        List.all_append, List.all_append, shown]
      rfl

/-- A class statement; the body is what comes after the first line. -/
structure ClassStatement where
  name : String
  bases : List String
  body : String

def ClassStatement.text (statement : ClassStatement) : String :=
  "class " ++ statement.name ++ "(" ++ ", ".intercalate statement.bases ++ "):" ++ "\n" ++
    statement.body

namespace Payload

/-- The classes that an agent's class extends: those of its parents, or else the framework's. -/
def bases (payload : Payload) (parents : List String) : List String :=
  if parents.isEmpty then [payload.frameworkClass] else parents

def bodyText (payload : Payload) (shared : AgentSettings) (friends parents : List String) :
    String :=
  Text.trimEnd ("\n".intercalate ((memberIndent ++ "async def setup(self):") ::
    (payload.preparationLines shared friends parents ++ setupLines shared.setupCode ++
      payload.functionLines)))

theorem isIdentifier_bases (payload : Payload) {parents : List String}
    (identifiers : ∀ parent ∈ parents, isIdentifier parent = true) :
    ∀ base ∈ payload.bases parents, isIdentifier base = true := by
  unfold bases
  split
  · intro base inside
    rw [List.mem_singleton.mp inside, frameworkClass]
    split <;> decide
  · exact identifiers

theorem classText_eq {payload : Payload} {shared : AgentSettings}
    (isAgent : payload.agent? = some shared) (className : String)
    (friends parents : List String) :
    payload.classText className friends parents =
      ClassStatement.text ⟨className, payload.bases parents,
        payload.bodyText shared friends parents⟩ := by
  have base : (if parents.isEmpty then payload.frameworkClass else ", ".intercalate parents) =
      ", ".intercalate (payload.bases parents) := by
    unfold bases
    split
    · rw [String.intercalate_singleton]
    · rfl
  have shown : Text.isBlankText (memberIndent ++ "async def setup(self):") = false := by decide
  rw [classText, isAgent]
  simp only [classLines, base, List.cons_append, List.nil_append]
  rw [String.intercalate_cons_cons,
    Text.trimEnd_append_of_shown _ (Text.isBlankText_intercalate _ _ shown)]
  rfl

end Payload

namespace Plan

def classStatement? (plan : Plan) (heir : Heir) : Option ClassStatement := do
  let shared ← heir.node.payload.agent?
  let identity ← plan.relations.identity? heir.node.id
  let friends := plan.relations.friendsOf heir.node.id
  let parents := plan.classNames heir.parents
  return ⟨identity.className, heir.node.payload.bases parents,
    heir.node.payload.bodyText shared friends parents⟩

def classStatements (plan : Plan) : List ClassStatement :=
  plan.heirs.filterMap plan.classStatement?

theorem agentClassTexts_eq (plan : Plan) :
    plan.agentClassTexts = plan.classStatements.map ClassStatement.text := by
  unfold agentClassTexts classStatements
  rw [List.map_filterMap]
  apply List.filterMap_congr
  intro heir inside
  obtain ⟨shared, isAgent⟩ := Option.isSome_iff_exists.mp (mem_of_heirs inside).2
  rw [classStatement?, isAgent]
  cases plan.relations.identity? heir.node.id with
  | none => rfl
  | some identity => exact congrArg some (Payload.classText_eq isAgent _ _ _)

theorem of_classStatement? {plan : Plan} {heir : Heir} {statement : ClassStatement}
    (written : plan.classStatement? heir = some statement) :
    statement.bases = heir.node.payload.bases (plan.classNames heir.parents) ∧
      ∃ identity, plan.relations.identity? heir.node.id = some identity ∧
        statement.name = identity.className := by
  simp only [classStatement?, Option.bind_eq_bind, Option.bind_eq_some_iff] at written
  obtain ⟨shared, _, identity, found, same⟩ := written
  injection same with same
  subst same
  exact ⟨rfl, identity, found, rfl⟩

theorem mem_classStatements {plan : Plan} {statement : ClassStatement}
    (inside : statement ∈ plan.classStatements) :
    ∃ heir ∈ plan.heirs, statement.bases = heir.node.payload.bases (plan.classNames heir.parents) ∧
      ∃ identity, plan.relations.identity? heir.node.id = some identity ∧
        statement.name = identity.className := by
  obtain ⟨heir, held, written⟩ := List.mem_filterMap.mp inside
  exact ⟨heir, held, of_classStatement? written⟩

/-- Whether all classes that the program writes for agents are identifiers. -/
structure WritesIdentifiers (plan : Plan) : Prop where
  name : ∀ statement ∈ plan.classStatements, isIdentifier statement.name = true
  bases : ∀ statement ∈ plan.classStatements, ∀ base ∈ statement.bases,
    isIdentifier base = true
  instances : ∀ identity password program port verifySecurity,
    .createAgent identity password program port verifySecurity ∈ plan.statements →
      isIdentifier identity.className = true

variable {settings : Settings} {graph : Graph}

theorem identity?_of_createAgent {plan : Plan} {identity : Identity} {password : String}
    {program : Option String} {port : UInt16} {verifySecurity : Bool}
    (inside : .createAgent identity password program port verifySecurity ∈ plan.statements) :
    ∃ agentId, plan.relations.identity? agentId = some identity := by
  cases emits_of_mem inside with
  | creation node created =>
      obtain ⟨other, _, _, _, _, found, same⟩ := createAgent_of_creation? created
      injection same with same
      exact ⟨node.id, same ▸ found⟩
  | template agent id held => nomatch part_of_mem_templateStatements held
  | message agent id held => nomatch part_of_mem_messageStatements held
  | behaviour agent place id held => nomatch part_of_mem_behaviourStatements held
  | nothing same | start agent same | await node agent names same => contradiction

theorem createAgent_mem_statements {plan : Plan} {node : Node} (inside : node ∈ plan.nodes)
    (isAgent : node.isAgent = true) {identity : Identity}
    (found : plan.relations.identity? node.id = some identity) :
    ∃ password program port verifySecurity,
      .createAgent identity password program port verifySecurity ∈ plan.statements := by
  have held : node ∈ plan.agents := List.mem_filter.mpr ⟨inside, isAgent⟩
  have some_agents : plan.agents.isEmpty = false :=
    List.isEmpty_eq_false_iff_exists_mem.mpr ⟨node, held⟩
  obtain ⟨agent, given⟩ := Option.isSome_iff_exists.mp isAgent
  have created : ∃ password program port verifySecurity, plan.creation? node =
      some (.createAgent identity password program port verifySecurity) := by
    rw [creation?, given, found]
    exact ⟨_, _, _, _, rfl⟩
  obtain ⟨password, program, port, verifySecurity, created⟩ := created
  refine ⟨password, program, port, verifySecurity, ?_⟩
  rw [statements, some_agents]
  have first := List.mem_filterMap.mpr ⟨node, held, created⟩
  exact List.mem_append_left _ (List.mem_append_left _ first)

theorem isIdentifier_className
    (identifiers : ∀ name ∈ agentClasses graph.nodes, isIdentifier name = true)
    {agentId : String} {identity : Identity}
    (found : (ofGraph settings graph).relations.identity? agentId = some identity) :
    isIdentifier identity.className = true := by
  obtain ⟨node, inside, _, identifies⟩ := identity?_ofGraph found
  apply identifies.className.isIdentifier (by decide)
  intro name typed
  exact identifiers name (List.mem_filterMap.mpr ⟨node, inside, typed⟩)

/-- The texts of the agents' classes are class statements, and they and the instances name
identifiers only just where every typed class is one. -/
theorem writesIdentifiers_iff (settings : Settings)
    (distinct : (graph.nodes.map Node.id).Nodup) :
    (ofGraph settings graph).agentClassTexts =
        (ofGraph settings graph).classStatements.map ClassStatement.text ∧
      ((ofGraph settings graph).WritesIdentifiers ↔
        ∀ name ∈ agentClasses graph.nodes, isIdentifier name = true) := by
  refine ⟨agentClassTexts_eq _, ?_, ?_⟩
  · intro writes name isClass
    obtain ⟨node, inside, typed⟩ := List.mem_filterMap.mp isClass
    obtain ⟨identity, found, rfl⟩ := identity?_of_agentClass settings distinct inside typed
    obtain ⟨_, _, _, _, created⟩ :=
      createAgent_mem_statements inside (Node.isAgent_of_agentClass? typed) found
    exact writes.instances _ _ _ _ _ created
  · intro identifiers
    have parents : ∀ agentIds, ∀ parent ∈ (ofGraph settings graph).classNames agentIds,
        isIdentifier parent = true := by
      intro agentIds parent inside
      obtain ⟨identity, held, rfl⟩ := List.mem_map.mp inside
      obtain ⟨agentId, _, found⟩ := List.mem_filterMap.mp held
      exact isIdentifier_className identifiers found
    refine ⟨?_, ?_, ?_⟩
    · intro statement inside
      obtain ⟨heir, _, _, identity, found, named⟩ := mem_classStatements inside
      exact named ▸ isIdentifier_className identifiers found
    · intro statement inside
      obtain ⟨heir, _, extended, _⟩ := mem_classStatements inside
      exact extended ▸ heir.node.payload.isIdentifier_bases (parents heir.parents)
    · intro identity password program port verifySecurity inside
      obtain ⟨agentId, found⟩ := identity?_of_createAgent inside
      exact isIdentifier_className identifiers found

/-- An agent whose class was given a name of two words. -/
def twoWords : Graph where
  nodes := [⟨"a", none, .agent { className := "my agent" }⟩]

theorem twoWords_written :
    (twoWords.nodes.map Node.id).Nodup ∧ violations twoWords.nodes = [] ∧
      ¬(ofGraph {} twoWords).WritesIdentifiers := by
  refine ⟨by decide +kernel, by decide +kernel, ?_⟩
  intro writes
  have created : .createAgent ⟨"agent1", "my agent", "agent1@localhost"⟩ "password" none 5222
      false ∈ (ofGraph {} twoWords).statements := by decide +kernel
  have identifier := writes.instances _ _ _ _ _ created
  contradiction

theorem writesIdentifiers_iff_twoWords :
    (twoWords.nodes.map Node.id).Nodup ∧
      (ofGraph {} twoWords).agentClassTexts =
        (ofGraph {} twoWords).classStatements.map ClassStatement.text ∧
      ((ofGraph {} twoWords).WritesIdentifiers ↔
        ∀ name ∈ agentClasses twoWords.nodes, isIdentifier name = true) :=
  ⟨by decide +kernel, writesIdentifiers_iff {} (by decide +kernel)⟩

end Plan

end AgentGraph
