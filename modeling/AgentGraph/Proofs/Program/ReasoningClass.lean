import AgentGraph.Proofs.Program.ClassCreation
import Mathlib.Logic.Relation

/-!
Which agents' classes come down from the framework's class of reasoning agents. An agent's class
extends one of the framework only where no parent's class is to be extended, so it is the agents
at the top that decide, whatever an agent below them is.
-/

namespace AgentGraph

open Naming

namespace Plan

def Extends (plan : Plan) (name base : String) : Prop :=
  ∃ statement ∈ plan.classStatements, statement.name = name ∧ base ∈ statement.bases

/-- Whether the agent has a class, and going up from that comes to the framework's class of
reasoning agents. -/
def IsReasoner (plan : Plan) (agentId : String) : Prop :=
  ∃ identity, plan.relations.identity? agentId = some identity ∧
    Relation.TransGen plan.Extends identity.className "BDIAgent"

/-- Whether the class of one agent is extended by that of another. -/
def IsBase (plan : Plan) (parent child : String) : Prop :=
  ∃ heir ∈ plan.heirs, heir.id = child ∧ parent ∈ heir.parents

theorem exists_heir_of_parent {plan : Plan} {heir : Heir} (inside : heir ∈ plan.heirs)
    {parent : String} (isParent : parent ∈ heir.parents) :
    ∃ other ∈ plan.heirs, other.id = parent := by
  obtain ⟨before, after, split⟩ := List.append_of_mem inside
  obtain ⟨other, isBefore, sameId⟩ := exists_before_of_parent split isParent
  exact ⟨other, split ▸ List.mem_append_left _ isBefore, sameId⟩

variable {settings : Settings} {graph : Graph} {heir : Heir} {identity : Identity}

section Distinct

variable (distinct : (graph.nodes.map Node.id).Nodup)

include distinct

theorem exists_identity (inside : heir ∈ (ofGraph settings graph).heirs) :
    ∃ identity, (ofGraph settings graph).relations.identity? heir.id = some identity := by
  obtain ⟨statement, written⟩ := exists_classStatement distinct inside
  obtain ⟨_, identity, found, _⟩ := of_classStatement? written
  exact ⟨identity, found⟩

variable (inside : heir ∈ (ofGraph settings graph).heirs)
  (found : (ofGraph settings graph).relations.identity? heir.id = some identity)

include inside found

theorem extends_of_mem_bases {base : String}
    (isBase : base ∈ heir.node.payload.bases ((ofGraph settings graph).classNames heir.parents)) :
    (ofGraph settings graph).Extends identity.className base := by
  obtain ⟨statement, written⟩ := exists_classStatement distinct inside
  obtain ⟨bases, other, otherFound, named⟩ := of_classStatement? written
  refine ⟨statement, List.mem_filterMap.mpr ⟨heir, inside, written⟩, ?_, bases ▸ isBase⟩
  rw [Heir.id, otherFound] at found
  rw [named, Option.some.inj found]

theorem extends_parent {parent : String} (isParent : parent ∈ heir.parents) {other : Identity}
    (otherFound : (ofGraph settings graph).relations.identity? parent = some other) :
    (ofGraph settings graph).Extends identity.className other.className := by
  have isName : other.className ∈ (ofGraph settings graph).classNames heir.parents :=
    mem_classNames.mpr ⟨parent, isParent, other, otherFound, rfl⟩
  have some_names : ¬((ofGraph settings graph).classNames heir.parents).isEmpty = true :=
    fun none_named => by
      rw [List.isEmpty_iff.mp none_named] at isName
      exact List.not_mem_nil isName
  refine extends_of_mem_bases distinct inside found ?_
  rwa [Payload.bases, if_neg some_names]

variable (rules : IsValid graph.nodes)

include rules

theorem bases_of_extends {base : String}
    (extended : (ofGraph settings graph).Extends identity.className base) :
    base ∈ heir.node.payload.bases ((ofGraph settings graph).classNames heir.parents) := by
  obtain ⟨statement, isStatement, named, isBase⟩ := extended
  obtain ⟨other, isOther, bases, own, ownFound, ownNamed⟩ := mem_classStatements isStatement
  have sameId : other.id = heir.id :=
    eq_of_className rules ownFound found (ownNamed.symm.trans named)
  obtain rfl := List.inj_on_of_nodup_map (nodup_heirs distinct) isOther inside sameId
  exact bases ▸ isBase

/-- What an agent's class extends: a class of the framework where the agent has no parents, else
those of its parents. -/
theorem cases_of_extends {base : String}
    (extended : (ofGraph settings graph).Extends identity.className base) :
    heir.parents = [] ∧ base = heir.node.payload.frameworkClass ∨
      ∃ other ∈ (ofGraph settings graph).heirs, other.id ∈ heir.parents ∧
        ∃ own, (ofGraph settings graph).relations.identity? other.id = some own ∧
          own.className = base := by
  have isBase := bases_of_extends distinct inside found rules extended
  unfold Payload.bases at isBase
  split at isBase
  · next none_named =>
      refine .inl ⟨List.eq_nil_iff_forall_not_mem.mpr fun parent isParent => ?_,
        List.mem_singleton.mp isBase⟩
      obtain ⟨other, isOther, rfl⟩ := exists_heir_of_parent inside isParent
      obtain ⟨own, ownFound⟩ := exists_identity distinct isOther
      have named : own.className ∈ (ofGraph settings graph).classNames heir.parents :=
        mem_classNames.mpr ⟨other.id, isParent, own, ownFound, rfl⟩
      rw [List.isEmpty_iff.mp none_named] at named
      exact List.not_mem_nil named
  · obtain ⟨parent, isParent, own, ownFound, sameName⟩ := mem_classNames.mp isBase
    obtain ⟨other, isOther, rfl⟩ := exists_heir_of_parent inside isParent
    exact .inr ⟨other, isOther, isParent, own, ownFound, sameName⟩

end Distinct

theorem not_extends_of_framework (rules : IsValid graph.nodes) (payload : Payload)
    (base : String) : ¬(ofGraph settings graph).Extends payload.frameworkClass base := by
  rintro ⟨statement, inside, named, _⟩
  obtain ⟨_, _, _, identity, found, ownName⟩ := mem_classStatements inside
  have apart := className_ne rules found
  rw [← ownName, named, Payload.frameworkClass] at apart
  split at apart
  · exact apart.2 rfl
  · exact apart.1 rfl

theorem exists_top_of_reaches (distinct : (graph.nodes.map Node.id).Nodup)
    (rules : IsValid graph.nodes) {name : String}
    (reaches : Relation.TransGen (ofGraph settings graph).Extends name "BDIAgent") :
    ∀ heir ∈ (ofGraph settings graph).heirs, ∀ identity,
      (ofGraph settings graph).relations.identity? heir.id = some identity →
      identity.className = name →
      ∃ top ∈ (ofGraph settings graph).heirs, top.parents = [] ∧
        top.node.payload.isReasoning = true ∧
        Relation.ReflTransGen (ofGraph settings graph).IsBase top.id heir.id := by
  induction reaches using Relation.TransGen.head_induction_on with
  | single last =>
      rintro heir inside identity found rfl
      rcases cases_of_extends distinct inside found rules last with
        ⟨none_above, isFramework⟩ | ⟨_, _, _, own, ownFound, ownName⟩
      · refine ⟨heir, inside, none_above, ?_, .refl⟩
        cases reasoning : heir.node.payload.isReasoning with
        | true => rfl
        | false =>
            rw [Payload.frameworkClass, reasoning] at isFramework
            contradiction
      · exact absurd ownName (className_ne rules ownFound).2
  | head step rest ih =>
      rintro heir inside identity found rfl
      rcases cases_of_extends distinct inside found rules step with
        ⟨_, rfl⟩ | ⟨other, isOther, isParent, own, ownFound, ownName⟩
      · obtain ⟨_, next, _⟩ := Relation.TransGen.head'_iff.mp rest
        exact absurd next (not_extends_of_framework rules _ _)
      · obtain ⟨top, isTop, none_above, reasoning, above⟩ := ih other isOther own ownFound ownName
        exact ⟨top, isTop, none_above, reasoning, above.tail ⟨heir, inside, rfl, isParent⟩⟩

theorem reaches_of_top (distinct : (graph.nodes.map Node.id).Nodup) {top : Heir}
    (inside : top ∈ (ofGraph settings graph).heirs) (none_above : top.parents = [])
    (reasoning : top.node.payload.isReasoning = true) {agentId : String}
    (above : Relation.ReflTransGen (ofGraph settings graph).IsBase top.id agentId) :
    ∀ identity, (ofGraph settings graph).relations.identity? agentId = some identity →
      Relation.TransGen (ofGraph settings graph).Extends identity.className "BDIAgent" := by
  induction above with
  | refl =>
      intro identity found
      refine .single (extends_of_mem_bases distinct inside found ?_)
      rw [none_above]
      simp [classNames, Payload.bases, Payload.frameworkClass, reasoning]
  | tail _ step ih =>
      intro identity found
      obtain ⟨heir, isHeir, rfl, isParent⟩ := step
      obtain ⟨other, isOther, rfl⟩ := exists_heir_of_parent isHeir isParent
      obtain ⟨own, ownFound⟩ := exists_identity distinct isOther
      exact .head (extends_parent distinct isHeir found isParent ownFound) (ih own ownFound)

/-- Names that list among their bases only each other lead nowhere else. -/
theorem mem_of_reaches {plan : Plan} {names : List String}
    (closed : ∀ statement ∈ plan.classStatements, statement.name ∈ names →
      ∀ base ∈ statement.bases, base ∈ names) {name base : String} (inside : name ∈ names)
    (reaches : Relation.TransGen plan.Extends name base) : base ∈ names := by
  induction reaches with
  | single step =>
      obtain ⟨statement, isStatement, rfl, isBase⟩ := step
      exact closed statement isStatement inside _ isBase
  | tail _ step held =>
      obtain ⟨statement, isStatement, rfl, isBase⟩ := step
      exact closed statement isStatement held _ isBase

/-- An agent's class is one of a reasoning agent just where some agent is that is at the top of
those above it, or is the agent itself. -/
theorem isReasoner_iff (settings : Settings) (distinct : (graph.nodes.map Node.id).Nodup)
    (valid : violations graph.nodes = []) {node : Node} (inside : node ∈ graph.nodes)
    (isAgent : node.isAgent = true) :
    (ofGraph settings graph).IsReasoner node.id ↔
      ∃ top ∈ (ofGraph settings graph).heirs, top.parents = [] ∧
        top.node.payload.isReasoning = true ∧
        Relation.ReflTransGen (ofGraph settings graph).IsBase top.id node.id := by
  have rules := (violations_eq_nil_iff graph.nodes).mp valid
  have listed : node ∈ (ofGraph settings graph).heirs.map Heir.node :=
    (ofGraph settings graph).follows_heirs.perm.mem_iff.mpr
      (List.mem_filter.mpr ⟨inside, isAgent⟩)
  obtain ⟨heir, isHeir, rfl⟩ := List.mem_map.mp listed
  constructor
  · rintro ⟨identity, found, reaches⟩
    exact exists_top_of_reaches distinct rules reaches heir isHeir identity found rfl
  · rintro ⟨top, isTop, none_above, reasoning, above⟩
    obtain ⟨identity, found⟩ := exists_identity distinct isHeir
    exact ⟨identity, found,
      reaches_of_top distinct isTop none_above reasoning above identity found⟩

def believer : Node := ⟨"b", none, .reasoning
  { beliefMap := some (Dict.ofList [("ready", none)]), program := "+ready <- .print(ready)." }⟩

def plainParent : Graph where
  nodes := [⟨"a", none, .agent {}⟩, believer]
  edges := [{ id := "1", source := "a", target := "b", kind := .inheritance }]

theorem plainParent_notReasoner :
    (plainParent.nodes.map Node.id).Nodup ∧ violations plainParent.nodes = [] ∧
      ∃ node ∈ plainParent.nodes, node.payload.isReasoning = true ∧
        ¬(ofGraph {} plainParent).IsReasoner node.id := by
  refine ⟨by decide +kernel, by decide +kernel, believer, ?_, rfl, ?_⟩
  · exact List.mem_cons_of_mem _ (List.mem_singleton_self _)
  · rintro ⟨identity, found, reaches⟩
    have given : (ofGraph {} plainParent).relations.identity? believer.id =
        some ⟨"agent2", "MyAgent2", "agent2@localhost"⟩ := by decide +kernel
    rw [given] at found
    injection found with same
    subst same
    have closed : ∀ statement ∈ (ofGraph {} plainParent).classStatements,
        statement.name ∈ ["MyAgent2", "MyAgent1", "Agent"] →
          ∀ base ∈ statement.bases, base ∈ ["MyAgent2", "MyAgent1", "Agent"] := by
      decide +kernel
    have reached := mem_of_reaches closed List.mem_cons_self reaches
    contradiction

theorem isReasoner_iff_plainParent :
    (plainParent.nodes.map Node.id).Nodup ∧ violations plainParent.nodes = [] ∧
      believer ∈ plainParent.nodes ∧ believer.isAgent = true ∧
      ((ofGraph {} plainParent).IsReasoner believer.id ↔
        ∃ top ∈ (ofGraph {} plainParent).heirs, top.parents = [] ∧
          top.node.payload.isReasoning = true ∧
          Relation.ReflTransGen (ofGraph {} plainParent).IsBase top.id believer.id) := by
  have distinct : (plainParent.nodes.map Node.id).Nodup := by decide +kernel
  have valid : violations plainParent.nodes = [] := by decide +kernel
  have inside : believer ∈ plainParent.nodes :=
    List.mem_cons_of_mem _ (List.mem_singleton_self _)
  exact ⟨distinct, valid, inside, rfl, isReasoner_iff {} distinct valid inside rfl⟩

end Plan

end AgentGraph
