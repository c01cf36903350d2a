import AgentGraph.Proofs.Graph.Consistent
import AgentGraph.Proofs.Program.Hierarchy
import AgentGraph.Proofs.Program.InheritanceOrder
import AgentGraph.Proofs.Program.SoundNames

/-!
Whether the agents' classes can be created, one statement after another. They can where no agent
is extended twice, which is what edits see to: then each class extends leaves of a forest, and the
classes above two leaves have only classes of the framework in common.
-/

namespace AgentGraph

open Naming

/-- Whether each agent is the source of at most one edge of inheritance. -/
def Graph.InheritsOnce (graph : Graph) : Prop :=
  ∀ node ∈ graph.nodes, node.isAgent = true →
    (sourcesOf .inheritance graph.edges).count node.id ≤ 1

theorem Graph.IsConsistent.inheritsOnce {graph : Graph} (consistent : graph.IsConsistent) :
    graph.InheritsOnce :=
  fun node _ _ => List.nodup_iff_count_le_one.mp consistent.inheritance_nodup node.id

theorem count_sourcesOf {kind : EdgeKind} {edges : List Edge} {source : String} :
    (sourcesOf kind edges).count source =
      (edges.filter fun edge => edge.kind == kind && edge.source == source).length := by
  rw [sourcesOf, List.count_eq_countP, List.countP_map, List.countP_filter,
    List.countP_eq_length_filter]
  congr 2
  funext edge
  exact Bool.and_comm _ _

namespace Relations

variable {settings : Settings} {graph : Graph}

theorem mem_parentsOf_build {parent child : String} :
    parent ∈ (build settings graph.nodes graph.edges).parentsOf child ↔
      parent ∈ inherited graph.nodes graph.edges child := by
  rw [parentsOf_build, mem_foldl_addOnce, or_iff_right List.not_mem_nil]

/-- No agent is a parent of two others. -/
theorem child_unique (once : graph.InheritsOnce) {parent first second : String}
    (ofFirst : parent ∈ (build settings graph.nodes graph.edges).parentsOf first)
    (ofSecond : parent ∈ (build settings graph.nodes graph.edges).parentsOf second) :
    first = second := by
  rw [mem_parentsOf_build] at ofFirst ofSecond
  obtain ⟨source, _, rfl, _, joins⟩ := joins_of_inherited ofFirst
  have isAgent : source.isAgent = true := (Bool.and_eq_true_iff.mp joins.fits).1
  have few := once source joins.sourceInside isAgent
  rw [count_sourcesOf] at few
  have edgeTo {child : String} (inside : source.id ∈ inherited graph.nodes graph.edges child) :
      ∃ edge ∈ graph.edges.filter fun edge =>
        edge.kind == .inheritance && edge.source == source.id, edge.target = child := by
    obtain ⟨edge, chosen, sameSource⟩ := List.mem_map.mp inside
    obtain ⟨held, joined⟩ := List.mem_filter.mp chosen
    simp only [Bool.and_eq_true, beq_iff_eq] at joined
    refine ⟨edge, List.mem_filter.mpr ⟨held, ?_⟩, joined.1.2⟩
    simp [(means_iff.mp joined.1.1).1, sameSource]
  obtain ⟨edge, held, rfl⟩ := edgeTo ofFirst
  obtain ⟨other, otherHeld, rfl⟩ := edgeTo ofSecond
  obtain ⟨only, single⟩ :=
    List.length_eq_one_iff.mp (Nat.le_antisymm few (List.length_pos_of_mem held))
  rw [single, List.mem_singleton] at held otherHeld
  rw [held, otherHeld]

end Relations

namespace Plan

open ClassStatement

variable {settings : Settings} {graph : Graph}

theorem mem_classNames {plan : Plan} {agentIds : List String} {name : String} :
    name ∈ plan.classNames agentIds ↔ ∃ agentId ∈ agentIds, ∃ identity,
      plan.relations.identity? agentId = some identity ∧ identity.className = name := by
  simp only [classNames, List.mem_map, List.mem_filterMap]
  constructor
  · rintro ⟨identity, ⟨agentId, inside, found⟩, named⟩
    exact ⟨agentId, inside, identity, found, named⟩
  · rintro ⟨agentId, inside, identity, found, named⟩
    exact ⟨identity, ⟨agentId, inside, found⟩, named⟩

theorem parents_subset {plan : Plan} {heir : Heir} (inside : heir ∈ plan.heirs) :
    heir.parents ⊆ plan.relations.parentsOf heir.id := by
  obtain ⟨before, after, split⟩ := List.append_of_mem inside
  rw [plan.follows_heirs.parents_eq split]
  exact List.filter_subset_self _

theorem exists_before_of_parent {plan : Plan} {front back : List Heir} {heir : Heir}
    (split : plan.heirs = front ++ heir :: back) {parent : String}
    (isParent : parent ∈ heir.parents) : ∃ other ∈ front, other.id = parent := by
  rw [plan.follows_heirs.parents_eq split, List.mem_filter] at isParent
  simpa using isParent.2

/-- The class statement of an agent stands after those of the agents before it. -/
theorem exists_heir_of_split {plan : Plan} {before after : List ClassStatement}
    {statement : ClassStatement} (split : plan.classStatements = before ++ statement :: after) :
    ∃ front heir back, plan.heirs = front ++ heir :: back ∧
      front.filterMap plan.classStatement? = before ∧
      plan.classStatement? heir = some statement := by
  obtain ⟨front, rest, sameHeirs, isBefore, isRest⟩ := List.filterMap_eq_append_iff.mp split
  obtain ⟨silent, heir, back, rfl, none_written, written, _⟩ := List.filterMap_eq_cons_iff.mp isRest
  refine ⟨front ++ silent, heir, back, ?_, ?_, written⟩
  · rw [sameHeirs, List.append_assoc]
  · rw [List.filterMap_append, isBefore, List.filterMap_eq_nil_iff.mpr none_written,
      List.append_nil]

section Agents

variable (distinct : (graph.nodes.map Node.id).Nodup)

include distinct

theorem nodup_heirs : ((ofGraph settings graph).heirs.map Heir.id).Nodup := by
  have perm := (ofGraph settings graph).follows_heirs.perm.map Node.id
  rw [List.map_map] at perm
  exact perm.nodup_iff.mpr (distinct.sublist (List.filter_sublist.map Node.id))

theorem not_before {front back : List Heir} {heir : Heir}
    (split : (ofGraph settings graph).heirs = front ++ heir :: back) :
    ∀ other ∈ front, other.id ≠ heir.id := by
  intro other isBefore same
  have ids := @nodup_heirs settings graph distinct
  rw [split, List.map_append, List.map_cons] at ids
  exact (List.nodup_middle.mp ids).notMem
    (same ▸ List.mem_append_left _ (List.mem_map_of_mem isBefore))

theorem exists_classStatement {heir : Heir} (inside : heir ∈ (ofGraph settings graph).heirs) :
    ∃ statement, (ofGraph settings graph).classStatement? heir = some statement := by
  obtain ⟨isNode, isAgent⟩ := mem_of_heirs inside
  obtain ⟨shared, given⟩ := Option.isSome_iff_exists.mp isAgent
  obtain ⟨identity, found, _⟩ := identity?_of_mem settings distinct isNode isAgent
  rw [classStatement?, given, found]
  exact ⟨_, rfl⟩

end Agents

section Rules

variable (rules : IsValid graph.nodes)

include rules

theorem className_ne {agentId : String} {identity : Identity}
    (found : (ofGraph settings graph).relations.identity? agentId = some identity) :
    identity.className ≠ "Agent" ∧ identity.className ≠ "BDIAgent" := by
  obtain ⟨node, inside, _, identifies⟩ := identity?_ofGraph found
  have free : isReserved identity.className = false :=
    identifies.className.isReserved fun name typed =>
      rules.agentClass name (List.mem_filterMap.mpr ⟨node, inside, typed⟩)
  constructor
  · intro same
    rw [same] at free
    contradiction
  · intro same
    rw [same] at free
    contradiction

theorem eq_of_className {first second : String} {one other : Identity}
    (found : (ofGraph settings graph).relations.identity? first = some one)
    (otherFound : (ofGraph settings graph).relations.identity? second = some other)
    (same : one.className = other.className) : first = second :=
  (identities_separates rules).2.1 first second one other found otherFound same

theorem nodup_classNames {agentIds : List String} (nodup : agentIds.Nodup) :
    ((ofGraph settings graph).classNames agentIds).Nodup := by
  rw [classNames, List.map_filterMap]
  refine nodup.filterMap fun first second name isFirst isSecond => ?_
  obtain ⟨one, found, rfl⟩ := Option.map_eq_some_iff.mp isFirst
  obtain ⟨other, otherFound, same⟩ := Option.map_eq_some_iff.mp isSecond
  exact eq_of_className rules found otherFound same.symm

variable (distinct : (graph.nodes.map Node.id).Nodup) (once : graph.InheritsOnce)

include distinct once

theorem isLeaf_of_mem_classNames {front back : List Heir} {heir : Heir} {base : String}
    (split : (ofGraph settings graph).heirs = front ++ heir :: back)
    (inside : base ∈ (ofGraph settings graph).classNames heir.parents) :
    IsLeaf (front.filterMap (ofGraph settings graph).classStatement?) base := by
  obtain ⟨parent, isParent, identity, found, rfl⟩ := mem_classNames.mp inside
  have isHeir : heir ∈ (ofGraph settings graph).heirs :=
    split ▸ List.mem_append_right _ List.mem_cons_self
  constructor
  · obtain ⟨other, isBefore, rfl⟩ := exists_before_of_parent split isParent
    obtain ⟨statement, written⟩ :=
      @exists_classStatement settings graph distinct other (split ▸ List.mem_append_left _ isBefore)
    obtain ⟨_, own, ownFound, named⟩ := of_classStatement? written
    rw [Heir.id, ownFound] at found
    refine List.mem_map.mpr ⟨statement, List.mem_filterMap.mpr ⟨other, isBefore, written⟩, ?_⟩
    rw [named, Option.some.inj found]
  · intro statement isBefore extended
    obtain ⟨other, inFront, written⟩ := List.mem_filterMap.mp isBefore
    obtain ⟨bases, _⟩ := of_classStatement? written
    rw [bases, Payload.bases] at extended
    split at extended
    · have isFramework := List.mem_singleton.mp extended
      have ownName := className_ne rules found
      unfold Payload.frameworkClass at isFramework
      split at isFramework
      · exact ownName.2 isFramework
      · exact ownName.1 isFramework
    · obtain ⟨otherParent, isOtherParent, _, otherFound, same⟩ := mem_classNames.mp extended
      obtain rfl := eq_of_className rules found otherFound same.symm
      have isOther : other ∈ (ofGraph settings graph).heirs :=
        split ▸ List.mem_append_left _ inFront
      have sameChild : other.id = heir.id := Relations.child_unique once
        (parents_subset isOther isOtherParent) (parents_subset isHeir isParent)
      exact not_before distinct split other inFront sameChild

theorem allFit_classStatements : AllFit (ofGraph settings graph).classStatements := by
  intro before statement after listed
  obtain ⟨front, heir, back, split, isBefore, written⟩ := exists_heir_of_split listed
  obtain ⟨bases, identity, found, named⟩ := of_classStatement? written
  refine ⟨named ▸ className_ne rules found, ?_, ?_, ?_⟩
  · intro again
    obtain ⟨other, held, same⟩ := List.mem_map.mp (isBefore ▸ again)
    obtain ⟨otherHeir, inFront, otherWritten⟩ := List.mem_filterMap.mp held
    obtain ⟨_, _, otherFound, otherNamed⟩ := of_classStatement? otherWritten
    rw [named, otherNamed] at same
    exact not_before distinct split otherHeir inFront
      (eq_of_className rules otherFound found same)
  · rw [bases, Payload.bases]
    split
    · exact List.nodup_singleton _
    · refine nodup_classNames rules ?_
      rw [(follows_heirs _).parents_eq split]
      refine List.Nodup.filter _ ?_
      rw [show (ofGraph settings graph).relations.parentsOf heir.node.id = _ from
        Relations.parentsOf_build graph.nodes settings graph.edges heir.node.id]
      exact Relations.nodup_foldl_addOnce _ [] List.nodup_nil
  · rw [bases, Payload.bases, ← isBefore]
    split
    · unfold Payload.frameworkClass
      split
      · exact .inr (.inl rfl)
      · exact .inl rfl
    · next some_names =>
        refine .inr (.inr ⟨fun none_named => some_names (List.isEmpty_iff.mpr none_named), ?_⟩)
        intro base isBase
        exact isLeaf_of_mem_classNames rules distinct once split isBase

end Rules

/-- Whether the agents' class statements, each in its turn, make classes on top of the framework. -/
structure CreatesClasses (plan : Plan) (framework : Framework) : Prop where
  texts : plan.agentClassTexts = plan.classStatements.map ClassStatement.text
  bases_defined : ∀ before statement after,
    plan.classStatements = before ++ statement :: after → ∀ base ∈ statement.bases,
      base = "Agent" ∨ base = "BDIAgent" ∨ base ∈ before.map ClassStatement.name
  bases_nodup : ∀ statement ∈ plan.classStatements, statement.bases.Nodup
  created : ∃ scope, plan.classStatements.foldlM define framework.scope = some scope

theorem createsClasses_ofGraph (framework : Framework) (settings : Settings)
    (distinct : (graph.nodes.map Node.id).Nodup) (valid : violations graph.nodes = [])
    (once : graph.InheritsOnce) : (ofGraph settings graph).CreatesClasses framework := by
  have rules := (violations_eq_nil_iff graph.nodes).mp valid
  have fit := @allFit_classStatements settings graph rules distinct once
  refine ⟨agentClassTexts_eq _, ?_, ?_, ?_⟩
  · intro before statement after split base isBase
    rcases (fit before statement after split).bases with plain | reasoning | ⟨_, leaves⟩
    · exact .inl (List.mem_singleton.mp (plain ▸ isBase))
    · exact .inr (.inl (List.mem_singleton.mp (reasoning ▸ isBase)))
    · exact .inr (.inr (leaves base isBase).1)
  · intro statement inside
    obtain ⟨before, after, split⟩ := List.append_of_mem inside
    exact (fit before statement after split).bases_nodup
  · obtain ⟨scope, made, _⟩ := fit.exists_scope framework
    exact ⟨scope, made⟩

/-- Agents of several kinds below each other, two of which have two parents and two of which are
above each other. -/
def lineage : List Graph.Edit :=
  [.addNode ⟨"a", none, .agent {}⟩, .addNode ⟨"b", none, .reasoning {}⟩,
    .addNode ⟨"c", none, .prompted {}⟩, .addNode ⟨"d", none, .reasoning {}⟩,
    .addNode ⟨"e", none, .agent {}⟩, .addNode ⟨"f", none, .agent {}⟩,
    .addNode ⟨"g", none, .reasoning {}⟩] ++
  [("a", "d"), ("b", "d"), ("c", "e"), ("d", "e"), ("f", "g"), ("g", "f")].map
    fun (parent, child) =>
      .connect ⟨parent, child, .inheritanceSource, .inheritanceTarget⟩

def frameworkClasses : Framework where
  agent := ["Agent", "object"]
  reasoner := ["BDIAgent", "Agent", "object"]
  agent_head := rfl
  reasoner_head := rfl
  reasoner_nodup := by decide
  agent_sublist := .cons _ (.refl _)

theorem createsClasses_ofGraph_lineage :
    ((Graph.run {} lineage).nodes.map Node.id).Nodup ∧
      violations (Graph.run {} lineage).nodes = [] ∧ (Graph.run {} lineage).InheritsOnce ∧
      (ofGraph {} (Graph.run {} lineage)).CreatesClasses frameworkClasses := by
  have distinct : ((Graph.run {} lineage).nodes.map Node.id).Nodup := by decide +kernel
  have valid : violations (Graph.run {} lineage).nodes = [] := by decide +kernel
  have empty : Graph.IsConsistent {} :=
    ⟨List.forall_mem_nil _, List.nodup_nil, List.nodup_nil, List.nodup_nil⟩
  have once : (Graph.run {} lineage).InheritsOnce :=
    Graph.IsConsistent.inheritsOnce empty.run
  exact ⟨distinct, valid, once,
    createsClasses_ofGraph frameworkClasses {} distinct valid once⟩

example : ((ofGraph {} (Graph.run {} lineage)).classStatements.foldlM define
      frameworkClasses.scope).map (fun scope => scope.order "MyAgent5") =
    some [.declared "MyAgent5", .declared "MyAgent3", .declared "MyAgent4", .declared "MyAgent1",
      .declared "MyAgent2", .framework "BDIAgent", .framework "Agent", .framework "object"] := by
  decide +kernel

/-- An agent and its child that are both above a third one, of which the parent comes first. -/
def overextended : Graph where
  nodes := [⟨"a", none, .agent {}⟩, ⟨"b", none, .agent {}⟩, ⟨"c", none, .agent {}⟩]
  edges := [{ id := "1", source := "a", target := "b", kind := .inheritance },
    { id := "2", source := "a", target := "c", kind := .inheritance },
    { id := "3", source := "b", target := "c", kind := .inheritance }]

example : (ofGraph {} overextended).classStatements.foldlM define frameworkClasses.scope =
    none := by
  decide +kernel

end Plan

end AgentGraph
