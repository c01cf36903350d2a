import AgentGraph.Proofs.Program.Names
import AgentGraph.Proofs.Program.Renamed

/-!
Lists of nodes that have the same agents, behaviours, templates and messages, each in the
same order, but may mix them otherwise and may hold other notes. Nodes of one role are named
and numbered among themselves, so that such lists have the same plan.
-/

namespace AgentGraph

open Naming

namespace Node

def ofRole (role : Role) (nodes : List Node) : List Node :=
  nodes.filter fun node => node.payload.role == role

theorem ofRole_cons_self {node : Node} {role : Role} (same : node.payload.role = role)
    (nodes : List Node) : ofRole role (node :: nodes) = node :: ofRole role nodes := by
  rw [ofRole, List.filter_cons, if_pos (beq_iff_eq.mpr same), ofRole]

theorem ofRole_cons_of_ne {node : Node} {role : Role} (different : node.payload.role ≠ role)
    (nodes : List Node) : ofRole role (node :: nodes) = ofRole role nodes := by
  rw [ofRole, List.filter_cons, if_neg (mt beq_iff_eq.mp different), ofRole]

theorem filterMap_ofRole {α : Type} {role : Role} {f : Node → Option α}
    (only : ∀ node, node.payload.role ≠ role → f node = none) (nodes : List Node) :
    (ofRole role nodes).filterMap f = nodes.filterMap f :=
  (filterMap_eq_filterMap_filter (fun node other => only node (beq_eq_false_iff_ne.mp other))
    nodes).symm

theorem agent?_eq_none {node : Node} (other : node.payload.role ≠ .agent) :
    node.payload.agent? = none := by
  cases payload : node.payload with
  | agent | reasoning | prompted => exact absurd (payload ▸ rfl) other
  | behaviour | template | message | note => rfl

theorem behaviour?_eq_none {node : Node} (other : node.payload.role ≠ .behaviour) :
    node.payload.behaviour? = none := by
  cases payload : node.payload with
  | behaviour => exact absurd (payload ▸ rfl) other
  | agent | reasoning | prompted | template | message | note => rfl

theorem instanceName?_eq_none {node : Node} (other : node.payload.role ≠ .agent) :
    node.instanceName? = none := by
  rw [instanceName?, agent?_eq_none other]
  rfl

theorem agentClass?_eq_none {node : Node} (other : node.payload.role ≠ .agent) :
    node.agentClass? = none := by
  rw [agentClass?, agent?_eq_none other]
  rfl

theorem behaviourClass?_eq_none {node : Node} (other : node.payload.role ≠ .behaviour) :
    node.behaviourClass? = none := by
  rw [behaviourClass?, behaviour?_eq_none other]
  rfl

/-- Whether the nodes of each role are the same in the same order, notes apart. -/
structure Regrouped (nodes others : List Node) : Prop where
  distinct : (nodes.map Node.id).Nodup
  stillDistinct : (others.map Node.id).Nodup
  isEmpty : others.isEmpty = nodes.isEmpty
  part : ∀ role ≠ Role.note, ofRole role others = ofRole role nodes

end Node

open Node

namespace Naming

theorem instanceNames_ofRole (nodes : List Node) :
    instanceNames (ofRole .agent nodes) = instanceNames nodes :=
  filterMap_ofRole (fun _ => instanceName?_eq_none) nodes

theorem agentClasses_ofRole (nodes : List Node) :
    agentClasses (ofRole .agent nodes) = agentClasses nodes :=
  filterMap_ofRole (fun _ => agentClass?_eq_none) nodes

theorem behaviourClasses_ofRole (nodes : List Node) :
    behaviourClasses (ofRole .behaviour nodes) = behaviourClasses nodes :=
  filterMap_ofRole (fun _ => behaviourClass?_eq_none) nodes

section Violations

variable (classes : List String) (earlier : List Node) {node : Node}

theorem nodeViolations_of_agent (role : node.payload.role = .agent) :
    nodeViolations classes (ofRole .agent earlier) node = nodeViolations classes earlier node := by
  have untyped := behaviourClass?_eq_none (role ▸ Role.noConfusion : node.payload.role ≠ .behaviour)
  rw [nodeViolations, nodeViolations, instanceNames_ofRole, agentClasses_ofRole, untyped]
  rfl

theorem nodeViolations_of_behaviour (role : node.payload.role = .behaviour) :
    nodeViolations classes (ofRole .behaviour earlier) node =
      nodeViolations classes earlier node := by
  have other : node.payload.role ≠ .agent := role ▸ Role.noConfusion
  rw [nodeViolations, nodeViolations, behaviourClasses_ofRole, instanceName?_eq_none other,
    agentClass?_eq_none other]
  rfl

theorem nodeViolations_eq_nil (notAgent : node.payload.role ≠ .agent)
    (notBehaviour : node.payload.role ≠ .behaviour) : nodeViolations classes earlier node = [] := by
  rw [nodeViolations, instanceName?_eq_none notAgent, agentClass?_eq_none notAgent,
    behaviourClass?_eq_none notBehaviour]
  rfl

end Violations

/-- The violations are those of the agents and those of the behaviours: a node is compared
with earlier ones of its own role. -/
theorem violationsAfter_perm (classes : List String) (nodes : List Node) : ∀ earlier : List Node,
    (violationsAfter classes earlier nodes).Perm
      (violationsAfter classes (ofRole .agent earlier) (ofRole .agent nodes) ++
        violationsAfter classes (ofRole .behaviour earlier) (ofRole .behaviour nodes)) := by
  induction nodes with
  | nil => exact fun _ => .refl _
  | cons node nodes ih =>
      intro earlier
      have rest := ih (node :: earlier)
      rw [violationsAfter]
      by_cases isAgent : node.payload.role = .agent
      · have notBehaviour : node.payload.role ≠ .behaviour := isAgent ▸ Role.noConfusion
        rw [ofRole_cons_self isAgent, ofRole_cons_of_ne notBehaviour] at rest ⊢
        rw [violationsAfter, nodeViolations_of_agent classes earlier isAgent, List.append_assoc]
        exact rest.append_left _
      · rw [ofRole_cons_of_ne isAgent] at rest ⊢
        by_cases isBehaviour : node.payload.role = .behaviour
        · rw [ofRole_cons_self isBehaviour] at rest ⊢
          rw [violationsAfter, nodeViolations_of_behaviour classes earlier isBehaviour]
          exact (rest.append_left _).trans (List.perm_append_comm_assoc _ _ _)
        · rw [ofRole_cons_of_ne isBehaviour] at rest ⊢
          rw [nodeViolations_eq_nil classes earlier isAgent isBehaviour]
          exact rest

end Naming

namespace Relations

theorem resolveAgents_ofRole (settings : Settings) (nodes : List Node) :
    ∀ (number : Nat) (names classes : List String),
      resolveAgents settings number names classes (ofRole .agent nodes) =
        resolveAgents settings number names classes nodes := by
  induction nodes with
  | nil => exact fun _ _ _ => rfl
  | cons node nodes ih =>
      intro number names classes
      by_cases isAgent : node.payload.role = .agent
      · rw [ofRole_cons_self isAgent, resolveAgents, resolveAgents]
        cases node.payload.agent? with
        | none => exact ih number names classes
        | some agent => simp only [ih]
      · rw [ofRole_cons_of_ne isAgent, ih]
        rw [resolveAgents, agent?_eq_none isAgent]

/-- Where ids are distinct, an edge means something if there are nodes that fit it. -/
theorem means_iff_joins {nodes : List Node} (distinct : (nodes.map Node.id).Nodup)
    {kind : EdgeKind} {edge : Edge} :
    edge.means nodes kind = true ↔
      edge.kind = kind ∧ ∃ source target, source.id = edge.source ∧ target.id = edge.target ∧
        Joins nodes kind source target := by
  constructor
  · intro means
    exact ⟨(means_iff.mp means).1, joins_of_means means⟩
  · rintro ⟨sameKind, source, target, sourceId, targetId, joins⟩
    have isEnd {node : Node} (inside : node ∈ nodes) : endOf? nodes node.id = some node :=
      (endOf?_eq_find? distinct node.id).trans (Node.find?_of_mem distinct inside)
    refine means_iff.mpr ⟨sameKind, source, target, ?_, ?_, joins.fits⟩
    · rw [← sourceId]
      exact isEnd joins.sourceInside
    · rw [← targetId]
      exact isEnd joins.targetInside

end Relations

namespace Node.Regrouped

variable {nodes others : List Node} (regrouped : Node.Regrouped nodes others)

include regrouped

theorem mem_iff {node : Node} (visible : node.payload.role ≠ .note) :
    node ∈ others ↔ node ∈ nodes := by
  have inPart (nodes : List Node) : node ∈ ofRole node.payload.role nodes ↔ node ∈ nodes := by
    simp [ofRole]
  rw [← inPart others, regrouped.part _ visible, inPart]

theorem any_eq {p : Node → Bool} (silent : ∀ node, node.payload.role = .note → p node = false) :
    others.any p = nodes.any p := by
  rw [Bool.eq_iff_iff, List.any_eq_true, List.any_eq_true]
  have visible {node : Node} (holds : p node = true) : node.payload.role ≠ .note := by
    intro isNote
    rw [silent node isNote] at holds
    contradiction
  constructor
  · rintro ⟨node, inside, holds⟩
    exact ⟨node, (regrouped.mem_iff (visible holds)).mp inside, holds⟩
  · rintro ⟨node, inside, holds⟩
    exact ⟨node, (regrouped.mem_iff (visible holds)).mpr inside, holds⟩

theorem payload_agree (id : String) :
    Payload.Agree ((Node.find? others id).map Node.payload)
      ((Node.find? nodes id).map Node.payload) := by
  intro payload visible
  simp only [Option.map_eq_some_iff, Node.find?_eq_some_iff regrouped.distinct,
    Node.find?_eq_some_iff regrouped.stillDistinct]
  constructor
  · rintro ⟨node, ⟨inside, sameId⟩, rfl⟩
    exact ⟨node, ⟨(regrouped.mem_iff visible).mp inside, sameId⟩, rfl⟩
  · rintro ⟨node, ⟨inside, sameId⟩, rfl⟩
    exact ⟨node, ⟨(regrouped.mem_iff visible).mpr inside, sameId⟩, rfl⟩

theorem joins_iff {kind : EdgeKind} {source target : Node} :
    Relations.Joins others kind source target ↔ Relations.Joins nodes kind source target := by
  have visible (fits : kind.fits source.payload target.payload = true) :
      source.payload.role ≠ .note ∧ target.payload.role ≠ .note := by
    obtain ⟨sourceRole, targetRole⟩ := EdgeKind.fits_iff.mp fits
    rw [sourceRole, targetRole]
    cases kind <;> exact ⟨Role.noConfusion, Role.noConfusion⟩
  constructor
  · rintro ⟨sourceInside, targetInside, fits⟩
    obtain ⟨sourceVisible, targetVisible⟩ := visible fits
    exact ⟨(regrouped.mem_iff sourceVisible).mp sourceInside,
      (regrouped.mem_iff targetVisible).mp targetInside, fits⟩
  · rintro ⟨sourceInside, targetInside, fits⟩
    obtain ⟨sourceVisible, targetVisible⟩ := visible fits
    exact ⟨(regrouped.mem_iff sourceVisible).mpr sourceInside,
      (regrouped.mem_iff targetVisible).mpr targetInside, fits⟩

theorem means_eq : Edge.means others = Edge.means nodes := by
  funext kind edge
  rw [Bool.eq_iff_iff, Relations.means_iff_joins regrouped.distinct,
    Relations.means_iff_joins regrouped.stillDistinct]
  simp only [regrouped.joins_iff]

theorem told_eq (kind : EdgeKind) (edges : List Edge) (about : String) :
    Relations.told others kind edges about = Relations.told nodes kind edges about := by
  unfold Relations.told
  congr 1
  funext edge
  cases kind <;> simp only [Edge.tells?, Relations.partner?, regrouped.means_eq]

theorem instanceNames_eq : instanceNames others = instanceNames nodes := by
  rw [← instanceNames_ofRole, regrouped.part .agent Role.noConfusion, instanceNames_ofRole]

theorem agentClasses_eq : agentClasses others = agentClasses nodes := by
  rw [← agentClasses_ofRole, regrouped.part .agent Role.noConfusion, agentClasses_ofRole]

theorem behaviourClasses_eq : behaviourClasses others = behaviourClasses nodes := by
  rw [← behaviourClasses_ofRole, regrouped.part .behaviour Role.noConfusion,
    behaviourClasses_ofRole]

theorem allClasses_eq : allClasses others = allClasses nodes := by
  rw [allClasses, regrouped.agentClasses_eq, regrouped.behaviourClasses_eq, allClasses]

/-- The same violations, perhaps in another order. -/
theorem violations_perm : (violations others).Perm (violations nodes) := by
  have parts (nodes : List Node) := violationsAfter_perm (allClasses nodes) nodes []
  unfold violations
  refine (parts others).trans (.trans ?_ (parts nodes).symm)
  rw [regrouped.allClasses_eq, regrouped.part .agent Role.noConfusion,
    regrouped.part .behaviour Role.noConfusion]

theorem identitiesOf_eq (settings : Settings) :
    Relations.identitiesOf settings others = Relations.identitiesOf settings nodes := by
  unfold Relations.identitiesOf
  rw [regrouped.instanceNames_eq, regrouped.allClasses_eq, ← Relations.resolveAgents_ofRole,
    regrouped.part .agent Role.noConfusion, Relations.resolveAgents_ofRole]

end Node.Regrouped

namespace Plan

theorem resolveBehaviours_ofRole (nodes : List Node) :
    ∀ (found : Dict String) (taken : List String),
      resolveBehaviours found taken (ofRole .behaviour nodes) =
        resolveBehaviours found taken nodes := by
  induction nodes with
  | nil => exact fun _ _ => rfl
  | cons node nodes ih =>
      intro found taken
      by_cases isBehaviour : node.payload.role = .behaviour
      · rw [ofRole_cons_self isBehaviour, resolveBehaviours, resolveBehaviours]
        cases node.payload.behaviour? with
        | none => exact ih found taken
        | some behaviour => simp only [ih]
      · rw [ofRole_cons_of_ne isBehaviour, ih]
        rw [resolveBehaviours, behaviour?_eq_none isBehaviour]

variable {nodes others : List Node} (regrouped : Node.Regrouped nodes others)

include regrouped

theorem filter_regrouped {p : Payload → Bool} {role : Role} (visible : role ≠ .note)
    (told : ∀ payload : Payload, p payload = (payload.role == role)) :
    others.filter (fun node => p node.payload) = nodes.filter fun node => p node.payload := by
  simp only [told]
  exact regrouped.part role visible

theorem imports_regrouped : Import.ofNodes others = Import.ofNodes nodes := by
  refine Import.ofNodes_congr fun p silent => regrouped.any_eq fun node isNote => ?_
  cases payload : node.payload with
  | note text => exact silent text
  | agent | reasoning | prompted | behaviour | template | message =>
      rw [payload] at isNote
      contradiction

/-- Regrouped nodes have the plan of the nodes. -/
theorem regrouped_ofGraph (settings : Settings) (edges : List Edge) :
    Renamed id id (ofGraph settings ⟨nodes, edges⟩) (ofGraph settings ⟨others, edges⟩) := by
  refine {
    injective := Function.injective_id
    renames := ⟨fun _ => rfl, fun _ => rfl⟩
    settings := rfl
    isEmpty := regrouped.isEmpty
    imports := imports_regrouped regrouped
    agents := ?_
    behaviours := ?_
    payload? := regrouped.payload_agree
    relations := Relations.renamed_build Function.injective_id (fun _ => ?_) fun kind about => ?_
    behaviourClass? := fun behaviourId => ?_
    templateNumber? := fun _ => ?_
    messageNumber? := fun _ => ?_ }
  · rw [List.map_id]
    exact filter_regrouped regrouped Role.noConfusion Payload.isAgent_eq
  · rw [List.map_id]
    exact filter_regrouped regrouped Role.noConfusion Payload.isBehaviour_eq
  · rw [regrouped.identitiesOf_eq]
    rfl
  · rw [List.map_id, id_eq, regrouped.told_eq]
    exact .refl kind _
  · unfold ofGraph build
    rw [Relations.identities_build, Relations.identities_build, regrouped.identitiesOf_eq,
      regrouped.behaviourClasses_eq, ← resolveBehaviours_ofRole,
      regrouped.part .behaviour Role.noConfusion, resolveBehaviours_ofRole]
    rfl
  · unfold ofGraph build numbers
    rw [filter_regrouped regrouped Role.noConfusion Payload.isTemplate_eq]
    rfl
  · unfold ofGraph build numbers
    rw [filter_regrouped regrouped Role.noConfusion Payload.isMessage_eq]
    rfl

end Plan

end AgentGraph
