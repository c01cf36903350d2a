import AgentGraph.Program.Basic
import AgentGraph.Proofs.Node.Role
import AgentGraph.Proofs.Relations.Meaning

/-!
Changes of nodes that keep their ids, their roles and what counts as typed for their names.
The names of the generated program, the meaning of its edges and the order of its classes
depend on nothing else.
-/

namespace AgentGraph

theorem Naming.resolve_congr {field other : String} (same : typed? other = typed? field)
    (stem : String) (start : Nat) (taken : List String) :
    resolve stem start other taken = resolve stem start field taken := by
  rw [resolve, resolve, same]

/-- A change of nodes that keeps everything that names and edges depend on. -/
structure Node.KeepsNames (change : Node → Node) : Prop where
  id : ∀ node, (change node).id = node.id
  role : ∀ node, (change node).payload.role = node.payload.role
  instanceName? : ∀ node, (change node).instanceName? = node.instanceName?
  agentClass? : ∀ node, (change node).agentClass? = node.agentClass?
  behaviourClass? : ∀ node, (change node).behaviourClass? = node.behaviourClass?

namespace Node.KeepsNames

variable {change : Node → Node} (keeps : KeepsNames change)

include keeps

theorem isAgent (node : Node) : (change node).payload.isAgent = node.payload.isAgent := by
  rw [Payload.isAgent_eq, Payload.isAgent_eq, keeps.role]

theorem isBehaviour (node : Node) :
    (change node).payload.isBehaviour = node.payload.isBehaviour := by
  rw [Payload.isBehaviour_eq, Payload.isBehaviour_eq, keeps.role]

theorem template (node : Node) :
    (change node).payload.isTemplate = node.payload.isTemplate := by
  rw [Payload.isTemplate_eq, Payload.isTemplate_eq, keeps.role]

theorem message (node : Node) : (change node).payload.isMessage = node.payload.isMessage := by
  rw [Payload.isMessage_eq, Payload.isMessage_eq, keeps.role]

theorem instanceNames (nodes : List Node) :
    Naming.instanceNames (nodes.map change) = Naming.instanceNames nodes := by
  have same : Node.instanceName? ∘ change = Node.instanceName? := funext keeps.instanceName?
  rw [Naming.instanceNames, List.filterMap_map, same, Naming.instanceNames]

theorem agentClasses (nodes : List Node) :
    Naming.agentClasses (nodes.map change) = Naming.agentClasses nodes := by
  have same : Node.agentClass? ∘ change = Node.agentClass? := funext keeps.agentClass?
  rw [Naming.agentClasses, List.filterMap_map, same, Naming.agentClasses]

theorem behaviourClasses (nodes : List Node) :
    Naming.behaviourClasses (nodes.map change) = Naming.behaviourClasses nodes := by
  have same : Node.behaviourClass? ∘ change = Node.behaviourClass? := funext keeps.behaviourClass?
  rw [Naming.behaviourClasses, List.filterMap_map, same, Naming.behaviourClasses]

theorem allClasses (nodes : List Node) :
    Naming.allClasses (nodes.map change) = Naming.allClasses nodes := by
  rw [Naming.allClasses, keeps.agentClasses, keeps.behaviourClasses, Naming.allClasses]

/-- The rules for names look at nothing but names. -/
theorem violations (nodes : List Node) :
    Naming.violations (nodes.map change) = Naming.violations nodes := by
  have after (classes : List String) (rest : List Node) : ∀ earlier : List Node,
      Naming.violationsAfter classes (earlier.map change) (rest.map change) =
        Naming.violationsAfter classes earlier rest := by
    induction rest with
    | nil => exact fun _ => rfl
    | cons node rest ih =>
        intro earlier
        have tail := ih (node :: earlier)
        rw [List.map_cons] at tail
        simp only [List.map_cons, Naming.violationsAfter, Naming.nodeViolations, tail,
          keeps.instanceNames, keeps.agentClasses, keeps.behaviourClasses,
          keeps.instanceName?, keeps.agentClass?, keeps.behaviourClass?, keeps.id]
  unfold Naming.violations
  rw [keeps.allClasses]
  exact after _ nodes []

theorem find? (nodes : List Node) (id : String) :
    Node.find? (nodes.map change) id = (Node.find? nodes id).map change := by
  unfold Node.find?
  rw [List.find?_map]
  congr 2
  funext node
  rw [Function.comp_apply, keeps.id]

theorem endOf? (nodes : List Node) (id : String) :
    Relations.endOf? (nodes.map change) id = (Relations.endOf? nodes id).map change := by
  unfold Relations.endOf?
  rw [← List.map_reverse, keeps.find?]

theorem fits (kind : EdgeKind) (source target : Node) :
    kind.fits (change source).payload (change target).payload =
      kind.fits source.payload target.payload := by
  rw [Bool.eq_iff_iff, EdgeKind.fits_iff, EdgeKind.fits_iff, keeps.role, keeps.role]

/-- What an edge means does not depend on what changes in its ends. -/
theorem addEdge (nodes : List Node) (relations : Relations) (edge : Edge) :
    Relations.addEdge (nodes.map change) relations edge =
      Relations.addEdge nodes relations edge := by
  unfold Relations.addEdge
  rw [keeps.endOf?, keeps.endOf?]
  cases Relations.endOf? nodes edge.source with
  | none => rfl
  | some source =>
      cases Relations.endOf? nodes edge.target with
      | none => rfl
      | some target => simp only [Option.map_some, keeps.fits]

theorem resolveBehaviours (nodes : List Node) : ∀ (found : Dict String) (taken : List String),
    Plan.resolveBehaviours found taken (nodes.map change) =
      Plan.resolveBehaviours found taken nodes := by
  have isSome (payload : Payload) : payload.isBehaviour = payload.behaviour?.isSome := by
    cases payload <;> rfl
  induction nodes with
  | nil => exact fun _ _ => rfl
  | cons node nodes ih =>
      intro found taken
      have kept := keeps.isBehaviour node
      have typed := keeps.behaviourClass? node
      rw [isSome, isSome] at kept
      unfold Node.behaviourClass? at typed
      rw [List.map_cons, Plan.resolveBehaviours, Plan.resolveBehaviours]
      cases changed : (change node).payload.behaviour? with
      | none =>
          cases original : node.payload.behaviour? with
          | none => exact ih found taken
          | some behaviour => simp [changed, original] at kept
      | some behaviour =>
          cases original : node.payload.behaviour? with
          | none => simp [changed, original] at kept
          | some other =>
              rw [changed, original] at typed
              simp only [Naming.resolve_congr typed, keeps.id, ih]

theorem numbers {isCounted : Payload → Bool}
    (counted : ∀ node, isCounted (change node).payload = isCounted node.payload)
    (nodes : List Node) :
    Plan.numbers isCounted (nodes.map change) = Plan.numbers isCounted nodes := by
  have filtered : (nodes.map change).filter (fun node => isCounted node.payload) =
      (nodes.filter fun node => isCounted node.payload).map change := by
    rw [List.filter_map]
    congr 2
    funext node
    exact counted node
  unfold Plan.numbers
  rw [filtered, List.foldl_map]
  simp only [keeps.id]

theorem agents (nodes : List Node) :
    (nodes.map change).filter Node.isAgent = (nodes.filter Node.isAgent).map change := by
  rw [List.filter_map]
  congr 2
  funext node
  exact keeps.isAgent node

theorem isReady {relations others : Relations}
    (parents : relations.parentsOf = others.parentsOf) (emitted : List String) (node : Node) :
    Plan.isReady relations emitted (change node) = Plan.isReady others emitted node := by
  unfold Plan.isReady
  rw [keeps.id, parents]

end Node.KeepsNames

def Plan.Heir.change (change : Node → Node) (heir : Plan.Heir) : Plan.Heir :=
  { heir with node := change heir.node }

namespace Node.KeepsNames

variable {change : Node → Node} (keeps : KeepsNames change)

include keeps

/-- The order of classes depends on the ids of the agents and on their parents. -/
theorem inheritanceOrder {relations others : Relations}
    (parents : relations.parentsOf = others.parentsOf) (count : Nat) :
    ∀ (emitted : List String) (remaining : List Node),
      Plan.inheritanceOrder relations count emitted (remaining.map change) =
        (Plan.inheritanceOrder others count emitted remaining).map
          (Plan.Heir.change change) := by
  induction count with
  | zero => exact fun _ _ => rfl
  | succ count ih =>
      intro emitted remaining
      have ready : Plan.isReady relations emitted ∘ change = Plan.isReady others emitted := by
        funext node
        exact keeps.isReady parents emitted node
      have next : Plan.nextAgent? relations emitted (remaining.map change) =
          (Plan.nextAgent? others emitted remaining).map change := by
        unfold Plan.nextAgent?
        rw [List.find?_map, ready, List.head?_map]
        cases remaining.find? (Plan.isReady others emitted) <;> rfl
      have without : Plan.withoutNext relations emitted (remaining.map change) =
          (Plan.withoutNext others emitted remaining).map change := by
        unfold Plan.withoutNext
        rw [List.any_map, ready]
        split
        · rw [List.eraseP_map, ready]
        · exact (List.map_tail ..).symm
      rw [Plan.inheritanceOrder, Plan.inheritanceOrder, next]
      cases Plan.nextAgent? others emitted remaining with
      | none => rfl
      | some node =>
          simp only [Option.map_some, List.map_cons, without, keeps.id, parents, ih]
          rfl

variable (settings : Settings) (nodes : List Node) (edges : List Edge)

theorem means (kind : EdgeKind) (edge : Edge) :
    edge.means (nodes.map change) kind = edge.means nodes kind := by
  unfold Edge.means
  rw [keeps.endOf?, keeps.endOf?]
  cases Relations.endOf? nodes edge.source with
  | none => rfl
  | some source =>
      cases Relations.endOf? nodes edge.target with
      | none => rfl
      | some target => simp only [Option.map_some, keeps.fits]

theorem attached (agentId : String) :
    Relations.attached (nodes.map change) edges agentId =
      Relations.attached nodes edges agentId := by
  simp only [Relations.attached, keeps.means]

theorem lastTarget? (kind : EdgeKind) :
    Relations.lastTarget? (nodes.map change) kind edges =
      Relations.lastTarget? nodes kind edges := by
  funext source
  simp only [Relations.lastTarget?, keeps.means]

theorem partner? (agentId : String) :
    Relations.partner? (nodes.map change) agentId = Relations.partner? nodes agentId := by
  funext edge
  simp only [Relations.partner?, keeps.means]

theorem behavioursOf :
    (Relations.build settings (nodes.map change) edges).behavioursOf =
      (Relations.build settings nodes edges).behavioursOf := by
  funext agentId
  rw [Relations.behavioursOf_build, Relations.behavioursOf_build, keeps.attached]

theorem parentsOf :
    (Relations.build settings (nodes.map change) edges).parentsOf =
      (Relations.build settings nodes edges).parentsOf := by
  funext agentId
  rw [Relations.parentsOf_build, Relations.parentsOf_build]
  simp only [Relations.inherited, keeps.means]

theorem template? :
    (Relations.build settings (nodes.map change) edges).template? =
      (Relations.build settings nodes edges).template? := by
  funext behaviourId
  rw [Relations.template?_build, Relations.template?_build, keeps.lastTarget?]

theorem message? :
    (Relations.build settings (nodes.map change) edges).message? =
      (Relations.build settings nodes edges).message? := by
  funext behaviourId
  rw [Relations.message?_build, Relations.message?_build, keeps.lastTarget?]

theorem templatesOf :
    (Relations.build settings (nodes.map change) edges).templatesOf =
      (Relations.build settings nodes edges).templatesOf := by
  funext agentId
  rw [Relations.templatesOf_build, Relations.templatesOf_build, keeps.attached,
    keeps.lastTarget?]

end Node.KeepsNames

namespace Import

variable {change : Node → Node}

theorem behaviourKinds_change
    (kind : ∀ node, (change node).payload.behaviour?.map Behaviour.kind =
      node.payload.behaviour?.map Behaviour.kind) (nodes : List Node) :
    behaviourKinds (nodes.map change) = behaviourKinds nodes := by
  have any (payload : Payload) (kind : BehaviourKind) :
      (payload.behaviour?.any fun behaviour => behaviour.kind == kind) =
        (payload.behaviour?.map Behaviour.kind).any (· == kind) := by
    rw [Option.any_map]
  unfold behaviourKinds
  simp only [any, List.any_map, Function.comp_def, kind]

/-- The imports depend on the kinds of nodes and of behaviours, and on timed starts. -/
theorem ofNodes_change (keeps : Node.KeepsNames change)
    (reasoning : ∀ node, (change node).payload.isReasoning = node.payload.isReasoning)
    (kind : ∀ node, (change node).payload.behaviour?.map Behaviour.kind =
      node.payload.behaviour?.map Behaviour.kind)
    (dated : ∀ node, (change node).payload.behaviour?.any Behaviour.isDated =
      node.payload.behaviour?.any Behaviour.isDated) (nodes : List Node) :
    ofNodes (nodes.map change) = ofNodes nodes := by
  have any {holds : Node → Bool} (same : ∀ node, holds (change node) = holds node) :
      (nodes.map change).any holds = nodes.any holds := by
    rw [List.any_map]
    congr 1
    funext node
    exact same node
  have used : isUsed (nodes.map change) = isUsed nodes := by
    funext imported
    cases imported with
    | waiting => exact any keeps.isAgent
    | agent =>
        apply any
        intro node
        have agent : (change node).isAgent = node.isAgent := keeps.isAgent node
        rw [agent, reasoning]
    | behaviours kinds => rfl
    | message => exact any keeps.message
    | template => exact any keeps.template
    | reasoningAgent => exact any reasoning
    | datetime => exact any dated
    | framework => rfl
  unfold ofNodes
  rw [used, behaviourKinds_change kind]

end Import

end AgentGraph
