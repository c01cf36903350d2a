import AgentGraph.Proofs.Dict.Renamed
import AgentGraph.Proofs.Program.Names
import AgentGraph.Proofs.Program.Renamed

/-!
A graph whose ids are renamed, all differently, and whose nodes are moved has the plan and
the violations of the graph, but for the ids.
-/

namespace AgentGraph

open Naming

/-- The edge between renamed ends, under an id of its own. -/
def Edge.renamed (rename : String → String) (label : Edge → String) (edge : Edge) : Edge :=
  { edge with id := label edge, source := rename edge.source, target := rename edge.target }

/-- The violation at the renamed node. -/
def Naming.Violation.renamed (rename : String → String) : Violation → Violation
  | .agentNameInvalid name id => .agentNameInvalid name (rename id)
  | .agentNameReserved name id => .agentNameReserved name (rename id)
  | .agentNameClash name id => .agentNameClash name (rename id)
  | .agentNameRepeated name => .agentNameRepeated name
  | .agentClassReserved name id => .agentClassReserved name (rename id)
  | .agentClassRepeated name => .agentClassRepeated name
  | .behaviourClassInvalid name id => .behaviourClassInvalid name (rename id)
  | .behaviourClassReserved name id => .behaviourClassReserved name (rename id)
  | .behaviourClassRepeated name => .behaviourClassRepeated name

namespace Naming

section Taken

variable {taken more : List String} (perm : taken.Perm more)

include perm

/-- Which number is free depends on what is taken, in whatever order. -/
theorem firstFree_perm (stem : String) (fuel : Nat) : ∀ start,
    firstFree stem taken fuel start = firstFree stem more fuel start := by
  induction fuel with
  | zero => exact fun _ => rfl
  | succ fuel ih =>
      intro start
      rw [firstFree, firstFree, ih]
      simp only [perm.mem_iff]

theorem resolve_perm (stem : String) (start : Nat) (field : String) :
    (resolve stem start field taken).1 = (resolve stem start field more).1 ∧
      (resolve stem start field taken).2.Perm (resolve stem start field more).2 := by
  unfold resolve
  cases typed? field with
  | some name => exact ⟨rfl, perm⟩
  | none =>
      unfold fallback
      rw [firstFree_perm perm, perm.length_eq]
      exact ⟨rfl, perm.cons _⟩

end Taken

variable {rename : String → String} {change : Node → Node} (renames : Node.Renames rename change)

include renames

theorem instanceName?_change (node : Node) : (change node).instanceName? = node.instanceName? := by
  rw [Node.instanceName?, renames.payload, Node.instanceName?]

theorem agentClass?_change (node : Node) : (change node).agentClass? = node.agentClass? := by
  rw [Node.agentClass?, renames.payload, Node.agentClass?]

theorem behaviourClass?_change (node : Node) :
    (change node).behaviourClass? = node.behaviourClass? := by
  rw [Node.behaviourClass?, renames.payload, Node.behaviourClass?]

omit renames in
theorem filterMap_change {α : Type} {f : Node → Option α}
    (same : ∀ node, f (change node) = f node) (nodes : List Node) :
    (nodes.map change).filterMap f = nodes.filterMap f := by
  rw [List.filterMap_map]
  congr 1
  funext node
  exact same node

theorem instanceNames_map (nodes : List Node) :
    instanceNames (nodes.map change) = instanceNames nodes :=
  filterMap_change (instanceName?_change renames) nodes

theorem agentClasses_map (nodes : List Node) :
    agentClasses (nodes.map change) = agentClasses nodes :=
  filterMap_change (agentClass?_change renames) nodes

theorem behaviourClasses_map (nodes : List Node) :
    behaviourClasses (nodes.map change) = behaviourClasses nodes :=
  filterMap_change (behaviourClass?_change renames) nodes

theorem allClasses_map (nodes : List Node) : allClasses (nodes.map change) = allClasses nodes := by
  rw [allClasses, agentClasses_map renames, behaviourClasses_map renames, allClasses]

section Violations

omit renames

variable (classes earlier : List String) (id name : String)

theorem demand_map (holds : Bool) (violation : Violation) :
    (demand holds violation).map (Violation.renamed rename) =
      demand holds (violation.renamed rename) := by
  cases holds <;> rfl

theorem agentNameViolations_map :
    agentNameViolations classes earlier (rename id) name =
      (agentNameViolations classes earlier id name).map (Violation.renamed rename) := by
  rw [agentNameViolations, agentNameViolations, List.map_append, demand_map]
  congr 1
  cases isIdentifier name with
  | false => rfl
  | true =>
      cases isReserved name with
      | false => exact (@demand_map rename _ (.agentNameClash name id)).symm
      | true => rfl

theorem agentClassViolations_map :
    agentClassViolations earlier (rename id) name =
      (agentClassViolations earlier id name).map (Violation.renamed rename) := by
  rw [agentClassViolations, agentClassViolations, List.map_append, demand_map, demand_map]
  rfl

theorem behaviourClassViolations_map :
    behaviourClassViolations earlier (rename id) name =
      (behaviourClassViolations earlier id name).map (Violation.renamed rename) := by
  rw [behaviourClassViolations, behaviourClassViolations, List.map_append, demand_map]
  congr 1
  cases isIdentifier name with
  | false => rfl
  | true => exact (@demand_map rename _ (.behaviourClassReserved name id)).symm

theorem ofTyped_map {violations others : String → List Violation}
    (same : ∀ name, others name = (violations name).map (Violation.renamed rename))
    (typed : Option String) :
    ofTyped others typed = (ofTyped violations typed).map (Violation.renamed rename) := by
  cases typed with
  | none => rfl
  | some name => exact same name

end Violations

theorem nodeViolations_map (classes : List String) (earlier : List Node) (node : Node) :
    nodeViolations classes (earlier.map change) (change node) =
      (nodeViolations classes earlier node).map (Violation.renamed rename) := by
  unfold nodeViolations
  rw [instanceNames_map renames, agentClasses_map renames, behaviourClasses_map renames,
    instanceName?_change renames, agentClass?_change renames, behaviourClass?_change renames,
    renames.id, List.map_append, List.map_append, ofTyped_map (agentNameViolations_map _ _ _),
    ofTyped_map (agentClassViolations_map _ _), ofTyped_map (behaviourClassViolations_map _ _)]

theorem violationsAfter_map (classes : List String) (nodes : List Node) : ∀ earlier : List Node,
    violationsAfter classes (earlier.map change) (nodes.map change) =
      (violationsAfter classes earlier nodes).map (Violation.renamed rename) := by
  induction nodes with
  | nil => exact fun _ => rfl
  | cons node nodes ih =>
      intro earlier
      rw [List.map_cons, violationsAfter, violationsAfter, List.map_append,
        nodeViolations_map renames, ← List.map_cons, ih]

/-- The violations of a graph under new ids. -/
theorem violations_map (nodes : List Node) :
    violations (nodes.map change) = (violations nodes).map (Violation.renamed rename) := by
  rw [violations, allClasses_map renames]
  exact violationsAfter_map renames _ nodes []

end Naming

section Renames

variable {rename : String → String} {change : Node → Node} (label : Edge → String)
  (renames : Node.Renames rename change) (injective : Function.Injective rename)

include renames injective

theorem Node.find?_map (nodes : List Node) (id : String) :
    Node.find? (nodes.map change) (rename id) = (Node.find? nodes id).map change := by
  have asked : (fun node : Node => node.id == rename id) ∘ change = fun node => node.id == id := by
    funext node
    exact Bool.eq_iff_iff.mpr (by simp [renames.id, injective.eq_iff])
  rw [Node.find?, List.find?_map, asked]
  rfl

namespace Relations

theorem endOf?_map (nodes : List Node) (id : String) :
    endOf? (nodes.map change) (rename id) = (endOf? nodes id).map change := by
  rw [endOf?, ← List.map_reverse]
  exact Node.find?_map renames injective nodes.reverse id

theorem means_renamed (nodes : List Node) (kind : EdgeKind) (edge : Edge) :
    (edge.renamed rename label).means (nodes.map change) kind = edge.means nodes kind := by
  unfold Edge.means Edge.renamed
  rw [endOf?_map renames injective, endOf?_map renames injective]
  congr 1
  cases endOf? nodes edge.source with
  | none => rfl
  | some source =>
      cases endOf? nodes edge.target with
      | none => rfl
      | some target => simp only [Option.map_some, renames.payload]

theorem tells?_renamed (nodes : List Node) (kind : EdgeKind) (about : String) (edge : Edge) :
    (edge.renamed rename label).tells? (nodes.map change) kind (rename about) =
      (edge.tells? nodes kind about).map rename := by
  have means := means_renamed label renames injective nodes kind edge
  have compare (first second : String) : (rename first == rename second) = (first == second) :=
    Bool.eq_iff_iff.mpr (by simp [injective.eq_iff])
  cases kind with
  | friendship =>
      simp only [Edge.tells?, partner?, means]
      simp only [Edge.renamed, bne, compare, injective.eq_iff]
      split
      · split
        · rfl
        · split <;> rfl
      · rfl
  | inheritance =>
      simp only [Edge.tells?, means]
      simp only [Edge.renamed, bne, compare]
      split <;> rfl
  | agentBehaviour | template | message =>
      simp only [Edge.tells?, means]
      simp only [Edge.renamed, compare]
      split <;> rfl

theorem told_renamed (nodes : List Node) (kind : EdgeKind) (edges : List Edge) (about : String) :
    told (nodes.map change) kind (edges.map (Edge.renamed rename label)) (rename about) =
      (told nodes kind edges about).map rename := by
  rw [told, told, List.filterMap_map, List.map_filterMap]
  congr 1
  funext edge
  exact tells?_renamed label renames injective nodes kind about edge

omit injective in
theorem resolveAgents_map (settings : Settings) (nodes : List Node) :
    ∀ (number : Nat) (names classes : List String),
      resolveAgents settings number names classes (nodes.map change) =
        (resolveAgents settings number names classes nodes).map (Prod.map rename id) := by
  induction nodes with
  | nil => exact fun _ _ _ => rfl
  | cons node nodes ih =>
      intro number names classes
      rw [List.map_cons, resolveAgents, resolveAgents, renames.payload]
      cases node.payload.agent? with
      | none => exact ih number names classes
      | some agent => simp only [renames.id, ih, List.map_cons, Prod.map, id_eq]

theorem identitiesOf_map (settings : Settings) (nodes : List Node) :
    Dict.Renamed rename (identitiesOf settings nodes) (identitiesOf settings (nodes.map change)) := by
  rw [identitiesOf, identitiesOf, instanceNames_map renames, allClasses_map renames,
    resolveAgents_map renames]
  exact .ofList injective _

end Relations

namespace Plan

-- The names taken at first stand in the order of the agents' ids, so that renaming keeps
-- them up to order only; the induction is on both the map found so far and the names taken.
theorem resolveBehaviours_map (nodes : List Node) :
    ∀ {found other : Dict String} {taken more : List String},
      Dict.Renamed rename found other → taken.Perm more →
        Dict.Renamed rename (resolveBehaviours found taken nodes)
          (resolveBehaviours other more (nodes.map change)) := by
  induction nodes with
  | nil => exact fun same _ => same
  | cons node nodes ih =>
      intro found other taken more same perm
      rw [List.map_cons, resolveBehaviours, resolveBehaviours, renames.payload]
      cases node.payload.behaviour? with
      | none => exact ih same perm
      | some behaviour =>
          obtain ⟨name, rest⟩ :=
            resolve_perm perm "MyBehaviour" (found.size + 1) behaviour.className
          simp only [same.size, renames.id, ← name]
          exact ih (same.insert injective _ _) rest

theorem numbers_map (isCounted : Payload → Bool) (nodes : List Node) :
    Dict.Renamed rename (numbers isCounted nodes) (numbers isCounted (nodes.map change)) := by
  have folded (counted : List Node) : ∀ {found other : Dict Nat}, Dict.Renamed rename found other →
      Dict.Renamed rename
        (counted.foldl (fun found node => found.insert node.id (found.size + 1)) found)
        ((counted.map change).foldl (fun found node => found.insert node.id (found.size + 1)) other) := by
    induction counted with
    | nil => exact fun same => same
    | cons node counted ih =>
        intro found other same
        rw [List.map_cons, List.foldl_cons, List.foldl_cons, same.size, renames.id]
        exact ih (same.insert injective _ _)
  have counts : (fun node : Node => isCounted node.payload) ∘ change =
      fun node => isCounted node.payload :=
    funext fun node => congrArg isCounted (renames.payload node)
  rw [numbers, numbers, List.filter_map, counts]
  exact folded _ .empty

omit injective in
theorem imports_map (nodes : List Node) :
    Import.ofNodes (nodes.map change) = Import.ofNodes nodes := by
  refine Import.ofNodes_congr fun p _ => ?_
  rw [List.any_map]
  congr 1
  funext node
  exact congrArg p (renames.payload node)

/-- A graph under new ids has the plan of the graph under these ids. -/
theorem renamed_ofGraph (settings : Settings) (graph : Graph) :
    Renamed rename change (ofGraph settings graph)
      (ofGraph settings ⟨graph.nodes.map change, graph.edges.map (Edge.renamed rename label)⟩) := by
  have identities := Relations.identitiesOf_map renames injective settings graph.nodes
  have part {p : Payload → Bool} : (graph.nodes.map change).filter (fun node => p node.payload) =
      (graph.nodes.filter fun node => p node.payload).map change := by
    rw [List.filter_map]
    congr 2
    funext node
    exact congrArg p (renames.payload node)
  refine {
    injective
    renames
    settings := rfl
    isEmpty := List.isEmpty_map
    imports := imports_map renames graph.nodes
    agents := part
    behaviours := part
    payload? := fun id payload _ => ?_
    relations := Relations.renamed_build injective (identities.find? injective) fun kind about => ?_
    behaviourClass? := fun id => ?_
    templateNumber? := (numbers_map renames injective Payload.isTemplate graph.nodes).find? injective
    messageNumber? := (numbers_map renames injective Payload.isMessage graph.nodes).find? injective }
  · unfold payload? ofGraph build
    rw [Node.find?_map renames injective, Option.map_map]
    exact iff_of_eq (congrArg (· = some payload) (congrFun
      (congrArg Option.map (funext renames.payload)) _))
  · rw [Relations.told_renamed label renames injective]
    exact .refl kind _
  · unfold ofGraph build
    rw [Relations.identities_build, Relations.identities_build, behaviourClasses_map renames]
    exact (resolveBehaviours_map renames injective graph.nodes .empty
      ((identities.values.symm.map _).append_right _)).find? injective id

end Plan

end Renames

end AgentGraph
