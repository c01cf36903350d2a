import AgentGraph.Naming.Violation
import Mathlib.Tactic.Tauto

/-!
What the rules for names come to: a condition on each typed name alone, and the names
of each kind being distinct.
-/

namespace AgentGraph.Naming

/-- Whether the typed names keep all rules. -/
structure IsValid (nodes : List Node) : Prop where
  instanceNames_nodup : (instanceNames nodes).Nodup
  agentClasses_nodup : (agentClasses nodes).Nodup
  behaviourClasses_nodup : (behaviourClasses nodes).Nodup
  instanceName : ∀ name ∈ instanceNames nodes,
    isIdentifier name = true ∧ isReserved name = false ∧ name ∉ allClasses nodes
  agentClass : ∀ name ∈ agentClasses nodes, isReserved name = false
  behaviourClass : ∀ name ∈ behaviourClasses nodes,
    isIdentifier name = true ∧ isReserved name = false

theorem demand_eq_nil {holds : Bool} {violation : Violation} :
    demand holds violation = [] ↔ holds = true := by
  cases holds with
  | false => exact ⟨nofun, nofun⟩
  | true => exact ⟨fun _ => rfl, fun _ => rfl⟩

theorem ofTyped_eq_nil {violations : String → List Violation} {typed : Option String} :
    ofTyped violations typed = [] ↔ ∀ name ∈ typed, violations name = [] := by
  cases typed with
  | none => simp [ofTyped]
  | some name => simp [ofTyped]

theorem agentNameViolations_eq_nil {classes earlier : List String} {id name : String} :
    agentNameViolations classes earlier id name = [] ↔
      (isIdentifier name = true ∧ isReserved name = false ∧ name ∉ classes) ∧
        name ∉ earlier := by
  unfold agentNameViolations
  cases identifier : isIdentifier name with
  | false => simp
  | true =>
      cases reserved : isReserved name with
      | true => simp
      | false => simp [demand_eq_nil]

theorem agentClassViolations_eq_nil {earlier : List String} {id name : String} :
    agentClassViolations earlier id name = [] ↔
      isReserved name = false ∧ name ∉ earlier := by
  simp [agentClassViolations, demand_eq_nil]

theorem behaviourClassViolations_eq_nil {earlier : List String} {id name : String} :
    behaviourClassViolations earlier id name = [] ↔
      (isIdentifier name = true ∧ isReserved name = false) ∧ name ∉ earlier := by
  unfold behaviourClassViolations
  cases identifier : isIdentifier name with
  | false => simp
  | true => simp [demand_eq_nil]

/-- Whether the names of `rest` are distinct from each other and from those of `earlier`. -/
private def Fresh (name? : Node → Option String) (earlier rest : List Node) : Prop :=
  (rest.filterMap name?).Nodup ∧ ∀ name ∈ rest.filterMap name?, name ∉ earlier.filterMap name?

private theorem fresh_cons {name? : Node → Option String} {node : Node}
    {earlier rest : List Node} :
    Fresh name? earlier (node :: rest) ↔
      (∀ name ∈ name? node, name ∉ earlier.filterMap name?) ∧
        Fresh name? (node :: earlier) rest := by
  unfold Fresh
  cases name : name? node with
  | none => simp [name]
  | some own =>
      simp only [List.filterMap_cons, name, List.nodup_cons, List.mem_cons]
      constructor
      · rintro ⟨⟨notInRest, nodup⟩, fresh⟩
        refine ⟨fun given same => ?_, nodup, fun given inside => ?_⟩
        · exact fresh given (.inl (Option.some.inj same).symm)
        · rintro (rfl | old)
          · exact notInRest inside
          · exact fresh given (.inr inside) old
      · rintro ⟨new, nodup, fresh⟩
        refine ⟨⟨fun inside => fresh own inside (.inl rfl), nodup⟩, ?_⟩
        rintro given (rfl | inside)
        · exact new given rfl
        · exact fun old => fresh given inside (.inr old)

private theorem forall_filterMap_cons {name? : Node → Option String} {node : Node}
    {rest : List Node} {holds : String → Prop} :
    (∀ name ∈ (node :: rest).filterMap name?, holds name) ↔
      (∀ name ∈ name? node, holds name) ∧ ∀ name ∈ rest.filterMap name?, holds name := by
  cases name : name? node with
  | none => simp [name]
  | some own => simp [name]

theorem violationsAfter_eq_nil {classes : List String} {rest : List Node} :
    ∀ {earlier : List Node}, violationsAfter classes earlier rest = [] ↔
      (Fresh Node.instanceName? earlier rest ∧ Fresh Node.agentClass? earlier rest ∧
        Fresh Node.behaviourClass? earlier rest) ∧
      (∀ name ∈ instanceNames rest,
        isIdentifier name = true ∧ isReserved name = false ∧ name ∉ classes) ∧
      (∀ name ∈ agentClasses rest, isReserved name = false) ∧
      ∀ name ∈ behaviourClasses rest, isIdentifier name = true ∧ isReserved name = false := by
  induction rest with
  | nil =>
      intro earlier
      simp [violationsAfter, Fresh, instanceNames, agentClasses, behaviourClasses]
  | cons node rest ih =>
      intro earlier
      simp only [violationsAfter, nodeViolations, List.append_eq_nil_iff, ofTyped_eq_nil,
        agentNameViolations_eq_nil, agentClassViolations_eq_nil,
        behaviourClassViolations_eq_nil, ih, fresh_cons, instanceNames, agentClasses,
        behaviourClasses, forall_filterMap_cons, forall_and]
      tauto

theorem violations_eq_nil_iff (nodes : List Node) : violations nodes = [] ↔ IsValid nodes := by
  have alone {name? : Node → Option String} :
      Fresh name? [] nodes ↔ (nodes.filterMap name?).Nodup := by
    simp [Fresh]
  unfold violations
  rw [violationsAfter_eq_nil]
  simp only [alone]
  constructor
  · rintro ⟨⟨instances, agents, behaviours⟩, instanceName, agentClass, behaviourClass⟩
    exact ⟨instances, agents, behaviours, instanceName, agentClass, behaviourClass⟩
  · intro valid
    exact ⟨⟨valid.instanceNames_nodup, valid.agentClasses_nodup, valid.behaviourClasses_nodup⟩,
      valid.instanceName, valid.agentClass, valid.behaviourClass⟩

end AgentGraph.Naming
