import AgentGraph.Program.Basic
import AgentGraph.Proofs.Node.Role
import AgentGraph.Proofs.Relations.Told

/-!
Plans that differ in the ids of nodes only. They tell the same program, since ids are
looked up and compared, but never written.
-/

namespace AgentGraph

/-- Whether both payloads are the same, or neither is anything but a note. -/
def Payload.Agree (first second : Option Payload) : Prop :=
  ∀ payload, payload.role ≠ .note → (first = some payload ↔ second = some payload)

/-- Nothing, or a note. -/
inductive Payload.IsHidden : Option Payload → Prop where
  | none : IsHidden none
  | note (text : String) : IsHidden (some (.note text))

theorem Payload.isHidden_of_role {payload : Payload} (isNote : payload.role = .note) :
    IsHidden (some payload) := by
  cases payload with
  | note text => exact .note text
  | agent | reasoning | prompted | behaviour | template | message => contradiction

theorem Payload.Agree.eq_or_hidden {first second : Option Payload} (agree : Agree first second) :
    first = second ∨ IsHidden first ∧ IsHidden second := by
  cases first with
  | none =>
      cases second with
      | none => exact .inl rfl
      | some other =>
          have isNote : other.role = .note :=
            by_contra fun visible => nomatch (agree other visible).mpr rfl
          exact .inr ⟨.none, isHidden_of_role isNote⟩
  | some payload =>
      by_cases isNote : payload.role = .note
      · refine .inr ⟨isHidden_of_role isNote, ?_⟩
        cases second with
        | none => exact .none
        | some other =>
            apply isHidden_of_role
            by_contra visible
            rw [Option.some.inj ((agree other visible).mpr rfl)] at isNote
            exact visible isNote
      · exact .inl ((agree payload isNote).mp rfl).symm

@[elab_as_elim]
theorem Payload.Agree.elim {motive : Option Payload → Option Payload → Prop}
    {first second : Option Payload} (agree : Agree first second)
    (same : ∀ payload?, motive payload? payload?)
    (hidden : ∀ {first second}, IsHidden first → IsHidden second → motive first second) :
    motive first second := by
  rcases agree.eq_or_hidden with rfl | ⟨firstHidden, secondHidden⟩
  · exact same first
  · exact hidden firstHidden secondHidden

/-- The imports depend on what the nodes hold, and on no note. -/
theorem Import.ofNodes_congr {nodes others : List Node}
    (same : ∀ p : Payload → Bool, (∀ text, p (.note text) = false) →
      others.any (fun node => p node.payload) = nodes.any fun node => p node.payload) :
    ofNodes others = ofNodes nodes := by
  have kinds : behaviourKinds others = behaviourKinds nodes := by
    unfold behaviourKinds
    congr 1
    funext kind
    exact same (fun payload => payload.behaviour?.any fun behaviour => behaviour.kind == kind)
      fun _ => rfl
  have used : isUsed others = isUsed nodes := by
    funext wanted
    cases wanted with
    | waiting => exact same Payload.isAgent fun _ => rfl
    | agent => exact same (fun payload => payload.isAgent && !payload.isReasoning) fun _ => rfl
    | message => exact same Payload.isMessage fun _ => rfl
    | template => exact same Payload.isTemplate fun _ => rfl
    | reasoningAgent => exact same Payload.isReasoning fun _ => rfl
    | datetime => exact same (fun payload => payload.behaviour?.any Behaviour.isDated) fun _ => rfl
    | behaviours | framework => rfl
  rw [ofNodes, kinds, used, ofNodes]

/-- A change of nodes that renames their ids and keeps their payloads. -/
structure Node.Renames (rename : String → String) (change : Node → Node) : Prop where
  id : ∀ node, (change node).id = rename node.id
  payload : ∀ node, (change node).payload = node.payload

namespace Plan

def behaviours (plan : Plan) : List Node :=
  plan.nodes.filter fun node => node.payload.isBehaviour

/-- Whether the plans are the same but for the ids and the places of nodes, and for notes. -/
structure Renamed (rename : String → String) (change : Node → Node) (plan other : Plan) :
    Prop where
  injective : Function.Injective rename
  renames : Node.Renames rename change
  settings : other.settings = plan.settings
  isEmpty : other.nodes.isEmpty = plan.nodes.isEmpty
  imports : Import.ofNodes other.nodes = Import.ofNodes plan.nodes
  agents : other.agents = plan.agents.map change
  behaviours : other.behaviours = plan.behaviours.map change
  payload? : ∀ id, Payload.Agree (other.payload? (rename id)) (plan.payload? id)
  relations : Relations.Renamed rename plan.relations other.relations
  behaviourClass? : ∀ id,
    other.behaviourClasses.find? (rename id) = plan.behaviourClasses.find? id
  templateNumber? : ∀ id,
    other.templateNumbers.find? (rename id) = plan.templateNumbers.find? id
  messageNumber? : ∀ id,
    other.messageNumbers.find? (rename id) = plan.messageNumbers.find? id

def Heir.renamed (rename : String → String) (change : Node → Node) (heir : Heir) : Heir :=
  ⟨change heir.node, heir.parents.map rename⟩

namespace Renamed

variable {rename : String → String} {change : Node → Node} {plan other : Plan}
  (renamed : Renamed rename change plan other)

include renamed

theorem contains_map (ids : List String) (id : String) :
    (ids.map rename).contains (rename id) = ids.contains id := by
  rw [Bool.eq_iff_iff, List.contains_iff_mem, List.contains_iff_mem,
    List.mem_map_of_injective renamed.injective]

theorem isReady (emitted : List String) (node : Node) :
    Plan.isReady other.relations (emitted.map rename) (change node) =
      Plan.isReady plan.relations emitted node := by
  unfold Plan.isReady
  rw [renamed.renames.id, renamed.relations.parentsOf, List.all_map]
  congr 1
  funext parent
  exact renamed.contains_map emitted parent

theorem inheritanceOrder (count : Nat) : ∀ (emitted : List String) (remaining : List Node),
    Plan.inheritanceOrder other.relations count (emitted.map rename) (remaining.map change) =
      (Plan.inheritanceOrder plan.relations count emitted remaining).map
        (Heir.renamed rename change) := by
  induction count with
  | zero => exact fun _ _ => rfl
  | succ count ih =>
      intro emitted remaining
      have ready : Plan.isReady other.relations (emitted.map rename) ∘ change =
          Plan.isReady plan.relations emitted := funext (renamed.isReady emitted)
      have next : Plan.nextAgent? other.relations (emitted.map rename) (remaining.map change) =
          (Plan.nextAgent? plan.relations emitted remaining).map change := by
        unfold Plan.nextAgent?
        rw [List.find?_map, ready, List.head?_map]
        cases remaining.find? (Plan.isReady plan.relations emitted) <;> rfl
      have without : Plan.withoutNext other.relations (emitted.map rename)
          (remaining.map change) =
            (Plan.withoutNext plan.relations emitted remaining).map change := by
        unfold Plan.withoutNext
        rw [List.any_map, ready]
        split
        · rw [List.eraseP_map, ready]
        · exact (List.map_tail ..).symm
      rw [Plan.inheritanceOrder, Plan.inheritanceOrder, next]
      cases Plan.nextAgent? plan.relations emitted remaining with
      | none => rfl
      | some node =>
          have parents : ((plan.relations.parentsOf node.id).map rename).filter
              (fun parent => (emitted.map rename).contains parent) =
                ((plan.relations.parentsOf node.id).filter fun parent =>
                  emitted.contains parent).map rename := by
            rw [List.filter_map]
            congr 2
            funext parent
            exact renamed.contains_map emitted parent
          simp only [Option.map_some, List.map_cons, renamed.renames.id,
            renamed.relations.parentsOf, parents, without]
          rw [← List.map_cons, ih]
          rfl

theorem heirs : other.heirs = plan.heirs.map (Heir.renamed rename change) := by
  unfold Plan.heirs
  rw [renamed.agents, List.length_map]
  exact renamed.inheritanceOrder _ [] _

theorem classNames (agentIds : List String) :
    other.classNames (agentIds.map rename) = plan.classNames agentIds := by
  have identities : other.relations.identity? ∘ rename = plan.relations.identity? :=
    funext renamed.relations.identity?
  unfold Plan.classNames
  rw [List.filterMap_map, identities]

theorem agentClassTexts : other.agentClassTexts = plan.agentClassTexts := by
  unfold Plan.agentClassTexts
  rw [renamed.heirs, List.filterMap_map]
  congr 1
  funext heir
  simp only [Function.comp_apply, Heir.renamed, renamed.renames.id, renamed.renames.payload,
    renamed.relations.identity?, renamed.relations.friendsOf, renamed.classNames]

theorem behaviourClassTexts : other.behaviourClassTexts = plan.behaviourClassTexts := by
  have collected (plan : Plan) : plan.behaviourClassTexts = plan.behaviours.filterMap fun node => do
      let behaviour ← node.payload.behaviour?
      let className ← plan.behaviourClasses.find? node.id
      return behaviour.classText className := by
    refine filterMap_eq_filterMap_filter (fun node other => ?_) plan.nodes
    cases payload : node.payload with
    | behaviour behaviour => simp [payload, Payload.isBehaviour] at other
    | agent | reasoning | prompted | template | message | note => rfl
  rw [collected, collected, renamed.behaviours, List.filterMap_map]
  congr 1
  funext node
  simp only [Function.comp_apply, renamed.renames.id, renamed.renames.payload,
    renamed.behaviourClass?]

theorem reasoningDocuments :
    other.nodes.filterMap other.reasoningDocument? =
      plan.nodes.filterMap plan.reasoningDocument? := by
  have collected (plan : Plan) : plan.nodes.filterMap plan.reasoningDocument? =
      plan.agents.filterMap plan.reasoningDocument? := by
    refine filterMap_eq_filterMap_filter (fun node other => ?_) plan.nodes
    unfold Plan.reasoningDocument?
    cases payload : node.payload with
    | agent | reasoning | prompted =>
        simp [payload, Node.isAgent, Payload.isAgent, Payload.agent?] at other
    | behaviour | template | message | note => rfl
  rw [collected, collected, renamed.agents, List.filterMap_map]
  congr 1
  funext node
  simp only [Function.comp_apply, Plan.reasoningDocument?, renamed.renames.id,
    renamed.renames.payload, renamed.relations.identity?, renamed.settings]

theorem creation? (node : Node) : other.creation? (change node) = plan.creation? node := by
  simp only [Plan.creation?, Plan.reasoningFile?, renamed.renames.id, renamed.renames.payload,
    renamed.relations.identity?, renamed.settings]

theorem templateVariable (agent templateId : String) :
    other.templateVariable agent (rename templateId) = plan.templateVariable agent templateId := by
  rw [Plan.templateVariable, Dict.findD, renamed.templateNumber?]
  rfl

theorem messageVariable (agent messageId : String) :
    other.messageVariable agent (rename messageId) = plan.messageVariable agent messageId := by
  rw [Plan.messageVariable, Dict.findD, renamed.messageNumber?]
  rfl

theorem templateStatements (agent templateId : String) :
    other.templateStatements agent (rename templateId) =
      plan.templateStatements agent templateId := by
  unfold Plan.templateStatements
  rw [renamed.templateVariable]
  refine (renamed.payload? templateId).elim (fun _ => rfl) ?_
  rintro _ _ (_ | _) (_ | _) <;> rfl

theorem messageStatements (agent messageId : String) :
    other.messageStatements agent (rename messageId) = plan.messageStatements agent messageId := by
  unfold Plan.messageStatements
  rw [renamed.messageVariable]
  refine (renamed.payload? messageId).elim (fun _ => rfl) ?_
  rintro _ _ (_ | _) (_ | _) <;> rfl

omit renamed in
theorem filter_contains {numbers others : Dict Nat}
    (same : ∀ id, others.find? (rename id) = numbers.find? id) (bound : Option String) :
    (bound.map rename).filter others.contains = (bound.filter numbers.contains).map rename := by
  cases bound with
  | none => rfl
  | some id =>
      simp only [Option.map_some, Option.filter_some, Dict.contains, same]
      by_cases known : (numbers.find? id).isSome = true
      · simp [known]
      · simp [known]

theorem boundTemplate? (behaviourId : String) :
    other.boundTemplate? (rename behaviourId) = (plan.boundTemplate? behaviourId).map rename := by
  unfold Plan.boundTemplate?
  rw [renamed.relations.template?, filter_contains renamed.templateNumber?]

theorem boundMessage? (behaviourId : String) :
    other.boundMessage? (rename behaviourId) = (plan.boundMessage? behaviourId).map rename := by
  unfold Plan.boundMessage?
  rw [renamed.relations.message?, filter_contains renamed.messageNumber?]

theorem messagesOf (agentId : String) :
    other.messagesOf (rename agentId) = (plan.messagesOf agentId).map rename := by
  have bound : other.boundMessage? ∘ rename =
      fun behaviourId => (plan.boundMessage? behaviourId).map rename :=
    funext renamed.boundMessage?
  unfold Plan.messagesOf
  rw [renamed.relations.behavioursOf, List.filterMap_map, bound, ← List.map_filterMap]
  exact Relations.foldl_addOnce_map renamed.injective _ []

theorem behaviourStatements (agent : String) (place : Nat) (behaviourId : String) :
    other.behaviourStatements agent place (rename behaviourId) =
      plan.behaviourStatements agent place behaviourId := by
  have template : ((other.boundTemplate? (rename behaviourId)).map
      (other.templateVariable agent)) =
        (plan.boundTemplate? behaviourId).map (plan.templateVariable agent) := by
    rw [renamed.boundTemplate?, Option.map_map]
    congr 1
    funext templateId
    exact renamed.templateVariable agent templateId
  have message : ((other.boundMessage? (rename behaviourId)).map
      (other.messageVariable agent)) =
        (plan.boundMessage? behaviourId).map (plan.messageVariable agent) := by
    rw [renamed.boundMessage?, Option.map_map]
    congr 1
    funext messageId
    exact renamed.messageVariable agent messageId
  unfold Plan.behaviourStatements
  simp only [template, message, renamed.behaviourClass?]
  refine (renamed.payload? behaviourId).elim (fun _ => rfl) ?_
  rintro _ _ (_ | _) (_ | _) <;> rfl

theorem agentStatements (agentId : String) (identity : Identity) :
    other.agentStatements (rename agentId) identity = plan.agentStatements agentId identity := by
  unfold Plan.agentStatements
  simp only [renamed.relations.templatesOf, renamed.messagesOf, renamed.relations.behavioursOf,
    List.flatMap_map, List.zipIdx_map, renamed.templateStatements, renamed.messageStatements,
    Prod.map, renamed.behaviourStatements, id_eq]

theorem identified :
    other.identified = plan.identified.map fun (agentId, identity) => (rename agentId, identity) := by
  unfold Plan.identified
  rw [renamed.agents, List.filterMap_map, List.map_filterMap]
  congr 1
  funext node
  rw [Function.comp_apply, renamed.renames.id, renamed.relations.identity?, Option.map_map]
  rfl

theorem statements : other.statements = plan.statements := by
  have created : other.creation? ∘ change = plan.creation? := funext renamed.creation?
  unfold Plan.statements
  rw [renamed.agents, renamed.identified, List.isEmpty_map, List.filterMap_map, created,
    List.flatMap_map, List.map_map]
  simp only [renamed.agentStatements]
  rfl

theorem program : other.program = plan.program := by
  have imports : other.importText = plan.importText := by
    unfold Plan.importText
    rw [renamed.imports, renamed.settings]
  have sections : other.sections = plan.sections := by
    unfold Plan.sections Plan.startupText
    rw [imports, renamed.behaviourClassTexts, renamed.agentClassTexts, renamed.statements]
  unfold Plan.program Plan.mainText
  rw [renamed.settings, renamed.isEmpty, sections, renamed.reasoningDocuments]

end Renamed

end Plan

end AgentGraph
