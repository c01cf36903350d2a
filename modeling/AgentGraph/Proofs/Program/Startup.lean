import AgentGraph.Proofs.Program.HelperNames
import AgentGraph.Proofs.Program.Parts
import Mathlib.Data.List.Forall2

/-!
The statements of an agent's section in the start-up. The templates and the messages that the
graph ties to its behaviours are made first, each once; then the behaviours are made, given them
and attached, in their order.
-/

namespace AgentGraph

namespace Statement

/-- Whether the statement gives the behaviour `name` the template or the message `held`. -/
inductive Passes : Statement → (name : String) → EnvelopeKind → (held : String) → Prop where
  | template {arguments : List Argument} {held : String} (inside : .template held ∈ arguments)
      (name className : String) :
      Passes (.createBehaviour name className arguments) name .template held
  | message (name held : String) : Passes (.setMessage name held) name .message held

end Statement

def EnvelopeKind.payload : EnvelopeKind → Envelope → Payload
  | .template => .template
  | .message => .message

namespace Plan

/-- The template or the message that the graph ties to a behaviour. -/
def tied? (plan : Plan) : EnvelopeKind → (behaviourId : String) → Option String
  | .template => plan.relations.template?
  | .message => plan.relations.message?

def envelopeVariable (plan : Plan) : EnvelopeKind → (agent id : String) → String
  | .template => plan.templateVariable
  | .message => plan.messageVariable

/-- The templates or the messages that an agent's section makes. -/
def envelopesOf (plan : Plan) : EnvelopeKind → (agentId : String) → List String
  | .template => plan.relations.templatesOf
  | .message => plan.messagesOf

/-- The statements that make a template or a message. -/
def makingStatements (plan : Plan) : EnvelopeKind → (agent id : String) → List Statement
  | .template => plan.templateStatements
  | .message => plan.messageStatements

end Plan

theorem Behaviour.mem_arguments_template {behaviour : Behaviour} {template : Option String}
    {name : String} :
    .template name ∈ behaviour.arguments template ↔ template = some name := by
  unfold arguments timing
  cases behaviour.kind with
  | periodic =>
      cases behaviour.start? <;> cases behaviour.validPeriod? <;> cases template <;> simp [eq_comm]
  | timeout => cases behaviour.start? <;> cases template <;> simp [eq_comm]
  | cyclic | oneShot | fsm => cases template <;> simp [eq_comm]

theorem forall₂_filterMap_of_forall {α β : Type} {related : α → β → Prop} {f : α → Option β}
    {xs : List α} (each : ∀ x ∈ xs, ∃ y, f x = some y ∧ related x y) :
    List.Forall₂ related xs (xs.filterMap f) := by
  induction xs with
  | nil => exact .nil
  | cons x xs ih =>
      obtain ⟨y, image, holds⟩ := each x List.mem_cons_self
      rw [List.filterMap_cons_some image]
      exact .cons holds (ih fun x later => each x (List.mem_cons_of_mem _ later))

namespace Plan

section Parts

variable {plan : Plan} {agent : String} {statement : Statement}

/-- The statements of an agent's section that come before those on its behaviours. -/
def envelopeStatements (plan : Plan) (agentId agent : String) : List Statement :=
  (plan.relations.templatesOf agentId).flatMap (plan.templateStatements agent) ++
    (plan.messagesOf agentId).flatMap (plan.messageStatements agent)

def attachStatements (plan : Plan) (agentId agent : String) : List Statement :=
  (plan.relations.behavioursOf agentId).zipIdx.flatMap fun (behaviourId, place) =>
    plan.behaviourStatements agent place behaviourId

theorem agentStatements_eq (plan : Plan) (agentId : String) (identity : Identity) :
    plan.agentStatements agentId identity =
      plan.envelopeStatements agentId identity.instanceName ++
        plan.attachStatements agentId identity.instanceName ++
        [.startAgent identity.instanceName] := rfl

/-- What the section of an agent makes for its behaviours, in this order. -/
def needed (plan : Plan) (agentId : String) : List (EnvelopeKind × String) :=
  (plan.envelopesOf .template agentId).map (.template, ·) ++
    (plan.envelopesOf .message agentId).map (.message, ·)

theorem mem_needed {agentId id : String} {kind : EnvelopeKind} :
    (kind, id) ∈ plan.needed agentId ↔ id ∈ plan.envelopesOf kind agentId := by
  cases kind <;> simp [needed]

theorem envelopeStatements_eq (plan : Plan) (agentId agent : String) :
    plan.envelopeStatements agentId agent =
      (plan.needed agentId).flatMap fun (kind, id) => plan.makingStatements kind agent id := by
  rw [needed, List.flatMap_append, List.flatMap_map, List.flatMap_map]
  rfl

theorem part_of_mem_envelopeStatements {agentId : String}
    (inside : statement ∈ plan.envelopeStatements agentId agent) :
    statement.part = .envelope := by
  rcases List.mem_append.mp inside with template | message
  · obtain ⟨_, _, inside⟩ := List.mem_flatMap.mp template
    exact part_of_mem_templateStatements inside
  · obtain ⟨_, _, inside⟩ := List.mem_flatMap.mp message
    exact part_of_mem_messageStatements inside

theorem part_of_mem_attachStatements {agentId : String}
    (inside : statement ∈ plan.attachStatements agentId agent) :
    statement.part = .behaviour := by
  obtain ⟨_, _, inside⟩ := List.mem_flatMap.mp inside
  exact part_of_mem_behaviourStatements inside

theorem exists_of_mem_makingStatements {kind : EnvelopeKind} {id : String}
    (inside : statement ∈ plan.makingStatements kind agent id) :
    ∃ envelope : Envelope, statement ∈ envelope.statements kind
      (plan.envelopeVariable kind agent id) := by
  cases kind with
  | template =>
      obtain ⟨envelope, _, inside⟩ := exists_of_mem_templateStatements inside
      exact ⟨envelope, inside⟩
  | message =>
      obtain ⟨envelope, _, inside⟩ := exists_of_mem_messageStatements inside
      exact ⟨envelope, inside⟩

theorem mem_agentStatements {agentId : String} {identity : Identity} :
    statement ∈ plan.agentStatements agentId identity ↔
      (∃ kind, ∃ id ∈ plan.envelopesOf kind agentId,
        statement ∈ plan.makingStatements kind identity.instanceName id) ∨
      (∃ place behaviourId, (plan.relations.behavioursOf agentId)[place]? = some behaviourId ∧
        statement ∈ plan.behaviourStatements identity.instanceName place behaviourId) ∨
      statement = .startAgent identity.instanceName := by
  rw [agentStatements_eq, List.mem_append, List.mem_append, List.mem_singleton, or_assoc]
  refine or_congr ?_ (or_congr ?_ Iff.rfl)
  · rw [envelopeStatements, List.mem_append, List.mem_flatMap, List.mem_flatMap]
    constructor
    · rintro (template | message)
      · exact ⟨.template, template⟩
      · exact ⟨.message, message⟩
    · rintro ⟨_ | _, held⟩
      · exact .inl held
      · exact .inr held
  · rw [attachStatements, List.mem_flatMap]
    constructor
    · rintro ⟨⟨behaviourId, place⟩, entry, inside⟩
      exact ⟨place, behaviourId, List.mk_mem_zipIdx_iff_getElem?.mp entry, inside⟩
    · rintro ⟨place, behaviourId, placed, inside⟩
      exact ⟨(behaviourId, place), List.mk_mem_zipIdx_iff_getElem?.mpr placed, inside⟩

/-- What is passed to a behaviour is tied to it. -/
theorem tied_of_passes {place : Nat} {behaviourId name held : String} {kind : EnvelopeKind}
    (inside : statement ∈ plan.behaviourStatements agent place behaviourId)
    (passes : statement.Passes name kind held) :
    name = behaviourVariable agent place ∧
      ∃ id, plan.tied? kind behaviourId = some id ∧
        held = plan.envelopeVariable kind agent id := by
  obtain ⟨_, _, _, _, rfl | ⟨id, bound, rfl⟩ | rfl⟩ := exists_of_mem_behaviourStatements inside
  · cases passes with
    | template given =>
        obtain ⟨id, bound, rfl⟩ :=
          Option.map_eq_some_iff.mp (Behaviour.mem_arguments_template.mp given)
        exact ⟨rfl, id, (Option.filter_eq_some_iff.mp bound).1, rfl⟩
  · cases passes with
    | message => exact ⟨rfl, id, (Option.filter_eq_some_iff.mp bound).1, rfl⟩
  · nomatch passes

end Parts

variable {settings : Settings} {graph : Graph}

theorem nodup_needed (settings : Settings) (graph : Graph) (agentId : String) :
    ((ofGraph settings graph).needed agentId).Nodup := by
  have templates : ((ofGraph settings graph).envelopesOf .template agentId).Nodup := by
    have read := Relations.templatesOf_build graph.nodes settings graph.edges agentId
    rw [envelopesOf, ofGraph, build, read]
    exact Relations.nodup_foldl_addOnce _ _ List.nodup_nil
  have messages : ((ofGraph settings graph).envelopesOf .message agentId).Nodup :=
    Relations.nodup_foldl_addOnce _ _ List.nodup_nil
  refine List.nodup_append.mpr ⟨templates.map (Prod.mk_right_injective _),
    messages.map (Prod.mk_right_injective _), ?_⟩
  intro first inFirst second inSecond
  obtain ⟨_, _, rfl⟩ := List.mem_map.mp inFirst
  obtain ⟨_, _, rfl⟩ := List.mem_map.mp inSecond
  simp

section Distinct

variable (settings) (distinct : (graph.nodes.map Node.id).Nodup)

include distinct

theorem boundMessage?_eq_tied? (behaviourId : String) :
    (ofGraph settings graph).boundMessage? behaviourId =
      (ofGraph settings graph).tied? .message behaviourId := by
  rw [boundMessage?_ofGraph settings distinct]
  exact (Relations.message?_build graph.nodes settings graph.edges behaviourId).symm

theorem boundTemplate?_eq_tied? (behaviourId : String) :
    (ofGraph settings graph).boundTemplate? behaviourId =
      (ofGraph settings graph).tied? .template behaviourId := by
  rw [boundTemplate?_ofGraph settings distinct]
  exact (Relations.template?_build graph.nodes settings graph.edges behaviourId).symm

/-- An agent's section makes what is tied to one of the agent's behaviours. -/
theorem mem_needed_iff {agentId id : String} {kind : EnvelopeKind} :
    (kind, id) ∈ (ofGraph settings graph).needed agentId ↔
      ∃ behaviourId ∈ (ofGraph settings graph).relations.behavioursOf agentId,
        (ofGraph settings graph).tied? kind behaviourId = some id := by
  rw [mem_needed, behavioursOf_ofGraph]
  cases kind with
  | template =>
      refine (mem_templatesOf settings).trans ?_
      simp only [← boundTemplate?_eq_tied? settings distinct,
        boundTemplate?_ofGraph settings distinct]
  | message =>
      refine (mem_messagesOf settings distinct).trans ?_
      simp only [← boundMessage?_eq_tied? settings distinct,
        boundMessage?_ofGraph settings distinct]

/-- What is needed is made from its node. -/
theorem makingStatements_of_mem {agentId id : String} {kind : EnvelopeKind}
    (inside : (kind, id) ∈ (ofGraph settings graph).needed agentId) (agent : String) :
    ∃ envelope, (ofGraph settings graph).payload? id = some (kind.payload envelope) ∧
      (ofGraph settings graph).makingStatements kind agent id =
        envelope.statements kind ((ofGraph settings graph).envelopeVariable kind agent id) := by
  rw [mem_needed] at inside
  cases kind with
  | template =>
      obtain ⟨_, _, bound⟩ := (mem_templatesOf settings).mp inside
      obtain ⟨payload, found, isTemplate⟩ :=
        payload?_of_mem_idsOf settings distinct (template_mem_idsOf bound)
      cases payload with
      | template envelope =>
          refine ⟨envelope, found, ?_⟩
          rw [makingStatements, templateStatements, found]
          rfl
      | agent | reasoning | prompted | behaviour | message | note => contradiction
  | message =>
      obtain ⟨_, _, bound⟩ := (mem_messagesOf settings distinct).mp inside
      obtain ⟨payload, found, isMessage⟩ :=
        payload?_of_mem_idsOf settings distinct (message_mem_idsOf bound)
      cases payload with
      | message envelope =>
          refine ⟨envelope, found, ?_⟩
          rw [makingStatements, messageStatements, found]
          rfl
      | agent | reasoning | prompted | behaviour | template | note => contradiction

/-- A behaviour is made of its own class with the template that is tied to it, given the message
that is, and attached. -/
theorem behaviourStatements_of_attached {agentId behaviourId : String}
    (attached : behaviourId ∈ (ofGraph settings graph).relations.behavioursOf agentId)
    (agent : String) (place : Nat) :
    ∃ behaviour className,
      (ofGraph settings graph).payload? behaviourId = some (.behaviour behaviour) ∧
      (ofGraph settings graph).behaviourClasses.find? behaviourId = some className ∧
      (ofGraph settings graph).behaviourStatements agent place behaviourId =
        [.createBehaviour (behaviourVariable agent place) className (behaviour.arguments
          (((ofGraph settings graph).tied? .template behaviourId).map
            ((ofGraph settings graph).envelopeVariable .template agent)))] ++
        (((ofGraph settings graph).tied? .message behaviourId).map fun id =>
          Statement.setMessage (behaviourVariable agent place)
            ((ofGraph settings graph).envelopeVariable .message agent id)).toList ++
        [.addBehaviour agent (behaviourVariable agent place)] := by
  rw [behavioursOf_ofGraph] at attached
  obtain ⟨_, node, _, rfl, joins⟩ := Relations.joins_of_attached attached
  have isBehaviour := (Bool.and_eq_true_iff.mp joins.fits).2
  obtain ⟨className, named, _⟩ :=
    behaviourClass_of_mem settings distinct joins.targetInside isBehaviour
  have found := payload?_of_mem settings distinct joins.targetInside
  cases payload : node.payload with
  | behaviour behaviour =>
      rw [payload] at found
      refine ⟨behaviour, className, found, named, ?_⟩
      simp only [behaviourStatements, found, named, boundTemplate?_eq_tied? settings distinct,
        boundMessage?_eq_tied? settings distinct, Option.map_map]
      rfl
  | agent | reasoning | prompted | template | message | note =>
      rw [payload] at isBehaviour
      contradiction

theorem exists_of_mem_agents {node : Node} (inside : node ∈ (ofGraph settings graph).agents) :
    ∃ identity, (ofGraph settings graph).relations.identity? node.id = some identity := by
  obtain ⟨held, isAgent⟩ := List.mem_filter.mp inside
  obtain ⟨identity, found, _⟩ := identity?_of_mem settings distinct held isAgent
  exact ⟨identity, found⟩

theorem forall₂_identified {β : Type} (f : String × Identity → β) :
    List.Forall₂ (fun node y => ∃ identity,
      (ofGraph settings graph).relations.identity? node.id = some identity ∧
        y = f (node.id, identity))
      (ofGraph settings graph).agents ((ofGraph settings graph).identified.map f) := by
  rw [identified, List.map_filterMap]
  refine forall₂_filterMap_of_forall fun node inside => ?_
  obtain ⟨identity, found⟩ := exists_of_mem_agents settings distinct inside
  rw [found]
  exact ⟨_, rfl, identity, rfl, rfl⟩

end Distinct

end Plan

end AgentGraph
