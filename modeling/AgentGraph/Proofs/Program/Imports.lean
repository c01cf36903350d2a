import AgentGraph.Proofs.Program.Covered
import AgentGraph.Proofs.Program.Names
import AgentGraph.Proofs.Program.Parts
import AgentGraph.Proofs.Relations.Ends

/-!
The imports of the program. They cover what the generator writes, each is there once, and
the module of dates is imported just where a behaviour is made with a start.
-/

namespace AgentGraph

open Fragment

/-- Whether a line of the program's text binds a name. -/
inductive BindsName : String → String → Prop where
  | module (name : String) : BindsName ("import " ++ name) name
  | member (module : String) {names : List String} {name : String} (inside : name ∈ names) :
      BindsName ("from " ++ module ++ " import " ++ ", ".intercalate names) name

namespace Import

theorem bindsName_text {found : Import} {name : String} (inside : name ∈ found.names) :
    BindsName found.text name := by
  cases found with
  | behaviours kinds => exact .member "spade.behaviour" inside
  | datetime =>
      obtain rfl := List.mem_singleton.mp inside
      exact .module "datetime"
  | framework =>
      obtain rfl := List.mem_singleton.mp inside
      exact .module "spade"
  | waiting => exact .member "spade" inside
  | agent => exact .member "spade.agent" inside
  | message => exact .member "spade.message" inside
  | template => exact .member "spade.template" inside
  | reasoningAgent => exact .member "spade_bdi.bdi" inside

theorem behaviours_take (kinds : List BehaviourKind) :
    (behaviours kinds).text.toList.take 13 = "from spade.be".toList := by
  have parts : (behaviours kinds).text.toList = "from spade.behaviour import ".toList ++
      (", ".intercalate (kinds.map BehaviourKind.className)).toList := String.toList_append ..
  rw [parts, List.take_append_of_le_length (by decide)]
  decide

theorem text_eq_datetime {found : Import} (same : found.text = "import datetime") :
    found = .datetime := by
  cases found with
  | datetime => rfl
  | behaviours kinds =>
      have heads := congrArg (fun line : String => line.toList.take 13) same
      simp only [behaviours_take] at heads
      exact absurd heads (by decide)
  | waiting | agent | message | template | reasoningAgent | framework =>
      exact absurd same (by decide)

variable {nodes : List Node}

theorem texts_nodup (nodes : List Node) : ((ofNodes nodes).map text).Nodup := by
  have all : ([waiting, agent, behaviours (behaviourKinds nodes), message, template,
      reasoningAgent, datetime, framework].map text).Nodup := by
    apply List.Nodup.of_map (fun line : String => line.toList.take 13)
    simp only [List.map_cons, List.map_nil, behaviours_take]
    decide
  exact all.sublist ((List.filter_sublist).map text)

theorem mem_ofNodes (found : Import) (single : ∀ kinds, found ≠ .behaviours kinds) :
    found ∈ ofNodes nodes ↔ isUsed nodes found = true := by
  rw [ofNodes, List.mem_filter]
  cases found with
  | behaviours kinds => exact absurd rfl (single kinds)
  | waiting | agent | message | template | reasoningAgent | datetime | framework => simp

theorem mem_behaviourKinds {node : Node} (inside : node ∈ nodes) {behaviour : Behaviour}
    (isBehaviour : node.payload.behaviour? = some behaviour) :
    behaviour.kind ∈ behaviourKinds nodes := by
  refine List.mem_filter.mpr ⟨?_, List.any_eq_true.mpr ⟨node, inside, ?_⟩⟩
  · cases behaviour.kind <;> decide
  · rw [isBehaviour, Option.any_some, beq_self_eq_true]

theorem behaviours_mem_ofNodes {node : Node} (inside : node ∈ nodes) {behaviour : Behaviour}
    (isBehaviour : node.payload.behaviour? = some behaviour) :
    behaviours (behaviourKinds nodes) ∈ ofNodes nodes := by
  refine List.mem_filter.mpr ⟨by simp, ?_⟩
  have kinds := List.ne_nil_of_mem (mem_behaviourKinds inside isBehaviour)
  simpa [isUsed] using kinds

theorem frameworkClass_mem_names {node : Node} (inside : node ∈ nodes)
    (isAgent : node.isAgent = true) :
    ∃ found ∈ ofNodes nodes, node.payload.frameworkClass ∈ found.names := by
  unfold Payload.frameworkClass
  split
  · next reasons =>
      refine ⟨.reasoningAgent, ?_, List.mem_singleton_self _⟩
      refine (mem_ofNodes .reasoningAgent (by simp)).mpr ?_
      exact List.any_eq_true.mpr ⟨node, inside, reasons⟩
  · next plain =>
      refine ⟨.agent, ?_, List.mem_singleton_self _⟩
      refine (mem_ofNodes .agent (by simp)).mpr ?_
      exact List.any_eq_true.mpr ⟨node, inside, by simp [isAgent, plain]⟩

end Import

namespace Behaviour

/-- The module of dates is needed just where a start is among the arguments. -/
theorem isDated_iff (behaviour : Behaviour) (template : Option String) :
    behaviour.isDated = true ↔ ∃ start, Argument.startAt start ∈ behaviour.arguments template := by
  unfold isDated arguments timing
  cases behaviour.kind with
  | periodic =>
      cases behaviour.start? <;> cases behaviour.validPeriod? <;> cases template <;> simp
  | timeout => cases behaviour.start? <;> cases template <;> simp
  | cyclic | oneShot | fsm => cases template <;> simp

end Behaviour

theorem Payload.behaviour?_eq_some_iff {payload : Payload} {behaviour : Behaviour} :
    payload.behaviour? = some behaviour ↔ payload = .behaviour behaviour := by
  cases payload <;> simp [Payload.behaviour?]

/-- Whether some behaviour of a graph is made with a start. -/
def HasStart (nodes : List Node) : Prop :=
  ∃ node ∈ nodes, ∃ behaviour, node.payload = .behaviour behaviour ∧
    ∃ template start, Argument.startAt start ∈ behaviour.arguments template

theorem Import.datetime_mem_ofNodes {nodes : List Node} :
    .datetime ∈ ofNodes nodes ↔ HasStart nodes := by
  rw [mem_ofNodes .datetime (by simp), isUsed, List.any_eq_true]
  constructor
  · rintro ⟨node, inside, used⟩
    obtain ⟨behaviour, isBehaviour, dated⟩ := (Option.any_eq_true _ _).mp used
    exact ⟨node, inside, behaviour, Payload.behaviour?_eq_some_iff.mp isBehaviour, none,
      (behaviour.isDated_iff none).mp dated⟩
  · rintro ⟨node, inside, behaviour, payload, template, starts⟩
    refine ⟨node, inside, (Option.any_eq_true _ _).mpr ⟨behaviour, ?_, ?_⟩⟩
    · exact Payload.behaviour?_eq_some_iff.mpr payload
    · exact (behaviour.isDated_iff template).mpr starts

theorem Envelope.name_of_needs (envelope : Envelope) {kind : EnvelopeKind} {given : String}
    {statement : Statement} (inside : statement ∈ envelope.statements kind given)
    {name : String} (needs : statement.Needs name) : name = kind.className := by
  simp only [statements, List.mem_append, List.mem_cons, List.not_mem_nil, or_false,
    List.mem_map] at inside
  rcases inside with (rfl | ⟨field, _, rfl⟩) | ⟨entry, _, rfl⟩
  · cases needs
    rfl
  · cases needs
  · cases needs

namespace Plan

variable {plan : Plan}

theorem payload?_mem {id : String} {payload : Payload} (found : plan.payload? id = some payload) :
    ∃ node ∈ plan.nodes, node.payload = payload := by
  obtain ⟨node, held, rfl⟩ := Option.map_eq_some_iff.mp found
  exact ⟨node, (Node.of_find? held).1, rfl⟩

/-- What a statement of the start-up takes from elsewhere is imported. -/
theorem Emits.binds {statement : Statement} (emits : plan.Emits statement) {name : String}
    (needs : statement.Needs name) :
    ∃ found ∈ Import.ofNodes plan.nodes, name ∈ found.names := by
  cases emits with
  | nothing same | start agent same =>
      subst same
      contradiction
  | creation node created =>
      obtain ⟨_, _, _, _, _, _, rfl⟩ := createAgent_of_creation? created
      contradiction
  | template agent id inside =>
      obtain ⟨envelope, found, inside⟩ := exists_of_mem_templateStatements inside
      obtain ⟨node, held, payload⟩ := payload?_mem found
      obtain rfl := envelope.name_of_needs inside needs
      refine ⟨.template, ?_, List.mem_singleton_self _⟩
      refine (Import.mem_ofNodes .template (by simp)).mpr ?_
      exact List.any_eq_true.mpr ⟨node, held, by rw [payload]; rfl⟩
  | message agent id inside =>
      obtain ⟨envelope, found, inside⟩ := exists_of_mem_messageStatements inside
      obtain ⟨node, held, payload⟩ := payload?_mem found
      obtain rfl := envelope.name_of_needs inside needs
      refine ⟨.message, ?_, List.mem_singleton_self _⟩
      refine (Import.mem_ofNodes .message (by simp)).mpr ?_
      exact List.any_eq_true.mpr ⟨node, held, by rw [payload]; rfl⟩
  | behaviour agent place id inside =>
      obtain ⟨behaviour, className, found, _, rfl | ⟨_, _, rfl⟩ | rfl⟩ :=
        exists_of_mem_behaviourStatements inside
      · obtain ⟨node, held, payload⟩ := payload?_mem found
        cases needs with
        | start starts =>
            refine ⟨.datetime, Import.datetime_mem_ofNodes.mpr ?_, List.mem_singleton_self _⟩
            exact ⟨node, held, behaviour, payload, _, _, starts⟩
      · contradiction
      · contradiction
  | await node agent names same =>
      subst same
      cases needs with
      | await =>
          obtain ⟨held, isAgent⟩ := List.mem_filter.mp agent
          refine ⟨.waiting, ?_, List.mem_singleton_self _⟩
          refine (Import.mem_ofNodes .waiting (by simp)).mpr ?_
          exact List.any_eq_true.mpr ⟨node, held, isAgent⟩

theorem behaviourFragments_isCovered :
    ∀ fragments ∈ plan.behaviourFragments, IsCovered (Import.ofNodes plan.nodes) fragments := by
  intro fragments inside
  obtain ⟨node, held, written⟩ := List.mem_filterMap.mp inside
  simp only [Option.bind_eq_bind, Option.bind_eq_some_iff] at written
  obtain ⟨behaviour, isBehaviour, className, _, same⟩ := written
  injection same with same
  subst same
  refine behaviour.classFragments_isCovered className ?_
  exact ⟨_, Import.behaviours_mem_ofNodes held isBehaviour,
    List.mem_map_of_mem (Import.mem_behaviourKinds held isBehaviour)⟩

theorem agentFragments_isCovered :
    ∀ fragments ∈ plan.agentFragments, IsCovered (Import.ofNodes plan.nodes) fragments := by
  intro fragments inside
  obtain ⟨heir, held, written⟩ := List.mem_filterMap.mp inside
  simp only [Option.bind_eq_bind, Option.bind_eq_some_iff] at written
  obtain ⟨shared, _, identity, _, same⟩ := written
  injection same with same
  subst same
  obtain ⟨inNodes, isAgent⟩ := mem_of_heirs held
  exact heir.node.payload.classFragments_isCovered shared identity.className _ _
    (Import.frameworkClass_mem_names inNodes isAgent)

theorem startupFragments_isCovered :
    IsCovered (Import.ofNodes plan.nodes) plan.startupFragments := by
  refine .joined (List.forall_mem_cons.mpr ⟨isCovered_nil.own (by decide), ?_⟩) (by decide)
  intro line inside
  obtain ⟨statement, held, rfl⟩ := List.mem_map.mp inside
  refine IsCovered.own (statement.fragments_isCovered fun name needs => ?_) (by decide)
  exact (emits_of_mem held).binds needs

theorem callFragments_isCovered : IsCovered (Import.ofNodes plan.nodes) callFragments := by
  have framework : .framework ∈ Import.ofNodes plan.nodes :=
    (Import.mem_ofNodes .framework (by simp)).mpr rfl
  exact isCovered_nil.bound ⟨.framework, framework, List.mem_singleton_self _⟩ (by decide)

def importLines (plan : Plan) : List String := (Import.ofNodes plan.nodes).map Import.text

/-- Whether the program's text imports what the generator writes into it, dates only where
one is written, and nothing twice. -/
structure ImportsWritten (plan : Plan) (content : String) : Prop where
  /-- The text begins with the lines of the imports, after a heading that the settings may
  ask for; the sections after them are put together from the fragments. -/
  text : ∃ heading sections, (heading = "" ∨ heading = headerText ++ "\n") ∧
    content = "\n\n\n".intercalate ((heading ++ "\n".intercalate plan.importLines) :: sections) ++
      "\n" ∧
    List.Forall₂ IsRendered plan.sectionFragments sections
  covered : ∀ fragments ∈ plan.sectionFragments, ∀ word ∈ Fragment.words fragments,
    word ∈ ownWords ∨ ∃ line ∈ plan.importLines, BindsName line word
  dated : "import datetime" ∈ plan.importLines ↔ HasStart plan.nodes
  once : plan.importLines.Nodup

theorem importText_eq (plan : Plan) :
    ∃ heading, (heading = "" ∨ heading = headerText ++ "\n") ∧
      plan.importText = heading ++ "\n".intercalate plan.importLines := by
  unfold importText importLines
  dsimp only
  split
  · exact ⟨_, .inr rfl, rfl⟩
  · exact ⟨"", .inl rfl, (String.empty_append).symm⟩

theorem datetime_mem_importLines :
    "import datetime" ∈ plan.importLines ↔ .datetime ∈ Import.ofNodes plan.nodes := by
  constructor
  · intro inside
    obtain ⟨found, held, same⟩ := List.mem_map.mp inside
    exact Import.text_eq_datetime same ▸ held
  · exact fun inside => List.mem_map.mpr ⟨.datetime, inside, rfl⟩

theorem importsWritten_mainText (some_nodes : plan.nodes ≠ []) :
    plan.ImportsWritten plan.mainText where
  text := by
    obtain ⟨texts, sections, rendered⟩ := plan.sectionFragments_rendered
    obtain ⟨heading, isHeading, headed⟩ := plan.importText_eq
    refine ⟨heading, texts, isHeading, ?_, rendered⟩
    rw [mainText, List.isEmpty_eq_false_iff.mpr some_nodes, sections, headed]
    rfl
  covered := by
    intro fragments inside word written
    have covered : IsCovered (Import.ofNodes plan.nodes) fragments := by
      simp only [sectionFragments, List.mem_append, List.mem_cons, List.not_mem_nil,
        or_false] at inside
      rcases inside with (behaviour | agent) | (rfl | rfl)
      · exact behaviourFragments_isCovered fragments behaviour
      · exact agentFragments_isCovered fragments agent
      · exact startupFragments_isCovered
      · exact callFragments_isCovered
    rcases covered word written with own | ⟨found, held, named⟩
    · exact .inl own
    · exact .inr ⟨found.text, List.mem_map_of_mem held, Import.bindsName_text named⟩
  dated := datetime_mem_importLines.trans Import.datetime_mem_ofNodes
  once := Import.texts_nodup plan.nodes

end Plan

/-- The program of a graph imports what the generator writes into it; none of the names that
imports are for counts as the generator's own. -/
theorem Program.importsWritten_generate {settings : Settings} {graph : Graph} {program : Program}
    (generated : Program.generate settings graph = .ok program) (some_nodes : graph.nodes ≠ []) :
    (Plan.ofGraph settings graph).ImportsWritten program.main.content ∧
      ∀ found : Import, ∀ name ∈ found.names, name ∉ ownWords := by
  have same : program = Program.ofGraph settings graph := by
    unfold Program.generate at generated
    split at generated
    · exact (Except.ok.inj generated).symm
    · contradiction
  subst same
  exact ⟨Plan.importsWritten_mainText some_nodes, fun _ _ => Import.not_mem_ownWords⟩

/-- Agents of both kinds, a behaviour that starts at a time, its template and its message. -/
def appointment : Graph where
  nodes := [⟨"a", none, .agent {}⟩, ⟨"b", none, .reasoning {}⟩,
    ⟨"c", none, .behaviour { kind := .timeout, startAt := some "2024-05-01T10:00:00" }⟩,
    ⟨"d", none, .template {}⟩, ⟨"e", none, .message {}⟩]
  edges := [{ id := "1", source := "a", target := "c", kind := .agentBehaviour },
    { id := "2", source := "c", target := "d", kind := .template },
    { id := "3", source := "c", target := "e", kind := .message }]

theorem Program.importsWritten_generate_appointment :
    ∃ program, Program.generate {} appointment = .ok program ∧ appointment.nodes ≠ [] ∧
      (Plan.ofGraph {} appointment).ImportsWritten program.main.content ∧
      ∀ found : Import, ∀ name ∈ found.names, name ∉ ownWords := by
  have valid : Naming.violations appointment.nodes = [] := by decide +kernel
  have generated : Program.generate {} appointment = .ok (Program.ofGraph {} appointment) := by
    rw [Program.generate, valid]
  have some_nodes : appointment.nodes ≠ [] := List.cons_ne_nil _ _
  exact ⟨_, generated, some_nodes, Program.importsWritten_generate generated some_nodes⟩

end AgentGraph
