import AgentGraph.Proofs.Node.RoundTrip
import AgentGraph.Proofs.Program.Change
import AgentGraph.Proofs.Text.Padded

/-!
What the generated program shows of a node. White space around names, classes and hosts
never reaches it, and neither do numbers that are not finite: a period and a delay count
only where they are finite.
-/

namespace AgentGraph

namespace Behaviour

variable (behaviour : Behaviour)

theorem validPeriod?_finite : behaviour.finite.validPeriod? = behaviour.validPeriod? := by
  unfold validPeriod? finite
  rw [Option.filter_filter]
  congr 1
  funext period
  cases period.isFinite <;> simp

theorem start?_finite : behaviour.finite.start? = behaviour.start? := by
  have delay : (behaviour.startOffset.filter Binary64.isFinite).bind validDelay? =
      behaviour.startOffset.bind validDelay? := by
    cases behaviour.startOffset with
    | none => rfl
    | some seconds =>
        cases finite : seconds.isFinite with
        | false => simp [Option.filter, finite, validDelay?]
        | true => simp [Option.filter, finite]
  unfold start? finite
  simp only [delay]

theorem timing_finite : behaviour.finite.timing = behaviour.timing := by
  unfold timing
  rw [validPeriod?_finite, start?_finite]
  rfl

theorem arguments_finite (template : Option String) :
    behaviour.finite.arguments template = behaviour.arguments template := by
  unfold arguments
  rw [timing_finite]

theorem isDated_finite : behaviour.finite.isDated = behaviour.isDated := by
  unfold isDated
  rw [start?_finite]
  rfl

theorem finite_finite : behaviour.finite.finite = behaviour.finite := by
  simp [finite, Option.filter_filter]

/-- The behaviour with what is shown of it: a trimmed class and finite numbers. -/
def shown : Behaviour := { behaviour.finite with className := Text.trim behaviour.className }

theorem arguments_shown (template : Option String) :
    behaviour.shown.arguments template = behaviour.arguments template :=
  behaviour.arguments_finite template

theorem isDated_shown : behaviour.shown.isDated = behaviour.isDated := behaviour.isDated_finite

end Behaviour

/-- The settings with what is shown of them: names and a host that are trimmed. -/
def AgentSettings.shown (agent : AgentSettings) : AgentSettings :=
  { agent with
    className := Text.trim agent.className
    instanceName := Text.trim agent.instanceName
    host := Text.trim agent.host }

theorem AgentSettings.shown_shown (agent : AgentSettings) : agent.shown.shown = agent.shown := by
  simp only [AgentSettings.shown, Text.trim_trim]

theorem Behaviour.shown_shown (behaviour : Behaviour) :
    behaviour.shown.shown = behaviour.shown := by
  simp [Behaviour.shown, Behaviour.finite, Option.filter_filter]

namespace Payload

def shown : Payload → Payload
  | .behaviour settings => .behaviour settings.shown
  | other => other.mapAgent AgentSettings.shown

theorem agent?_shown (payload : Payload) :
    payload.shown.agent? = payload.agent?.map AgentSettings.shown := by
  cases payload <;> rfl

theorem behaviour?_shown (payload : Payload) :
    payload.shown.behaviour? = payload.behaviour?.map Behaviour.shown := by
  cases payload <;> rfl

end Payload

def Node.shown (node : Node) : Node := { node with payload := node.payload.shown }

/-- A change of nodes that the generated program does not show. -/
structure Node.KeepsShown (change : Node → Node) : Prop where
  id : ∀ node, (change node).id = node.id
  role : ∀ node, (change node).payload.role = node.payload.role
  agent? : ∀ node, (change node).payload.agent?.map AgentSettings.shown =
    node.payload.agent?.map AgentSettings.shown
  behaviour? : ∀ node, (change node).payload.behaviour?.map Behaviour.shown =
    node.payload.behaviour?.map Behaviour.shown
  envelope : ∀ node, node.payload.role = .template ∨ node.payload.role = .message →
    (change node).payload = node.payload
  isReasoning : ∀ node, (change node).payload.isReasoning = node.payload.isReasoning
  program? : ∀ node, Plan.program? (change node).payload = Plan.program? node.payload
  classText : ∀ node, (change node).payload.classText = node.payload.classText

theorem Node.keepsShown_shown : Node.KeepsShown Node.shown where
  id _ := rfl
  role node := by
    rw [Node.shown]
    cases node.payload <;> simp only [Payload.shown, Payload.mapAgent, Payload.role]
  agent? node := by
    rw [Node.shown, Payload.agent?_shown, Option.map_map]
    exact congrArg (Option.map · _) (funext AgentSettings.shown_shown)
  behaviour? node := by
    rw [Node.shown, Payload.behaviour?_shown, Option.map_map]
    exact congrArg (Option.map · _) (funext Behaviour.shown_shown)
  envelope node role := by
    rw [Node.shown]
    cases payload : node.payload with
    | template | message => rfl
    | agent | reasoning | prompted | behaviour | note => simp [payload, Payload.role] at role
  isReasoning node := by
    rw [Node.shown]
    cases node.payload <;> simp only [Payload.shown, Payload.mapAgent, Payload.isReasoning]
  program? node := by
    rw [Node.shown]
    cases node.payload <;> simp only [Payload.shown, Payload.mapAgent, Plan.program?]
  classText node := by
    rw [Node.shown]
    cases node.payload <;> rfl

theorem Option.of_map_eq {α β : Type} {view : α → β} {first second : Option α}
    (same : first.map view = second.map view) :
    first = none ∧ second = none ∨
      ∃ value other, first = some value ∧ second = some other ∧ view value = view other := by
  cases first with
  | none =>
      cases second with
      | none => exact .inl ⟨rfl, rfl⟩
      | some other => contradiction
  | some value =>
      cases second with
      | none => contradiction
      | some other => exact .inr ⟨value, other, rfl, rfl, Option.some.inj same⟩

namespace AgentSettings

variable {agent other : AgentSettings}

theorem typed?_instanceName (same : other.shown = agent.shown) :
    Naming.typed? other.instanceName = Naming.typed? agent.instanceName :=
  Text.typed?_congr (congrArg AgentSettings.instanceName same)

theorem typed?_className (same : other.shown = agent.shown) :
    Naming.typed? other.className = Naming.typed? agent.className :=
  Text.typed?_congr (congrArg AgentSettings.className same)

theorem trimmedOr_host (same : other.shown = agent.shown) (fallback : String) :
    Text.trimmedOr other.host fallback = Text.trimmedOr agent.host fallback := by
  have host : Text.trim other.host = Text.trim agent.host := congrArg AgentSettings.host same
  rw [← Text.trimmedOr_trim, host, Text.trimmedOr_trim]

end AgentSettings

namespace Behaviour

variable {behaviour other : Behaviour}

theorem arguments_of_shown (same : other.shown = behaviour.shown) (template : Option String) :
    other.arguments template = behaviour.arguments template := by
  rw [← arguments_shown, same, arguments_shown]

theorem isDated_of_shown (same : other.shown = behaviour.shown) :
    other.isDated = behaviour.isDated := by
  rw [← isDated_shown, same, isDated_shown]

theorem classText_of_shown (same : other.shown = behaviour.shown) :
    other.classText = behaviour.classText :=
  (congrArg classText same :)

theorem kind_of_shown (same : other.shown = behaviour.shown) : other.kind = behaviour.kind :=
  (congrArg kind same :)

end Behaviour

namespace Node.KeepsShown

variable {change : Node → Node} (keeps : KeepsShown change)

include keeps

theorem keepsNames : Node.KeepsNames change where
  id := keeps.id
  role := keeps.role
  instanceName? node := by
    unfold Node.instanceName?
    rcases Option.of_map_eq (keeps.agent? node) with
      ⟨changed, given⟩ | ⟨other, agent, changed, given, same⟩
    · rw [changed, given]
    · rw [changed, given]
      exact AgentSettings.typed?_instanceName same
  agentClass? node := by
    unfold Node.agentClass?
    rcases Option.of_map_eq (keeps.agent? node) with
      ⟨changed, given⟩ | ⟨other, agent, changed, given, same⟩
    · rw [changed, given]
    · rw [changed, given]
      exact AgentSettings.typed?_className same
  behaviourClass? node := by
    unfold Node.behaviourClass?
    rcases Option.of_map_eq (keeps.behaviour? node) with
      ⟨changed, given⟩ | ⟨other, behaviour, changed, given, same⟩
    · rw [changed, given]
    · rw [changed, given]
      exact Text.typed?_congr (congrArg Behaviour.className same)

theorem resolveAgents (settings : Settings) (nodes : List Node) :
    ∀ (number : Nat) (names classes : List String),
      Relations.resolveAgents settings number names classes (nodes.map change) =
        Relations.resolveAgents settings number names classes nodes := by
  induction nodes with
  | nil => exact fun _ _ _ => rfl
  | cons node nodes ih =>
      intro number names classes
      rw [List.map_cons, Relations.resolveAgents, Relations.resolveAgents]
      rcases Option.of_map_eq (keeps.agent? node) with
        ⟨changed, given⟩ | ⟨other, agent, changed, given, same⟩
      · rw [changed, given]
        exact ih number names classes
      · have name := Naming.resolve_congr (AgentSettings.typed?_instanceName same)
        have className := Naming.resolve_congr (AgentSettings.typed?_className same)
        simp only [changed, given, name, className, AgentSettings.trimmedOr_host same,
          keeps.id, ih]

theorem relations (settings : Settings) (nodes : List Node) (edges : List Edge) :
    Relations.build settings (nodes.map change) edges =
      Relations.build settings nodes edges := by
  have identities : Relations.identitiesOf settings (nodes.map change) =
      Relations.identitiesOf settings nodes := by
    unfold Relations.identitiesOf
    rw [keeps.resolveAgents, keeps.keepsNames.instanceNames, keeps.keepsNames.allClasses]
  have start : Relations.ofNodes settings (nodes.map change) =
      Relations.ofNodes settings nodes := by
    unfold Relations.ofNodes
    rw [identities]
  have step : Relations.addEdge (nodes.map change) = Relations.addEdge nodes := by
    funext relations edge
    exact keeps.keepsNames.addEdge nodes relations edge
  unfold Relations.build
  rw [start, step]

theorem imports (nodes : List Node) : Import.ofNodes (nodes.map change) = Import.ofNodes nodes := by
  apply Import.ofNodes_change keeps.keepsNames keeps.isReasoning
  · intro node
    rcases Option.of_map_eq (keeps.behaviour? node) with
      ⟨changed, given⟩ | ⟨other, behaviour, changed, given, same⟩
    · rw [changed, given]
    · rw [changed, given]
      exact congrArg some (Behaviour.kind_of_shown same)
  · intro node
    rcases Option.of_map_eq (keeps.behaviour? node) with
      ⟨changed, given⟩ | ⟨other, behaviour, changed, given, same⟩
    · rw [changed, given]
    · rw [changed, given]
      exact Behaviour.isDated_of_shown same

end Node.KeepsShown

namespace Plan

def change (change : Node → Node) (plan : Plan) : Plan :=
  { plan with nodes := plan.nodes.map change }

variable {change : Node → Node} (keeps : Node.KeepsShown change)

include keeps

theorem build_change (settings : Settings) (nodes : List Node) (relations : Relations) :
    build settings (nodes.map change) relations =
      (build settings nodes relations).change change := by
  unfold build Plan.change
  rw [keeps.keepsNames.behaviourClasses, keeps.keepsNames.resolveBehaviours,
    keeps.keepsNames.numbers keeps.keepsNames.template,
    keeps.keepsNames.numbers keeps.keepsNames.message]

variable (plan : Plan)

theorem agents_change : (plan.change change).agents = plan.agents.map change :=
  keeps.keepsNames.agents plan.nodes

theorem payload?_change (id : String) :
    (plan.change change).payload? id =
      (Node.find? plan.nodes id).map fun node => (change node).payload := by
  unfold payload? Plan.change
  rw [keeps.keepsNames.find?, Option.map_map]
  rfl

theorem behaviourClassTexts_change :
    (plan.change change).behaviourClassTexts = plan.behaviourClassTexts := by
  unfold behaviourClassTexts Plan.change
  rw [List.filterMap_map]
  congr 1
  funext node
  rw [Function.comp_apply, keeps.id]
  rcases Option.of_map_eq (keeps.behaviour? node) with
    ⟨changed, given⟩ | ⟨other, behaviour, changed, given, same⟩
  · rw [changed, given]
  · simp only [changed, given, Option.bind_eq_bind, Option.bind_some,
      Behaviour.classText_of_shown same]

theorem agentClassTexts_change :
    (plan.change change).agentClassTexts = plan.agentClassTexts := by
  have heirs : (plan.change change).heirs = plan.heirs.map (Heir.change change) := by
    unfold heirs
    rw [agents_change keeps, List.length_map]
    exact keeps.keepsNames.inheritanceOrder rfl _ _ _
  unfold agentClassTexts
  rw [heirs, List.filterMap_map]
  congr 1
  funext heir
  simp only [Function.comp_apply, Heir.change, keeps.id, keeps.classText]
  rfl

theorem creation?_change (node : Node) :
    (plan.change change).creation? (change node) = plan.creation? node := by
  unfold creation? reasoningFile?
  rw [keeps.id, keeps.program?]
  rcases Option.of_map_eq (keeps.agent? node) with
    ⟨changed, given⟩ | ⟨other, agent, changed, given, same⟩
  · rw [changed, given]
    rfl
  · have password : other.password = agent.password := (congrArg AgentSettings.password same :)
    have port : other.port = agent.port := (congrArg AgentSettings.port same :)
    have security : other.verifySecurity = agent.verifySecurity :=
      (congrArg AgentSettings.verifySecurity same :)
    simp only [changed, given, Option.bind_eq_bind, Option.bind_some, password, port, security]
    rfl

theorem templateStatements_change :
    (plan.change change).templateStatements = plan.templateStatements := by
  funext agent templateId
  unfold templateStatements
  rw [payload?_change keeps, payload?]
  cases Node.find? plan.nodes templateId with
  | none => rfl
  | some node =>
      have role := keeps.role node
      simp only [Option.map_some]
      cases given : node.payload with
      | template envelope =>
          rw [keeps.envelope node (.inl (by rw [given, Payload.role])), given]
          rfl
      | agent | reasoning | prompted | behaviour | message | note =>
          cases changed : (change node).payload with
          | template => simp [changed, given, Payload.role] at role
          | agent | reasoning | prompted | behaviour | message | note => rfl

theorem messageStatements_change :
    (plan.change change).messageStatements = plan.messageStatements := by
  funext agent messageId
  unfold messageStatements
  rw [payload?_change keeps, payload?]
  cases Node.find? plan.nodes messageId with
  | none => rfl
  | some node =>
      have role := keeps.role node
      simp only [Option.map_some]
      cases given : node.payload with
      | message envelope =>
          rw [keeps.envelope node (.inr (by rw [given, Payload.role])), given]
          rfl
      | agent | reasoning | prompted | behaviour | template | note =>
          cases changed : (change node).payload with
          | message => simp [changed, given, Payload.role] at role
          | agent | reasoning | prompted | behaviour | template | note => rfl

theorem behaviourStatements_change :
    (plan.change change).behaviourStatements = plan.behaviourStatements := by
  have unfolded (held : Plan) (agent : String) (place : Nat) (behaviourId : String) :
      held.behaviourStatements agent place behaviourId =
        (((held.payload? behaviourId).bind Payload.behaviour?).elim [] fun behaviour =>
          (held.behaviourClasses.find? behaviourId).elim [] fun className =>
            let name := behaviourVariable agent place
            [.createBehaviour name className (behaviour.arguments
              ((held.boundTemplate? behaviourId).map (held.templateVariable agent)))] ++
            (((held.boundMessage? behaviourId).map (held.messageVariable agent)).map
              (Statement.setMessage name)).toList ++ [.addBehaviour agent name]) := by
    unfold behaviourStatements
    cases held.payload? behaviourId with
    | none => rfl
    | some payload =>
        cases payload with
        | behaviour => cases held.behaviourClasses.find? behaviourId <;> rfl
        | agent | reasoning | prompted | template | message | note => rfl
  funext agent place behaviourId
  rw [unfolded, unfolded, payload?_change keeps, payload?]
  cases Node.find? plan.nodes behaviourId with
  | none => rfl
  | some node =>
      simp only [Option.map_some, Option.bind_some]
      rcases Option.of_map_eq (keeps.behaviour? node) with
        ⟨changed, given⟩ | ⟨other, behaviour, changed, given, same⟩
      · rw [changed, given]
        rfl
      · simp only [changed, given, Option.elim_some, Behaviour.arguments_of_shown same]
        rfl

theorem identified_change : (plan.change change).identified = plan.identified := by
  unfold identified
  rw [agents_change keeps, List.filterMap_map]
  congr 1
  funext node
  rw [Function.comp_apply, keeps.id]
  rfl

theorem statements_change : (plan.change change).statements = plan.statements := by
  have created : (plan.change change).creation? ∘ change = plan.creation? :=
    funext (creation?_change keeps plan)
  have agentStatements : (plan.change change).agentStatements = plan.agentStatements := by
    funext agentId identity
    unfold agentStatements
    rw [templateStatements_change keeps, messageStatements_change keeps,
      behaviourStatements_change keeps]
    rfl
  unfold statements
  rw [identified_change keeps, agentStatements, agents_change keeps, List.filterMap_map, created,
    List.isEmpty_map]

theorem mainText_change : (plan.change change).mainText = plan.mainText := by
  have imports : (plan.change change).importText = plan.importText := by
    unfold importText Plan.change
    rw [keeps.imports]
  have sections : (plan.change change).sections = plan.sections := by
    unfold sections startupText
    rw [imports, behaviourClassTexts_change keeps, agentClassTexts_change keeps,
      statements_change keeps]
  unfold mainText
  rw [sections, Plan.change, List.isEmpty_map]

theorem program_change : (plan.change change).program = plan.program := by
  have documents : (plan.change change).nodes.filterMap (plan.change change).reasoningDocument? =
      plan.nodes.filterMap plan.reasoningDocument? := by
    rw [Plan.change, List.filterMap_map]
    congr 1
    funext node
    rw [Function.comp_apply, reasoningDocument?, keeps.program?, keeps.id]
    rfl
  unfold program
  rw [mainText_change keeps, documents]
  rfl

end Plan

def Graph.change (change : Node → Node) (graph : Graph) : Graph :=
  { graph with nodes := graph.nodes.map change }

/-- A change that is not shown changes neither the program nor the violations. -/
theorem Program.generate_change {change : Node → Node} (keeps : Node.KeepsShown change)
    (settings : Settings) (graph : Graph) :
    Program.generate settings (graph.change change) = Program.generate settings graph := by
  unfold Program.generate Program.ofGraph Graph.change
  rw [keeps.keepsNames.violations, keeps.relations, Plan.build_change keeps,
    Plan.program_change keeps]

def Graph.shown (graph : Graph) : Graph :=
  { graph with nodes := graph.nodes.map Node.shown }

/-- The program and the violations depend on what is shown of the nodes. -/
theorem Program.generate_shown (settings : Settings) (graph : Graph) :
    Program.generate settings graph.shown = Program.generate settings graph :=
  generate_change Node.keepsShown_shown settings graph

def Graph.finite (graph : Graph) : Graph :=
  { graph with nodes := graph.nodes.map Node.finite }

theorem Node.shown_finite (node : Node) : node.finite.shown = node.shown := by
  obtain ⟨id, position, payload⟩ := node
  cases payload with
  | behaviour behaviour =>
      simp only [Node.shown, Node.finite, Payload.shown, Payload.finite, Behaviour.shown,
        Behaviour.finite_finite]
      rfl
  | agent | reasoning | prompted | template | message | note => rfl

/-- Leaving out the numbers that are not finite changes neither the program nor the
violations. -/
theorem Program.generate_finite (settings : Settings) (graph : Graph) :
    Program.generate settings graph.finite = Program.generate settings graph := by
  have same : graph.finite.shown = graph.shown := by
    unfold Graph.shown Graph.finite
    rw [List.map_map]
    congr 2
    funext node
    exact node.shown_finite
  rw [← generate_shown, same, generate_shown]

end AgentGraph
