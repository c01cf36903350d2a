import AgentGraph.Proofs.Program.Startup

/-!
What the variables of the main function are there for, apart from those of agents: a template
or a message for an agent, or what is attached to an agent at a place. The parts of a variable's
name can be read off its end, and no variable is there for two things.
-/

namespace AgentGraph

/-- What the word in a variable's name tells. -/
inductive HelperKind where
  | behaviour
  | envelope (kind : EnvelopeKind)
deriving DecidableEq

def HelperKind.word : HelperKind → String
  | .behaviour => "behaviour"
  | .envelope .template => "template"
  | .envelope .message => "message"

structure HelperName where
  agent : String
  kind : HelperKind
  number : Nat
deriving DecidableEq

def HelperName.text (name : HelperName) : String :=
  Plan.helper name.agent name.kind.word name.number

inductive Referent where
  | envelope (kind : EnvelopeKind) (agentId id : String)
  | attachment (agentId : String) (place : Nat)
deriving DecidableEq

def Referent.agentId : Referent → String
  | .envelope _ agentId _ | .attachment agentId _ => agentId

def EnvelopeKind.counts : EnvelopeKind → Payload → Bool
  | .template => Payload.isTemplate
  | .message => Payload.isMessage

namespace Statement

/-- The variables that a statement mentions, apart from those of agents. -/
def mentions : Statement → List String
  | .createEnvelope _ name | .setField name _ _ | .setMetadata name _ _ => [name]
  | .createBehaviour name _ arguments =>
      name :: arguments.filterMap fun
        | .template held => some held
        | .period _ | .startAt _ => none
  | .setMessage name held => [name, held]
  | .addBehaviour _ name => [name]
  | .createAgent .. | .startAgent _ | .await _ | .nothing => []

/-- The variable of the behaviour that a statement is about. -/
def behaviour? : Statement → Option String
  | .createBehaviour name _ _ | .setMessage name _ | .addBehaviour _ name => some name
  | .createEnvelope .. | .setField .. | .setMetadata .. | .createAgent .. | .startAgent _
  | .await _ | .nothing => none

theorem mem_mentions_cases {statement : Statement} {name : String}
    (part : statement.part = .behaviour) (inside : name ∈ statement.mentions) :
    statement.behaviour? = some name ∨ ∃ holder kind, statement.Passes holder kind name := by
  cases statement with
  | createBehaviour holder className arguments =>
      rcases List.mem_cons.mp inside with rfl | given
      · exact .inl rfl
      · obtain ⟨argument, held, same⟩ := List.mem_filterMap.mp given
        cases argument with
        | template other =>
            obtain rfl := Option.some.inj same
            exact .inr ⟨holder, .template, .template held holder className⟩
        | period | startAt => contradiction
  | setMessage holder held =>
      rcases List.mem_cons.mp inside with rfl | given
      · exact .inl rfl
      · obtain rfl := List.mem_singleton.mp given
        exact .inr ⟨holder, .message, .message holder _⟩
  | addBehaviour agent holder =>
      obtain rfl := List.mem_singleton.mp inside
      exact .inl rfl
  | createEnvelope | setField | setMetadata | createAgent | startAgent | await | nothing =>
      contradiction

theorem mem_mentions_of_behaviour? {statement : Statement} {name : String}
    (about : statement.behaviour? = some name) : name ∈ statement.mentions := by
  cases statement with
  | createBehaviour | setMessage | addBehaviour =>
      obtain rfl := Option.some.inj about
      exact List.mem_cons_self
  | createEnvelope | setField | setMetadata | createAgent | startAgent | await | nothing =>
      contradiction

theorem Passes.mem_mentions {statement : Statement} {holder held : String}
    {kind : EnvelopeKind} (passes : statement.Passes holder kind held) :
    held ∈ statement.mentions := by
  cases passes with
  | template inside =>
      exact List.mem_cons_of_mem _ (List.mem_filterMap.mpr ⟨.template held, inside, rfl⟩)
  | message => exact List.mem_cons_of_mem _ List.mem_cons_self

end Statement

theorem Envelope.mentions_of_mem_statements {envelope : Envelope} {kind : EnvelopeKind}
    {name : String} {statement : Statement} (inside : statement ∈ envelope.statements kind name) :
    statement.mentions = [name] := by
  obtain rfl | ⟨_, _, rfl⟩ | ⟨_, _, rfl⟩ := exists_of_mem_statements inside
  · rfl
  · rfl
  · rfl

theorem HelperKind.plain_word (kind : HelperKind) : '_' ∉ kind.word.toList := by
  rcases kind with _ | _ | _
  · decide
  · decide
  · decide

theorem HelperKind.word_injective : Function.Injective HelperKind.word := by
  have told : ∀ kind : HelperKind, kind =
      if kind.word = "behaviour" then .behaviour
      else if kind.word = "template" then .envelope .template
      else .envelope .message := by
    rintro (_ | _ | _)
    · rfl
    · rfl
    · rfl
  intro first second same
  rw [told first, told second, same]

theorem HelperName.text_injective : Function.Injective HelperName.text := by
  rintro ⟨agent, kind, number⟩ ⟨other, another, count⟩ same
  obtain ⟨rfl, words, rfl⟩ := Plan.helper_injective kind.plain_word another.plain_word same
  rw [HelperKind.word_injective words]

namespace Plan

/-- Whether the main function names the variable in a statement on the referent. -/
inductive Uses (plan : Plan) (name : String) : Referent → Prop where
  /-- A template or a message is made and filled. -/
  | makes {agentId : String} {identity : Identity} {kind : EnvelopeKind} {id : String}
      {statement : Statement} (known : (agentId, identity) ∈ plan.identified)
      (needed : id ∈ plan.envelopesOf kind agentId)
      (inside : statement ∈ plan.makingStatements kind identity.instanceName id)
      (named : name ∈ statement.mentions) :
      Uses plan name (.envelope kind agentId id)
  /-- A behaviour is given the template or the message that is tied to it. -/
  | passes {agentId : String} {identity : Identity} {place : Nat} {behaviourId : String}
      {kind : EnvelopeKind} {id holder : String} {statement : Statement}
      (known : (agentId, identity) ∈ plan.identified)
      (placed : (plan.relations.behavioursOf agentId)[place]? = some behaviourId)
      (tied : plan.tied? kind behaviourId = some id)
      (inside : statement ∈ plan.behaviourStatements identity.instanceName place behaviourId)
      (passed : statement.Passes holder kind name) :
      Uses plan name (.envelope kind agentId id)
  /-- A behaviour is made, given its message or attached. -/
  | attaches {agentId : String} {identity : Identity} {place : Nat} {behaviourId : String}
      {statement : Statement} (known : (agentId, identity) ∈ plan.identified)
      (placed : (plan.relations.behavioursOf agentId)[place]? = some behaviourId)
      (inside : statement ∈ plan.behaviourStatements identity.instanceName place behaviourId)
      (about : statement.behaviour? = some name) :
      Uses plan name (.attachment agentId place)

/-- Whether each variable that the main function names is there for something, and for one
thing only. -/
structure UsesApart (plan : Plan) : Prop where
  named : ∀ name, (∃ statement ∈ plan.statements, name ∈ statement.mentions) ↔
    ∃ referent, plan.Uses name referent
  apart : ∀ name first second, plan.Uses name first → plan.Uses name second → first = second

/-- The variable that is there for a referent, by the name of its agent. -/
def nameFor (plan : Plan) (agent : String) : Referent → String
  | .envelope kind _ id => plan.envelopeVariable kind agent id
  | .attachment _ place => behaviourVariable agent place

section Uses

variable {plan : Plan} {agent agentId behaviourId name : String} {identity : Identity}
  {kind : EnvelopeKind} {place : Nat} {statement : Statement}

theorem mentions_of_mem_makingStatements {id : String}
    (inside : statement ∈ plan.makingStatements kind agent id) :
    statement.mentions = [plan.envelopeVariable kind agent id] := by
  obtain ⟨_, inside⟩ := exists_of_mem_makingStatements inside
  exact Envelope.mentions_of_mem_statements inside

theorem behaviour?_of_mem_behaviourStatements
    (inside : statement ∈ plan.behaviourStatements agent place behaviourId) :
    statement.behaviour? = some (behaviourVariable agent place) := by
  obtain ⟨_, _, _, _, rfl | ⟨_, _, rfl⟩ | rfl⟩ := exists_of_mem_behaviourStatements inside
  · rfl
  · rfl
  · rfl

theorem uses_of_mem_behaviourStatements (known : (agentId, identity) ∈ plan.identified)
    (placed : (plan.relations.behavioursOf agentId)[place]? = some behaviourId)
    (inside : statement ∈ plan.behaviourStatements identity.instanceName place behaviourId)
    (named : name ∈ statement.mentions) : ∃ referent, plan.Uses name referent := by
  rcases Statement.mem_mentions_cases (part_of_mem_behaviourStatements inside) named with
    about | ⟨holder, kind, passed⟩
  · exact ⟨_, .attaches known placed inside about⟩
  · obtain ⟨_, id, tied, _⟩ := tied_of_passes inside passed
    exact ⟨_, .passes known placed tied inside passed⟩

theorem mem_statements_of_identified (known : (agentId, identity) ∈ plan.identified)
    (inside : statement ∈ plan.agentStatements agentId identity) :
    statement ∈ plan.statements := by
  obtain ⟨node, isAgent, _⟩ := List.mem_filterMap.mp known
  have some_agents : plan.agents.isEmpty = false :=
    List.isEmpty_eq_false_iff_exists_mem.mpr ⟨node, isAgent⟩
  rw [statements, some_agents]
  refine List.mem_append_left _ (List.mem_append_right _ ?_)
  exact List.mem_flatMap.mpr ⟨(agentId, identity), known, inside⟩

theorem exists_of_mem_mentions (inside : statement ∈ plan.statements)
    (named : name ∈ statement.mentions) :
    ∃ agentId identity, (agentId, identity) ∈ plan.identified ∧
      statement ∈ plan.agentStatements agentId identity := by
  unfold statements at inside
  split at inside
  · obtain rfl := List.mem_singleton.mp inside
    contradiction
  · rcases List.mem_append.mp inside with earlier | last
    · rcases List.mem_append.mp earlier with created | later
      · obtain ⟨_, _, created⟩ := List.mem_filterMap.mp created
        obtain ⟨_, _, _, _, _, _, rfl⟩ := createAgent_of_creation? created
        contradiction
      · obtain ⟨⟨agentId, identity⟩, known, inside⟩ := List.mem_flatMap.mp later
        exact ⟨agentId, identity, known, inside⟩
    · obtain rfl := List.mem_singleton.mp last
      contradiction

theorem exists_uses (inside : statement ∈ plan.statements) (named : name ∈ statement.mentions) :
    ∃ referent, plan.Uses name referent := by
  obtain ⟨agentId, identity, known, inside⟩ := exists_of_mem_mentions inside named
  rcases mem_agentStatements.mp inside with
    ⟨kind, id, needed, inside⟩ | ⟨place, behaviourId, placed, inside⟩ | rfl
  · exact ⟨_, .makes known needed inside named⟩
  · exact uses_of_mem_behaviourStatements known placed inside named
  · contradiction

theorem Uses.exists_statement {referent : Referent} (uses : plan.Uses name referent) :
    ∃ statement ∈ plan.statements, name ∈ statement.mentions := by
  cases uses with
  | makes known needed inside named =>
      have own := mem_agentStatements.mpr (.inl ⟨_, _, needed, inside⟩)
      exact ⟨_, mem_statements_of_identified known own, named⟩
  | passes known placed tied inside passed =>
      have own := mem_agentStatements.mpr (.inr (.inl ⟨_, _, placed, inside⟩))
      exact ⟨_, mem_statements_of_identified known own, passed.mem_mentions⟩
  | attaches known placed inside about =>
      have own := mem_agentStatements.mpr (.inr (.inl ⟨_, _, placed, inside⟩))
      exact ⟨_, mem_statements_of_identified known own,
        Statement.mem_mentions_of_behaviour? about⟩

theorem Uses.eq_nameFor {referent : Referent} (uses : plan.Uses name referent) :
    ∃ identity, (referent.agentId, identity) ∈ plan.identified ∧
      name = plan.nameFor identity.instanceName referent := by
  cases uses with
  | makes known needed inside named =>
      rw [mentions_of_mem_makingStatements inside] at named
      exact ⟨_, known, List.mem_singleton.mp named⟩
  | passes known placed tied inside passed =>
      obtain ⟨_, id, same, rfl⟩ := tied_of_passes inside passed
      rw [tied] at same
      obtain rfl := Option.some.inj same
      exact ⟨_, known, rfl⟩
  | attaches known placed inside about =>
      rw [behaviour?_of_mem_behaviourStatements inside] at about
      exact ⟨_, known, (Option.some.inj about).symm⟩

end Uses

variable {settings : Settings} {graph : Graph}

theorem mem_idsOf_of_tied {kind : EnvelopeKind} {behaviourId id : String}
    (tied : (ofGraph settings graph).tied? kind behaviourId = some id) :
    id ∈ idsOf kind.counts graph.nodes := by
  cases kind with
  | template =>
      exact template_mem_idsOf
        ((Relations.template?_build graph.nodes settings graph.edges behaviourId).symm.trans tied)
  | message =>
      exact message_mem_idsOf
        ((Relations.message?_build graph.nodes settings graph.edges behaviourId).symm.trans tied)

/-- Whether a template or a message is a node of the graph; places have no condition. -/
def IsListed (graph : Graph) : Referent → Prop
  | .envelope kind _ id => id ∈ idsOf kind.counts graph.nodes
  | .attachment _ _ => True

/-- The parts of the variable's name, with the number told from the graph. -/
def partsFor (graph : Graph) (agent : String) : Referent → HelperName
  | .envelope kind _ id =>
      ⟨agent, .envelope kind, (idsOf kind.counts graph.nodes).idxOf id + 1⟩
  | .attachment _ place => ⟨agent, .behaviour, place + 1⟩

theorem eq_of_partsFor_eq {agent other : String} {first second : Referent}
    (listed : IsListed graph first) (sameAgent : first.agentId = second.agentId)
    (same : partsFor graph agent first = partsFor graph other second) : first = second := by
  cases first with
  | envelope kind agentId id =>
      cases second with
      | envelope otherKind otherId another =>
          simp only [partsFor, HelperName.mk.injEq, HelperKind.envelope.injEq] at same
          obtain ⟨_, rfl, numbers⟩ := same
          obtain rfl := (List.idxOf_inj listed).mp (Nat.succ.inj numbers)
          obtain rfl : agentId = otherId := sameAgent
          rfl
      | attachment => simp [partsFor] at same
  | attachment agentId place =>
      cases second with
      | envelope => simp [partsFor] at same
      | attachment otherId count =>
          simp only [partsFor, HelperName.mk.injEq, true_and] at same
          obtain rfl := Nat.succ.inj same.2
          obtain rfl : agentId = otherId := sameAgent
          rfl

section Distinct

variable (distinct : (graph.nodes.map Node.id).Nodup)

include distinct

theorem Uses.isListed {name : String} {referent : Referent}
    (uses : (ofGraph settings graph).Uses name referent) : IsListed graph referent := by
  cases uses with
  | @makes agentId identity kind id statement known needed inside named =>
      cases kind with
      | template =>
          obtain ⟨_, _, bound⟩ := (mem_templatesOf settings).mp needed
          exact template_mem_idsOf bound
      | message =>
          obtain ⟨_, _, bound⟩ := (mem_messagesOf settings distinct).mp needed
          exact message_mem_idsOf bound
  | passes known placed tied inside passed => exact mem_idsOf_of_tied tied
  | attaches => trivial

theorem nameFor_eq_text (settings : Settings) {referent : Referent}
    (listed : IsListed graph referent) (agent : String) :
    (ofGraph settings graph).nameFor agent referent = (partsFor graph agent referent).text := by
  cases referent with
  | attachment => rfl
  | envelope kind agentId id =>
      have number := numbers_find? distinct listed
      cases kind with
      | template =>
          have counted : (ofGraph settings graph).templateNumbers.findD id 0 =
              (idsOf Payload.isTemplate graph.nodes).idxOf id + 1 :=
            congrArg (Option.getD · 0) number
          simp only [nameFor, envelopeVariable, templateVariable, counted]
          rfl
      | message =>
          have counted : (ofGraph settings graph).messageNumbers.findD id 0 =
              (idsOf Payload.isMessage graph.nodes).idxOf id + 1 :=
            congrArg (Option.getD · 0) number
          simp only [nameFor, envelopeVariable, messageVariable, counted]
          rfl

theorem eq_of_uses (valid : Naming.violations graph.nodes = []) {name : String}
    {first second : Referent} (uses : (ofGraph settings graph).Uses name first)
    (usesOther : (ofGraph settings graph).Uses name second) : first = second := by
  have rules := (Naming.violations_eq_nil_iff graph.nodes).mp valid
  obtain ⟨identity, known, named⟩ := uses.eq_nameFor
  obtain ⟨other, otherKnown, otherNamed⟩ := usesOther.eq_nameFor
  rw [nameFor_eq_text distinct settings (uses.isListed distinct)] at named
  rw [nameFor_eq_text distinct settings (usesOther.isListed distinct)] at otherNamed
  have parts := HelperName.text_injective (named.symm.trans otherNamed)
  have agents : identity.instanceName = other.instanceName := by
    cases first with
    | envelope | attachment =>
        cases second with
        | envelope | attachment => exact congrArg HelperName.agent parts
  have sameAgent := (identities_separates rules).1 _ _ _ _ (mem_identified.mp known)
    (mem_identified.mp otherKnown) agents
  exact eq_of_partsFor_eq (uses.isListed distinct) sameAgent parts

end Distinct

/-- The name of a variable tells its parts, and no variable is there for two things. -/
theorem usesApart_ofGraph :
    Function.Injective HelperName.text ∧
      ∀ (settings : Settings) (graph : Graph), (graph.nodes.map Node.id).Nodup →
        Naming.violations graph.nodes = [] → (ofGraph settings graph).UsesApart := by
  refine ⟨HelperName.text_injective, fun settings graph distinct valid => ⟨?_, ?_⟩⟩
  · intro name
    constructor
    · rintro ⟨statement, inside, named⟩
      exact exists_uses inside named
    · rintro ⟨referent, uses⟩
      exact uses.exists_statement
  · intro name first second uses usesOther
    exact eq_of_uses distinct valid uses usesOther

def echoes : Graph where
  nodes := [⟨"a", none, .agent { instanceName := "alice" }⟩,
    ⟨"b", none, .agent { instanceName := "alice_template" }⟩,
    ⟨"c", none, .behaviour {}⟩, ⟨"d", none, .behaviour {}⟩,
    ⟨"e", none, .template {}⟩, ⟨"f", none, .template {}⟩]
  edges := [{ id := "1", source := "a", target := "c", kind := .agentBehaviour },
    { id := "2", source := "a", target := "d", kind := .agentBehaviour },
    { id := "3", source := "b", target := "d", kind := .agentBehaviour },
    { id := "4", source := "c", target := "e", kind := .template },
    { id := "5", source := "d", target := "f", kind := .template }]

theorem usesApart_ofGraph_echoes :
    Function.Injective HelperName.text ∧ (echoes.nodes.map Node.id).Nodup ∧
      Naming.violations echoes.nodes = [] ∧ (ofGraph {} echoes).UsesApart ∧
      (ofGraph {} echoes).Uses "alice_template_template_2" (.envelope .template "b" "f") := by
  refine ⟨usesApart_ofGraph.1, by decide +kernel, by decide +kernel,
    usesApart_ofGraph.2 {} echoes (by decide +kernel) (by decide +kernel), ?_⟩
  have known : ("b", ⟨"alice_template", "MyAgent2", "alice_template@localhost"⟩) ∈
      (ofGraph {} echoes).identified := by
    decide +kernel
  have needed : "f" ∈ (ofGraph {} echoes).envelopesOf .template "b" := by decide +kernel
  have inside : Statement.createEnvelope .template "alice_template_template_2" ∈
      (ofGraph {} echoes).makingStatements .template "alice_template" "f" := by
    decide +kernel
  exact .makes known needed inside List.mem_cons_self

end Plan

end AgentGraph
