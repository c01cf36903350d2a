import AgentGraph.Proofs.Program.Names
import AgentGraph.Proofs.Program.Parts
import AgentGraph.Proofs.Relations.Ends

/-!
The variables that the main function binds to templates, messages and behaviours. Their
names are put together from an agent's name, a word and a number, so that none of them is
a made-up name; but a typed name may be one of them.
-/

namespace AgentGraph

theorem Dict.size_insert_of_new {α : Type} {dict : Dict α} {key : String} (value : α)
    (new : dict.find? key = none) : (dict.insert key value).size = dict.size + 1 := by
  have listed : ∀ entries : List (String × α), entries.lookup key = none →
      (insertEntry key value entries).length = entries.length + 1 := by
    intro entries
    induction entries with
    | nil => exact fun _ => rfl
    | cons head rest ih =>
        intro new
        obtain ⟨other, held⟩ := head
        simp only [List.lookup_cons] at new
        cases same : key == other with
        | true => simp [same] at new
        | false =>
            rw [same] at new
            simp only [insertEntry, if_neg (beq_eq_false_iff_ne.mp same)]
            split
            · rfl
            · rw [List.length_cons, ih new, List.length_cons]
  exact listed dict.entries new

open Naming

/-- The variable that the statement binds to a template, a message or a behaviour. -/
def Statement.helper? : Statement → Option String
  | .createEnvelope _ name => some name
  | .createBehaviour name _ _ => some name
  | _ => none

theorem Envelope.statements_helpers (envelope : Envelope) (kind : EnvelopeKind) (name : String) :
    (envelope.statements kind name).filterMap Statement.helper? = [name] := by
  have fields (fields : List EnvelopeField) :
      (fields.map fun field => Statement.setField name field (envelope.field field)).filterMap
        Statement.helper? = [] :=
    List.filterMap_eq_nil_iff.mpr fun statement inside => by
      obtain ⟨field, _, rfl⟩ := List.mem_map.mp inside
      rfl
  have metadata (entries : List (String × Json)) :
      (entries.map fun entry => Statement.setMetadata name entry.1 entry.2).filterMap
        Statement.helper? = [] :=
    List.filterMap_eq_nil_iff.mpr fun statement inside => by
      obtain ⟨entry, _, rfl⟩ := List.mem_map.mp inside
      rfl
  rw [statements, List.filterMap_append, List.filterMap_append, fields, metadata]
  rfl

namespace Plan

def idsOf (isCounted : Payload → Bool) (nodes : List Node) : List String :=
  (nodes.filter fun node => isCounted node.payload).map Node.id

private def enumerate (ids : List String) : Dict Nat :=
  ids.foldl (fun found id => found.insert id (found.size + 1)) Dict.empty

private theorem enumerate_find? {ids : List String} (distinct : ids.Nodup) :
    (enumerate ids).size = ids.length ∧
      ∀ id, (enumerate ids).find? id =
        if id ∈ ids then some (ids.idxOf id + 1) else none := by
  induction ids using List.reverseRecOn with
  | nil => exact ⟨rfl, fun _ => rfl⟩
  | append_singleton ids last ih =>
      obtain ⟨front, _, apart⟩ := List.nodup_append.mp distinct
      obtain ⟨size, found⟩ := ih front
      have notInside : last ∉ ids :=
        fun inside => apart last inside last List.mem_cons_self rfl
      have new : (enumerate ids).find? last = none := by rw [found, if_neg notInside]
      have step : enumerate (ids ++ [last]) =
          (enumerate ids).insert last ((enumerate ids).size + 1) := by
        rw [enumerate, List.foldl_append]
        rfl
      rw [step]
      constructor
      · rw [Dict.size_insert_of_new _ new, size, List.length_append, List.length_singleton]
      · intro id
        by_cases same : id = last
        · subst same
          rw [Dict.find?_insert_self, if_pos (List.mem_append_right _ List.mem_cons_self),
            List.idxOf_append_of_notMem notInside, size]
          simp
        · rw [Dict.find?_insert_of_ne _ _ same, found]
          by_cases inside : id ∈ ids
          · rw [if_pos inside, if_pos (List.mem_append_left _ inside),
              List.idxOf_append_of_mem inside]
          · have outside : id ∉ ids ++ [last] := by simp [inside, same]
            rw [if_neg inside, if_neg outside]

variable {settings : Settings} {graph : Graph}

/-- Nodes of one kind are numbered in their order, from one. -/
theorem numbers_find? {nodes : List Node} (distinct : (nodes.map Node.id).Nodup)
    {isCounted : Payload → Bool} {id : String} (counted : id ∈ idsOf isCounted nodes) :
    (numbers isCounted nodes).find? id = some ((idsOf isCounted nodes).idxOf id + 1) := by
  have ids : (idsOf isCounted nodes).Nodup :=
    distinct.sublist ((List.filter_sublist).map Node.id)
  have same : numbers isCounted nodes = enumerate (idsOf isCounted nodes) := by
    rw [enumerate, idsOf, List.foldl_map]
    rfl
  rw [same, (enumerate_find? ids).2, if_pos counted]

/-- The variables that the main function binds to templates, messages and behaviours. -/
def helpers (plan : Plan) : List String := plan.statements.filterMap Statement.helper?

/-- The variables for an agent called `agent`: one for each of its behaviours, and one for
each template and message that one of them is tied to. -/
inductive IsHelper (graph : Graph) (agentId agent : String) : String → Prop where
  | template {behaviourId templateId : String}
      (attached : behaviourId ∈ Relations.attached graph.nodes graph.edges agentId)
      (bound : Relations.lastTarget? graph.nodes .template graph.edges behaviourId =
        some templateId) :
      IsHelper graph agentId agent
        (helper agent "template" ((idsOf Payload.isTemplate graph.nodes).idxOf templateId + 1))
  | message {behaviourId messageId : String}
      (attached : behaviourId ∈ Relations.attached graph.nodes graph.edges agentId)
      (bound : Relations.lastTarget? graph.nodes .message graph.edges behaviourId =
        some messageId) :
      IsHelper graph agentId agent
        (helper agent "message" ((idsOf Payload.isMessage graph.nodes).idxOf messageId + 1))
  | behaviour {place : Nat}
      (attached : place < (Relations.attached graph.nodes graph.edges agentId).length) :
      IsHelper graph agentId agent (helper agent "behaviour" (place + 1))

theorem mem_identified {agentId : String} {identity : Identity} :
    (agentId, identity) ∈ (ofGraph settings graph).identified ↔
      (ofGraph settings graph).relations.identity? agentId = some identity := by
  constructor
  · intro inside
    obtain ⟨node, _, named⟩ := List.mem_filterMap.mp inside
    obtain ⟨other, found, same⟩ := Option.map_eq_some_iff.mp named
    injection same with sameId sameIdentity
    rw [← sameId, ← sameIdentity, found]
  · intro found
    obtain ⟨node, inside, rfl, identifies⟩ := identity?_ofGraph found
    refine List.mem_filterMap.mpr ⟨node, List.mem_filter.mpr ⟨inside, identifies.isAgent⟩, ?_⟩
    rw [found]
    rfl

theorem helpers_eq_flatMap (plan : Plan) :
    plan.helpers = plan.identified.flatMap fun entry =>
      (plan.agentStatements entry.1 entry.2).filterMap Statement.helper? := by
  have creations : (plan.agents.filterMap plan.creation?).filterMap Statement.helper? = [] := by
    apply List.filterMap_eq_nil_iff.mpr
    intro statement inside
    obtain ⟨node, _, created⟩ := List.mem_filterMap.mp inside
    obtain ⟨_, _, _, _, _, _, rfl⟩ := createAgent_of_creation? created
    rfl
  unfold helpers statements
  split
  · next empty =>
      rw [identified, List.isEmpty_iff.mp empty]
      rfl
  · rw [List.filterMap_append, List.filterMap_append, creations, List.filterMap_flatMap]
    simp [Statement.helper?]

theorem mem_helpers {name : String} :
    name ∈ (ofGraph settings graph).helpers ↔
      ∃ agentId identity,
        (ofGraph settings graph).relations.identity? agentId = some identity ∧
          name ∈ ((ofGraph settings graph).agentStatements agentId identity).filterMap
            Statement.helper? := by
  rw [helpers_eq_flatMap, List.mem_flatMap]
  constructor
  · rintro ⟨⟨agentId, identity⟩, inside, bound⟩
    exact ⟨agentId, identity, mem_identified.mp inside, bound⟩
  · rintro ⟨agentId, identity, found, bound⟩
    exact ⟨(agentId, identity), mem_identified.mpr found, bound⟩

theorem target_mem_idsOf {kind : EdgeKind} {isCounted : Payload → Bool}
    (counts : ∀ source target, kind.fits source target = true → isCounted target = true)
    {source target : String}
    (bound : Relations.lastTarget? graph.nodes kind graph.edges source = some target) :
    target ∈ idsOf isCounted graph.nodes := by
  obtain ⟨_, node, _, rfl, joins⟩ := Relations.joins_of_lastTarget? bound
  exact List.mem_map_of_mem
    (List.mem_filter.mpr ⟨joins.targetInside, counts _ _ joins.fits⟩)

theorem template_mem_idsOf {behaviourId templateId : String}
    (bound : Relations.lastTarget? graph.nodes .template graph.edges behaviourId =
      some templateId) : templateId ∈ idsOf Payload.isTemplate graph.nodes := by
  refine target_mem_idsOf ?_ bound
  intro source target fits
  exact (Bool.and_eq_true_iff.mp fits).2

theorem message_mem_idsOf {behaviourId messageId : String}
    (bound : Relations.lastTarget? graph.nodes .message graph.edges behaviourId =
      some messageId) : messageId ∈ idsOf Payload.isMessage graph.nodes := by
  refine target_mem_idsOf ?_ bound
  intro source target fits
  exact (Bool.and_eq_true_iff.mp fits).2

theorem behavioursOf_ofGraph (agentId : String) :
    (ofGraph settings graph).relations.behavioursOf agentId =
      Relations.attached graph.nodes graph.edges agentId :=
  Relations.behavioursOf_build graph.nodes settings graph.edges agentId

section Distinct

variable (settings) (distinct : (graph.nodes.map Node.id).Nodup)

include distinct

theorem payload?_of_mem {node : Node} (inside : node ∈ graph.nodes) :
    (ofGraph settings graph).payload? node.id = some node.payload :=
  congrArg (Option.map Node.payload) (Node.find?_of_mem distinct inside)

theorem payload?_of_mem_idsOf {isCounted : Payload → Bool} {id : String}
    (counted : id ∈ idsOf isCounted graph.nodes) :
    ∃ payload, (ofGraph settings graph).payload? id = some payload ∧
      isCounted payload = true := by
  obtain ⟨node, filtered, rfl⟩ := List.mem_map.mp counted
  obtain ⟨inside, isCounted⟩ := List.mem_filter.mp filtered
  exact ⟨node.payload, payload?_of_mem settings distinct inside, isCounted⟩

theorem templateStatements_helpers {templateId : String}
    (isTemplate : templateId ∈ idsOf Payload.isTemplate graph.nodes) (agent : String) :
    ((ofGraph settings graph).templateStatements agent templateId).filterMap
        Statement.helper? =
      [helper agent "template"
        ((idsOf Payload.isTemplate graph.nodes).idxOf templateId + 1)] := by
  have number := numbers_find? distinct isTemplate
  obtain ⟨payload, found, isTemplate⟩ := payload?_of_mem_idsOf settings distinct isTemplate
  cases payload with
  | template envelope =>
      simp only [templateStatements, found, Envelope.statements_helpers, templateVariable]
      rw [ofGraph, build, Dict.findD, number, Option.getD_some]
  | agent | reasoning | prompted | behaviour | message | note => contradiction

theorem messageStatements_helpers {messageId : String}
    (isMessage : messageId ∈ idsOf Payload.isMessage graph.nodes) (agent : String) :
    ((ofGraph settings graph).messageStatements agent messageId).filterMap
        Statement.helper? =
      [helper agent "message"
        ((idsOf Payload.isMessage graph.nodes).idxOf messageId + 1)] := by
  have number := numbers_find? distinct isMessage
  obtain ⟨payload, found, isMessage⟩ := payload?_of_mem_idsOf settings distinct isMessage
  cases payload with
  | message envelope =>
      simp only [messageStatements, found, Envelope.statements_helpers, messageVariable]
      rw [ofGraph, build, Dict.findD, number, Option.getD_some]
  | agent | reasoning | prompted | behaviour | template | note => contradiction

theorem behaviourStatements_helpers {agentId behaviourId : String}
    (attached : behaviourId ∈ Relations.attached graph.nodes graph.edges agentId)
    (agent : String) (place : Nat) :
    ((ofGraph settings graph).behaviourStatements agent place behaviourId).filterMap
      Statement.helper? = [helper agent "behaviour" (place + 1)] := by
  obtain ⟨_, node, _, rfl, joins⟩ := Relations.joins_of_attached attached
  have isBehaviour := (Bool.and_eq_true_iff.mp joins.fits).2
  obtain ⟨className, named, _⟩ :=
    behaviourClass_of_mem settings distinct joins.targetInside isBehaviour
  have found := payload?_of_mem settings distinct joins.targetInside
  cases payload : node.payload with
  | behaviour behaviour =>
      rw [payload] at found
      simp only [behaviourStatements, found, named, List.filterMap_append]
      cases (ofGraph settings graph).boundMessage? node.id <;> rfl
  | agent | reasoning | prompted | template | message | note =>
      rw [payload] at isBehaviour
      contradiction

omit settings in
theorem filter_contains_numbers {isCounted : Payload → Bool} {bound : Option String}
    (counted : ∀ id ∈ bound, id ∈ idsOf isCounted graph.nodes) :
    bound.filter (numbers isCounted graph.nodes).contains = bound := by
  cases bound with
  | none => rfl
  | some id =>
      have contained : (numbers isCounted graph.nodes).contains id = true := by
        rw [Dict.contains, numbers_find? distinct (counted id rfl)]
        rfl
      rw [Option.filter_some, if_pos contained]

theorem boundMessage?_ofGraph (behaviourId : String) :
    (ofGraph settings graph).boundMessage? behaviourId =
      Relations.lastTarget? graph.nodes .message graph.edges behaviourId := by
  have read : (ofGraph settings graph).relations.message? behaviourId =
      Relations.lastTarget? graph.nodes .message graph.edges behaviourId :=
    Relations.message?_build graph.nodes settings graph.edges behaviourId
  rw [boundMessage?, read]
  exact filter_contains_numbers distinct fun _ bound => message_mem_idsOf bound

theorem boundTemplate?_ofGraph (behaviourId : String) :
    (ofGraph settings graph).boundTemplate? behaviourId =
      Relations.lastTarget? graph.nodes .template graph.edges behaviourId := by
  have read : (ofGraph settings graph).relations.template? behaviourId =
      Relations.lastTarget? graph.nodes .template graph.edges behaviourId :=
    Relations.template?_build graph.nodes settings graph.edges behaviourId
  rw [boundTemplate?, read]
  exact filter_contains_numbers distinct fun _ bound => template_mem_idsOf bound

theorem mem_messagesOf {agentId messageId : String} :
    messageId ∈ (ofGraph settings graph).messagesOf agentId ↔
      ∃ behaviourId ∈ Relations.attached graph.nodes graph.edges agentId,
        Relations.lastTarget? graph.nodes .message graph.edges behaviourId =
          some messageId := by
  rw [messagesOf, behavioursOf_ofGraph, Relations.mem_foldl_addOnce, List.mem_filterMap]
  simp only [boundMessage?_ofGraph settings distinct, List.not_mem_nil, false_or]

omit distinct in
theorem mem_templatesOf {agentId templateId : String} :
    templateId ∈ (ofGraph settings graph).relations.templatesOf agentId ↔
      ∃ behaviourId ∈ Relations.attached graph.nodes graph.edges agentId,
        Relations.lastTarget? graph.nodes .template graph.edges behaviourId =
          some templateId := by
  have templates := Relations.templatesOf_build graph.nodes settings graph.edges agentId
  rw [ofGraph, build, templates, Relations.mem_foldl_addOnce, List.mem_filterMap]
  simp only [List.not_mem_nil, false_or]

/-- The variables of one agent: first those of templates, then of messages, then of
behaviours. -/
theorem agentStatements_helpers (agentId : String) (identity : Identity) :
    ((ofGraph settings graph).agentStatements agentId identity).filterMap Statement.helper? =
      (((ofGraph settings graph).relations.templatesOf agentId).map fun id =>
        helper identity.instanceName "template"
          ((idsOf Payload.isTemplate graph.nodes).idxOf id + 1)) ++
      (((ofGraph settings graph).messagesOf agentId).map fun id =>
        helper identity.instanceName "message"
          ((idsOf Payload.isMessage graph.nodes).idxOf id + 1)) ++
      (List.range (Relations.attached graph.nodes graph.edges agentId).length).map
        (behaviourVariable identity.instanceName) := by
  have starts : [Statement.startAgent identity.instanceName].filterMap Statement.helper? = [] :=
    rfl
  have templates : ∀ id ∈ (ofGraph settings graph).relations.templatesOf agentId,
      ((ofGraph settings graph).templateStatements identity.instanceName id).filterMap
          Statement.helper? =
        [helper identity.instanceName "template"
          ((idsOf Payload.isTemplate graph.nodes).idxOf id + 1)] := by
    intro id inside
    obtain ⟨_, _, bound⟩ := (mem_templatesOf settings).mp inside
    exact templateStatements_helpers settings distinct (template_mem_idsOf bound) _
  have messages : ∀ id ∈ (ofGraph settings graph).messagesOf agentId,
      ((ofGraph settings graph).messageStatements identity.instanceName id).filterMap
          Statement.helper? =
        [helper identity.instanceName "message"
          ((idsOf Payload.isMessage graph.nodes).idxOf id + 1)] := by
    intro id inside
    obtain ⟨_, _, bound⟩ := (mem_messagesOf settings distinct).mp inside
    exact messageStatements_helpers settings distinct (message_mem_idsOf bound) _
  have places : ∀ entry ∈ (Relations.attached graph.nodes graph.edges agentId).zipIdx,
      ((ofGraph settings graph).behaviourStatements identity.instanceName entry.2
          entry.1).filterMap Statement.helper? =
        [behaviourVariable identity.instanceName entry.2] := by
    intro entry inside
    have held := List.mem_zipIdx_iff_getElem?.mp inside
    exact behaviourStatements_helpers settings distinct (List.mem_of_getElem? held) _ _
  simp only [agentStatements, List.filterMap_append, List.filterMap_flatMap, starts,
    List.append_nil, behavioursOf_ofGraph]
  rw [List.flatMap_congr templates, List.flatMap_congr messages, List.flatMap_congr places,
    ← List.map_eq_flatMap, ← List.map_eq_flatMap, ← List.map_eq_flatMap, List.range_eq_range',
    ← List.zipIdx_map_snd, List.map_map]
  rfl

theorem mem_agentStatements_helpers {agentId name : String} {identity : Identity} :
    name ∈ ((ofGraph settings graph).agentStatements agentId identity).filterMap
        Statement.helper? ↔
      IsHelper graph agentId identity.instanceName name := by
  rw [agentStatements_helpers settings distinct]
  simp only [List.mem_append, List.mem_map, List.mem_range]
  constructor
  · rintro ((⟨templateId, inside, rfl⟩ | ⟨messageId, inside, rfl⟩) | ⟨place, attached, rfl⟩)
    · obtain ⟨behaviourId, attached, target⟩ := (mem_templatesOf settings).mp inside
      exact .template attached target
    · obtain ⟨behaviourId, attached, target⟩ := (mem_messagesOf settings distinct).mp inside
      exact .message attached target
    · exact .behaviour attached
  · intro isHelper
    cases isHelper with
    | @template behaviourId templateId attached target =>
        have inside := (mem_templatesOf settings).mpr ⟨behaviourId, attached, target⟩
        exact .inl (.inl ⟨templateId, inside, rfl⟩)
    | @message behaviourId messageId attached target =>
        have inside := (mem_messagesOf settings distinct).mpr ⟨behaviourId, attached, target⟩
        exact .inl (.inr ⟨messageId, inside, rfl⟩)
    | @behaviour place attached => exact .inr ⟨place, attached, rfl⟩

/-- The variables of a program, told from its graph alone. -/
theorem mem_helpers_iff {name : String} :
    name ∈ (ofGraph settings graph).helpers ↔
      ∃ agentId identity,
        (ofGraph settings graph).relations.identity? agentId = some identity ∧
          IsHelper graph agentId identity.instanceName name := by
  simp only [mem_helpers, mem_agentStatements_helpers settings distinct]

end Distinct

theorem helper_ne_numbered {stem : String} (plain : '_' ∉ stem.toList) (agent kind : String)
    (number other : Nat) : helper agent kind number ≠ numbered stem other := by
  intro same
  have chars := congrArg (fun name : String => '_' ∈ name.toList) same
  have digits : '_' ∉ Nat.toDigits 10 other := by
    intro inside
    have digit := Nat.isDigit_of_mem_toDigits (by omega) (by omega) inside
    contradiction
  simp [helper, toList_numbered, plain, digits] at chars

theorem IsHelper.ne_numbered {stem agentId agent name : String} (plain : '_' ∉ stem.toList)
    (isHelper : IsHelper graph agentId agent name) (number : Nat) :
    name ≠ numbered stem number := by
  cases isHelper with
  | template | message | behaviour => exact helper_ne_numbered plain _ _ _ _

/-- A helper variable that is resolved from a name was typed as one. -/
theorem IsHelper.typed {stem agentId agent name : String} {taken : List String}
    {typed : Option String} (plain : '_' ∉ stem.toList)
    (isHelper : IsHelper graph agentId agent name)
    (resolved : IsResolved stem taken typed name) : typed = some name := by
  rcases resolved with same | ⟨_, _, number, made⟩
  · exact same
  · exact absurd made (isHelper.ne_numbered plain number)

/-- Whether no variable of a template, a message or a behaviour has the name of an agent
or of a class. -/
def CapturesNoName (plan : Plan) : Prop :=
  ∀ name ∈ plan.helpers,
    (∀ agentId identity, plan.relations.identity? agentId = some identity →
      name ≠ identity.instanceName ∧ name ≠ identity.className) ∧
    ∀ behaviourId className, plan.behaviourClasses.find? behaviourId = some className →
      name ≠ className

/-- Only typed names can be captured, and each one that has the form of a helper is. -/
theorem capturesNoName_iff (settings : Settings)
    (distinct : (graph.nodes.map Node.id).Nodup) :
    (ofGraph settings graph).CapturesNoName ↔
      ∀ agentId identity,
        (ofGraph settings graph).relations.identity? agentId = some identity →
          ∀ name, IsHelper graph agentId identity.instanceName name →
            name ∉ instanceNames graph.nodes ∧ name ∉ allClasses graph.nodes := by
  constructor
  · intro captures agentId identity found name isHelper
    have inside := (mem_helpers_iff settings distinct).mpr ⟨agentId, identity, found, isHelper⟩
    obtain ⟨agents, behaviours⟩ := captures name inside
    constructor
    · intro isName
      obtain ⟨node, held, typed⟩ := List.mem_filterMap.mp isName
      obtain ⟨other, otherFound, same⟩ := identity?_of_instanceName settings distinct held typed
      exact (agents _ _ otherFound).1 same.symm
    · intro isClass
      rcases mem_allClasses.mp isClass with ⟨node, held, typed⟩ | ⟨node, held, typed⟩
      · obtain ⟨other, otherFound, same⟩ := identity?_of_agentClass settings distinct held typed
        exact (agents _ _ otherFound).2 same.symm
      · exact behaviours _ _ (behaviourClass_of_typed settings distinct held typed) rfl
  · intro free name inside
    obtain ⟨agentId, identity, found, isHelper⟩ := (mem_helpers_iff settings distinct).mp inside
    obtain ⟨noName, noClass⟩ := free agentId identity found name isHelper
    constructor
    · intro otherId other otherFound
      obtain ⟨node, held, _, identifies⟩ := identity?_ofGraph otherFound
      constructor
      · rintro rfl
        have typed := isHelper.typed (by decide) identifies.instanceName
        exact noName (List.mem_filterMap.mpr ⟨node, held, typed⟩)
      · rintro rfl
        have typed := isHelper.typed (by decide) identifies.className
        exact noClass (mem_allClasses.mpr (.inl ⟨node, held, typed⟩))
    · rintro behaviourId className classFound rfl
      obtain ⟨node, held, _, _, resolved⟩ := behaviourClass_ofGraph classFound
      have typed := isHelper.typed (by decide) resolved
      exact noClass (mem_allClasses.mpr (.inr ⟨node, held, typed⟩))

/-- Two agents, the second of which has the name of the first one's behaviour. -/
def namesakes : Graph where
  nodes := [⟨"a", none, .agent { instanceName := "alice" }⟩,
    ⟨"b", none, .agent { instanceName := "alice_behaviour_1" }⟩,
    ⟨"c", none, .behaviour {}⟩]
  edges := [{ id := "e", source := "a", target := "c", kind := .agentBehaviour }]

theorem namesakes_captured :
    (namesakes.nodes.map Node.id).Nodup ∧ violations namesakes.nodes = [] ∧
      ¬(ofGraph {} namesakes).CapturesNoName := by
  refine ⟨by decide +kernel, by decide +kernel, ?_⟩
  intro captures
  have bound : "alice_behaviour_1" ∈ (ofGraph {} namesakes).helpers := by decide +kernel
  have found : (ofGraph {} namesakes).relations.identity? "b" =
      some ⟨"alice_behaviour_1", "MyAgent2", "alice_behaviour_1@localhost"⟩ := by
    decide +kernel
  exact ((captures _ bound).1 "b" _ found).1 rfl

theorem capturesNoName_iff_namesakes :
    (namesakes.nodes.map Node.id).Nodup ∧
      ((ofGraph {} namesakes).CapturesNoName ↔
        ∀ agentId identity,
          (ofGraph {} namesakes).relations.identity? agentId = some identity →
            ∀ name, IsHelper namesakes agentId identity.instanceName name →
              name ∉ instanceNames namesakes.nodes ∧ name ∉ allClasses namesakes.nodes) :=
  ⟨by decide +kernel, capturesNoName_iff {} (by decide +kernel)⟩

end Plan

end AgentGraph
