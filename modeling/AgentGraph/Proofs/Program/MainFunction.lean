import AgentGraph.Proofs.Program.Startup
import AgentGraph.Proofs.Program.StatementLines

/-!
The main function, line by line. All agents are made first, a line each. Then each agent has a
section, in which all that its behaviours need is made, then each behaviour is made and attached,
and the agent is started, each of it once. In the end all agents are waited for.
-/

namespace AgentGraph

open Naming Literal

namespace Plan

def IsInstantiation (plan : Plan) (node : Node) (line : String) : Prop :=
  ∃ shared identity, node.payload.agent? = some shared ∧
    plan.relations.identity? node.id = some identity ∧
    line = "    " ++ identity.instanceName ++ " = " ++ identity.className ++ "(" ++
      ", ".intercalate
        ([Literal.string identity.jid, Literal.string (if shared.password = ""
            then plan.settings.defaultPassword else shared.password)] ++
          ((plan.reasoningFile? node.payload identity).map Literal.string).toList ++
          ["port=" ++ (shared.port.getD plan.settings.defaultPort).toNat.repr,
            "verify_security=" ++ if shared.verifySecurity then "True" else "False"]) ++ ")"

def IsConstruction (plan : Plan) (agent : String) (needed : EnvelopeKind × String)
    (lines : List String) : Prop :=
  ∃ envelope, plan.payload? needed.2 = some (needed.1.payload envelope) ∧
    lines = envelope.lines needed.1 (plan.envelopeVariable needed.1 agent needed.2)

/-- Whether the lines make the behaviour at `place` an instance of its own class, with the template
that is tied to it, give it its message, and attach it. -/
def IsAttachment (plan : Plan) (agent : String) (behaviour : String × Nat)
    (lines : List String) : Prop :=
  let name := agent ++ "_behaviour_" ++ (behaviour.2 + 1).repr
  ∃ held className, plan.payload? behaviour.1 = some (.behaviour held) ∧
    plan.behaviourClasses.find? behaviour.1 = some className ∧
    lines =
      ["    " ++ name ++ " = " ++ className ++ "(" ++ ", ".intercalate
        (held.timing.map Argument.text ++ ((plan.tied? .template behaviour.1).map fun id =>
          "template=" ++ plan.envelopeVariable .template agent id).toList) ++ ")"] ++
      ((plan.tied? .message behaviour.1).map fun id =>
        "    " ++ name ++ ".message = " ++ plan.envelopeVariable .message agent id).toList ++
      ["    " ++ agent ++ ".add_behaviour(" ++ name ++ ")"]

structure IsSection (plan : Plan) (agentId agent : String) (lines : List String) : Prop where
  /-- What is tied to the agent's behaviours is made once, before all of them. -/
  runs : ∃ needed constructions attachments,
    lines = constructions.flatten ++ attachments.flatten ++ ["    await " ++ agent ++ ".start()"] ∧
    needed.Nodup ∧
    (∀ kind id, (kind, id) ∈ needed ↔
      ∃ behaviourId ∈ plan.relations.behavioursOf agentId, plan.tied? kind behaviourId = some id) ∧
    List.Forall₂ (plan.IsConstruction agent) needed constructions ∧
    List.Forall₂ (plan.IsAttachment agent) (plan.relations.behavioursOf agentId).zipIdx attachments
  startsOnce : lines.count ("    await " ++ agent ++ ".start()") = 1
  makesOnce : ∀ behaviourId ∈ plan.relations.behavioursOf agentId, ∀ kind id,
    plan.tied? kind behaviourId = some id →
      lines.countP (binds (plan.envelopeVariable kind agent id)) = 1
  attachesOnce : ∀ place < (plan.relations.behavioursOf agentId).length,
    let name := agent ++ "_behaviour_" ++ (place + 1).repr
    lines.countP (binds name) = 1 ∧
      lines.count ("    " ++ agent ++ ".add_behaviour(" ++ name ++ ")") = 1

/-- Whether the lines of the statements make the agents in the order of their nodes, run a section
for each one in that order, and wait for all of them. -/
structure StartsUp (plan : Plan) : Prop where
  text : plan.startupText =
    "\n".intercalate ("async def main():" :: plan.statements.map Statement.line)
  idle : plan.agents = [] → plan.statements.map Statement.line = ["    pass"]
  runs : plan.agents ≠ [] → ∃ instantiations sections names,
    plan.statements.map Statement.line = instantiations ++ sections.flatten ++
      ["    await wait_until_finished([" ++ ", ".intercalate names ++ "])"] ∧
    List.Forall₂ plan.IsInstantiation plan.agents instantiations ∧
    (∀ line ∈ instantiations, (plan.statements.map Statement.line).count line = 1) ∧
    List.Forall₂ (fun node lines => ∃ identity,
      plan.relations.identity? node.id = some identity ∧
        plan.IsSection node.id identity.instanceName lines) plan.agents sections ∧
    List.Forall₂ (fun node name => ∃ identity,
      plan.relations.identity? node.id = some identity ∧ name = identity.instanceName)
      plan.agents names
  /-- No variable of a template, a message or a behaviour is bound twice. -/
  once : plan.helpers.Nodup

end Plan

theorem Plan.isWord_helper {agent kind : String} (isWord : IsWord agent) (isKind : IsWord kind)
    (number : Nat) : IsWord (helper agent kind number) :=
  (((isWord.append (by decide)).append isKind).append (by decide)).append (isWord_repr number)

theorem countP_eq_one_of_nodup {α β : Type} [DecidableEq β] {xs : List α} {f : α → Option β}
    (nodup : (xs.filterMap f).Nodup) {x : α} (inside : x ∈ xs) {p : α → Bool} (holds : p x = true)
    {y : β} (told : ∀ x ∈ xs, p x = true → f x = some y) : xs.countP p = 1 := by
  apply le_antisymm
  · calc
      xs.countP p ≤ xs.countP fun x => f x == some y :=
        List.countP_mono_left fun x inside holds => by simp [told x inside holds]
      _ = (xs.filterMap f).count y := List.count_filterMap.symm
      _ ≤ 1 := List.nodup_iff_count_le_one.mp nodup y
  · exact List.countP_pos_iff.mpr ⟨x, inside, holds⟩

namespace Plan

section Section

variable {plan : Plan} {agentId : String} {identity : Identity} {statement : Statement}

theorem isWord_envelopeVariable {agent : String} (isWord : IsWord agent) (plan : Plan)
    (kind : EnvelopeKind) (id : String) : IsWord (plan.envelopeVariable kind agent id) := by
  cases kind with
  | template | message => exact isWord_helper isWord (by decide) _

theorem isWord_behaviourVariable {agent : String} (isWord : IsWord agent) (place : Nat) :
    IsWord (behaviourVariable agent place) :=
  isWord_helper isWord (by decide) _

/-- Lines of an agent's section begin with a variable of the agent or with `await`. -/
theorem isWord_subject (isWord : IsWord identity.instanceName)
    (inside : statement ∈ plan.agentStatements agentId identity) :
    IsWord statement.subject ∧ statement.part ≠ .frame := by
  rcases mem_agentStatements.mp inside with
    ⟨kind, id, _, inside⟩ | ⟨place, behaviourId, _, inside⟩ | rfl
  · have named := plan.isWord_envelopeVariable isWord kind id
    obtain ⟨_, inside⟩ := exists_of_mem_makingStatements inside
    obtain rfl | ⟨_, _, rfl⟩ | ⟨_, _, rfl⟩ := Envelope.exists_of_mem_statements inside
    · exact ⟨named, nofun⟩
    · exact ⟨named, nofun⟩
    · exact ⟨named, nofun⟩
  · have named := isWord_behaviourVariable isWord place
    obtain ⟨_, _, _, _, rfl | ⟨_, _, rfl⟩ | rfl⟩ := exists_of_mem_behaviourStatements inside
    · exact ⟨named, nofun⟩
    · exact ⟨named, nofun⟩
    · exact ⟨isWord, nofun⟩
  · have awaits : IsWord "await" := by decide
    exact ⟨awaits, nofun⟩

theorem line_ne_createAgent (isWord : IsWord identity.instanceName)
    (classes : ∀ behaviourId className, plan.behaviourClasses.find? behaviourId = some className →
      IsWord className)
    (inside : statement ∈ plan.agentStatements agentId identity) {other : Identity}
    (isOther : IsWord other.instanceName) (password : String) (program : Option String)
    (port : UInt16) (verifySecurity : Bool) :
    statement.line ≠
      (Statement.createAgent other password program port verifySecurity).line := by
  have subject := (isWord_subject isWord inside).1
  rcases mem_agentStatements.mp inside with
    ⟨kind, id, _, inside⟩ | ⟨place, behaviourId, _, inside⟩ | rfl
  · have named := plan.isWord_envelopeVariable isWord kind id
    obtain ⟨_, inside⟩ := exists_of_mem_makingStatements inside
    obtain rfl | ⟨_, _, rfl⟩ | ⟨_, _, rfl⟩ := Envelope.exists_of_mem_statements inside
    · have made := Statement.createEnvelope_plain named.plain kind
      exact Statement.line_ne_createAgent_of_plain made other _ _ _ _
    · exact Statement.line_ne_createAgent_of_member subject (.inl rfl) rfl isOther _ _ _ _
    · exact Statement.line_ne_createAgent_of_member subject (.inl rfl) rfl isOther _ _ _ _
  · have named := isWord_behaviourVariable isWord place
    obtain ⟨behaviour, className, _, found, rfl | ⟨_, _, rfl⟩ | rfl⟩ :=
      exists_of_mem_behaviourStatements inside
    · refine Statement.line_ne_createAgent_of_plain (Statement.createBehaviour_plain named.plain
        (classes _ _ found).plain (behaviour.arguments_plain ?_)) other _ _ _ _
      intro name given
      obtain ⟨id, _, rfl⟩ := Option.map_eq_some_iff.mp given
      exact (plan.isWord_envelopeVariable isWord .template id).plain
    · exact Statement.line_ne_createAgent_of_member subject (.inr rfl) rfl isOther _ _ _ _
    · exact Statement.line_ne_createAgent_of_member subject (.inr rfl) rfl isOther _ _ _ _
  · have started := Statement.startAgent_plain isWord.plain
    exact Statement.line_ne_createAgent_of_plain started other _ _ _ _

end Section

theorem behaviourVariable_eq (agent : String) (place : Nat) :
    behaviourVariable agent place = agent ++ "_behaviour_" ++ (place + 1).repr := by
  apply String.toList_inj.mp
  simp [behaviourVariable, helper]

variable {settings : Settings} {graph : Graph}

section Distinct

variable (settings) (distinct : (graph.nodes.map Node.id).Nodup)

include distinct

theorem isInstantiation_line {node : Node} (isAgent : node ∈ (ofGraph settings graph).agents) :
    ∃ statement, (ofGraph settings graph).creation? node = some statement ∧
      (ofGraph settings graph).IsInstantiation node statement.line := by
  obtain ⟨identity, found⟩ := exists_of_mem_agents settings distinct isAgent
  obtain ⟨agent, held⟩ := Option.isSome_iff_exists.mp (List.mem_filter.mp isAgent).2
  simp only [creation?, held, found]
  refine ⟨_, rfl, agent, identity, held, found, ?_⟩
  apply String.toList_inj.mp
  simp [Statement.line, Statement.text, Statement.call, memberIndent, Literal.bool]

theorem isConstruction_lines {agentId : String} {needed : EnvelopeKind × String}
    (inside : needed ∈ (ofGraph settings graph).needed agentId) (agent : String) :
    (ofGraph settings graph).IsConstruction agent needed
      (((ofGraph settings graph).makingStatements needed.1 agent needed.2).map Statement.line) := by
  obtain ⟨envelope, found, made⟩ := makingStatements_of_mem settings distinct inside agent
  exact ⟨envelope, found, by rw [made, Envelope.map_line_statements]⟩

theorem isAttachment_lines {agentId : String} {behaviour : String × Nat}
    (attached : behaviour.1 ∈ (ofGraph settings graph).relations.behavioursOf agentId)
    (agent : String) :
    (ofGraph settings graph).IsAttachment agent behaviour
      (((ofGraph settings graph).behaviourStatements agent behaviour.2 behaviour.1).map
        Statement.line) := by
  obtain ⟨held, className, found, named, made⟩ :=
    behaviourStatements_of_attached settings distinct attached agent behaviour.2
  refine ⟨held, className, found, named, ?_⟩
  rw [made]
  simp only [List.map_append, List.map_cons, List.map_nil]
  refine congrArg₂ _ (congrArg₂ _ ?_ ?_) ?_
  · refine congrArg (fun line => [line]) (String.toList_inj.mp ?_)
    cases (ofGraph settings graph).tied? .template behaviour.1 with
    | none | some =>
        simp [Statement.line, Statement.text, Statement.call, memberIndent, behaviourVariable,
          helper, Behaviour.arguments, Argument.text]
  · cases (ofGraph settings graph).tied? .message behaviour.1 with
    | none => rfl
    | some id =>
        refine congrArg (fun line => [line]) (String.toList_inj.mp ?_)
        simp [Statement.line, Statement.text, memberIndent, behaviourVariable, helper]
  · rw [Statement.line_addBehaviour, behaviourVariable_eq]

theorem behaviourStatements_attached {agentId behaviourId : String}
    (attached : behaviourId ∈ (ofGraph settings graph).relations.behavioursOf agentId)
    (agent : String) (place : Nat) :
    ((ofGraph settings graph).behaviourStatements agent place behaviourId).filterMap
      Statement.attached? = [behaviourVariable agent place] := by
  obtain ⟨_, _, _, _, made⟩ :=
    behaviourStatements_of_attached settings distinct attached agent place
  rw [made]
  cases (ofGraph settings graph).tied? .message behaviourId <;> rfl

theorem agentStatements_attached (agentId : String) (identity : Identity) :
    ((ofGraph settings graph).agentStatements agentId identity).filterMap Statement.attached? =
      (List.range ((ofGraph settings graph).relations.behavioursOf agentId).length).map
        (behaviourVariable identity.instanceName) := by
  have envelopes : ((ofGraph settings graph).envelopeStatements agentId
      identity.instanceName).filterMap Statement.attached? = [] :=
    List.filterMap_eq_nil_iff.mpr fun statement inside =>
      Statement.attached?_eq_none (part_of_mem_envelopeStatements inside)
  have places : ∀ entry ∈ ((ofGraph settings graph).relations.behavioursOf agentId).zipIdx,
      ((ofGraph settings graph).behaviourStatements identity.instanceName entry.2
        entry.1).filterMap Statement.attached? =
          [behaviourVariable identity.instanceName entry.2] := by
    intro entry inside
    have held := List.mem_of_getElem? (List.mem_zipIdx_iff_getElem?.mp inside)
    exact behaviourStatements_attached settings distinct held _ _
  rw [agentStatements_eq, List.filterMap_append, List.filterMap_append, envelopes, attachStatements,
    List.filterMap_flatMap, List.flatMap_congr places, ← List.map_eq_flatMap, List.range_eq_range',
    ← List.zipIdx_map_snd, List.map_map]
  simp [Statement.attached?, Function.comp_def]

theorem mark_mem {agentId name : String} {identity : Identity}
    (isHelper : name ∈ ((ofGraph settings graph).agentStatements agentId identity).filterMap
      Statement.helper?) : '_' ∈ name.toList := by
  obtain ⟨_, _, _, rfl⟩ := ((mem_agentStatements_helpers settings distinct).mp isHelper).eq_helper
  simp [toList_helper]

theorem addBehaviour_mem {agentId : String} (identity : Identity) {place : Nat}
    (small : place < ((ofGraph settings graph).relations.behavioursOf agentId).length) :
    .addBehaviour identity.instanceName (behaviourVariable identity.instanceName place) ∈
      (ofGraph settings graph).agentStatements agentId identity := by
  obtain ⟨_, _, _, _, made⟩ := behaviourStatements_of_attached settings distinct
    (List.getElem_mem small) identity.instanceName place
  refine mem_agentStatements.mpr (.inr (.inl ⟨place, _, List.getElem?_eq_getElem small, ?_⟩))
  rw [made]
  exact List.mem_append_right _ List.mem_cons_self

section Word

variable {agentId : String} {identity : Identity} (isWord : IsWord identity.instanceName)

include isWord

theorem countP_binds_eq_one {name : String}
    (isHelper : name ∈ ((ofGraph settings graph).agentStatements agentId identity).filterMap
      Statement.helper?) :
    (((ofGraph settings graph).agentStatements agentId identity).map Statement.line).countP
      (binds name) = 1 := by
  obtain ⟨statement, inside, binding⟩ := List.mem_filterMap.mp isHelper
  have isName : IsWord name :=
    Statement.subject_of_helper? binding ▸ (isWord_subject isWord inside).1
  have told : ∀ other ∈ (ofGraph settings graph).agentStatements agentId identity,
      binds name other.line = true → other.helper? = some name := by
    intro other held bound
    obtain ⟨subject, part⟩ := isWord_subject isWord held
    exact other.helper?_of_binds subject part isName (mark_mem settings distinct isHelper) bound
  rw [List.countP_map]
  exact countP_eq_one_of_nodup (agentStatements_helpers_nodup settings distinct agentId identity)
    inside (Statement.binds_of_helper? binding) told

theorem count_start_eq_one :
    (((ofGraph settings graph).agentStatements agentId identity).map Statement.line).count
      (Statement.startAgent identity.instanceName).line = 1 := by
  have front : (Statement.startAgent identity.instanceName).line ∉
      ((ofGraph settings graph).envelopeStatements agentId identity.instanceName ++
        (ofGraph settings graph).attachStatements agentId identity.instanceName).map
          Statement.line := by
    intro inside
    obtain ⟨statement, held, same⟩ := List.mem_map.mp inside
    have part : statement.part = .envelope ∨ statement.part = .behaviour :=
      (List.mem_append.mp held).imp part_of_mem_envelopeStatements part_of_mem_attachStatements
    have member : statement ∈ (ofGraph settings graph).agentStatements agentId identity := by
      rw [agentStatements_eq]
      exact List.mem_append_left _ held
    exact statement.line_ne_startAgent (isWord_subject isWord member).1 part
      (fun name isHelper => mark_mem settings distinct
        (List.mem_filterMap.mpr ⟨statement, member, isHelper⟩)) _ same
  rw [agentStatements_eq, List.map_append, List.count_append, List.count_eq_zero_of_not_mem front]
  simp

theorem count_attached_eq_one {place : Nat}
    (small : place < ((ofGraph settings graph).relations.behavioursOf agentId).length) :
    (((ofGraph settings graph).agentStatements agentId identity).map Statement.line).count
      (Statement.addBehaviour identity.instanceName
        (behaviourVariable identity.instanceName place)).line = 1 := by
  have nodup : (((ofGraph settings graph).agentStatements agentId identity).filterMap
      Statement.attached?).Nodup := by
    rw [agentStatements_attached settings distinct]
    refine List.nodup_range.map fun first second same => ?_
    exact Nat.succ.inj (helper_injective (by decide) (by decide) same).2.2
  have told : ∀ other ∈ (ofGraph settings graph).agentStatements agentId identity,
      (other.line == (Statement.addBehaviour identity.instanceName
        (behaviourVariable identity.instanceName place)).line) = true →
          other.attached? = some (behaviourVariable identity.instanceName place) := by
    intro other held same
    obtain ⟨subject, part⟩ := isWord_subject isWord held
    exact other.attached?_of_line subject part isWord (eq_of_beq same)
  rw [List.count, List.countP_map]
  exact countP_eq_one_of_nodup nodup (addBehaviour_mem settings distinct identity small)
    (beq_self_eq_true _) told

theorem isSection_lines :
    (ofGraph settings graph).IsSection agentId identity.instanceName
      (((ofGraph settings graph).agentStatements agentId identity).map Statement.line) where
  runs := by
    refine ⟨(ofGraph settings graph).needed agentId,
      ((ofGraph settings graph).needed agentId).map fun needed =>
        ((ofGraph settings graph).makingStatements needed.1 identity.instanceName needed.2).map
          Statement.line,
      ((ofGraph settings graph).relations.behavioursOf agentId).zipIdx.map fun behaviour =>
        ((ofGraph settings graph).behaviourStatements identity.instanceName behaviour.2
          behaviour.1).map Statement.line, ?_, nodup_needed settings graph agentId,
      fun kind id => mem_needed_iff settings distinct, ?_, ?_⟩
    · rw [agentStatements_eq, envelopeStatements_eq, attachStatements, List.map_append,
        List.map_append, List.map_flatMap, List.map_flatMap, List.map_singleton,
        Statement.line_startAgent]
      rfl
    · rw [List.forall₂_map_right_iff]
      exact List.forall₂_same.mpr fun needed inside =>
        isConstruction_lines settings distinct inside _
    · rw [List.forall₂_map_right_iff]
      exact List.forall₂_same.mpr fun behaviour inside =>
        isAttachment_lines settings distinct
          (List.mem_of_getElem? (List.mem_zipIdx_iff_getElem?.mp inside)) _
  startsOnce := by
    rw [← Statement.line_startAgent]
    exact count_start_eq_one settings distinct isWord
  makesOnce behaviourId attached kind id tied := by
    have inside := (mem_needed_iff settings distinct).mpr ⟨behaviourId, attached, tied⟩
    obtain ⟨envelope, _, made⟩ :=
      makingStatements_of_mem settings distinct inside identity.instanceName
    have first : Statement.createEnvelope kind
        ((ofGraph settings graph).envelopeVariable kind identity.instanceName id) ∈
          (ofGraph settings graph).agentStatements agentId identity := by
      refine mem_agentStatements.mpr (.inl ⟨kind, id, mem_needed.mp inside, ?_⟩)
      rw [made]
      exact List.mem_cons_self
    exact countP_binds_eq_one settings distinct isWord (List.mem_filterMap.mpr ⟨_, first, rfl⟩)
  attachesOnce place small := by
    rw [← behaviourVariable_eq]
    intro name
    rw [← Statement.line_addBehaviour]
    constructor
    · refine countP_binds_eq_one settings distinct isWord
        ((mem_agentStatements_helpers settings distinct).mpr (.behaviour ?_))
      rwa [← behavioursOf_ofGraph]
    · exact count_attached_eq_one settings distinct isWord small

end Word

omit distinct in
theorem statements_eq (some_agents : (ofGraph settings graph).agents ≠ []) :
    (ofGraph settings graph).statements =
      (ofGraph settings graph).agents.filterMap (ofGraph settings graph).creation? ++
      ((ofGraph settings graph).identified.map fun entry =>
        (ofGraph settings graph).agentStatements entry.1 entry.2).flatten ++
      [.await ((ofGraph settings graph).identified.map fun entry => entry.2.instanceName)] := by
  rw [statements, List.isEmpty_eq_false_iff.mpr some_agents]
  rfl

section Rules

variable (rules : IsValid graph.nodes)

include rules

omit distinct in
theorem isWord_instanceName {agentId : String} {identity : Identity}
    (found : (ofGraph settings graph).relations.identity? agentId = some identity) :
    IsWord identity.instanceName :=
  isWord_of_isIdentifier (isIdentifier_instanceName rules found).1

/-- No agent is made twice, as agents have distinct names. -/
theorem nodup_created (some_agents : (ofGraph settings graph).agents ≠ []) :
    ((ofGraph settings graph).statements.filterMap Statement.created?).Nodup := by
  have creations : ((ofGraph settings graph).agents.filterMap
      (ofGraph settings graph).creation?).filterMap Statement.created? =
        (ofGraph settings graph).identified.map fun entry => entry.2.instanceName := by
    rw [List.filterMap_filterMap, identified, List.map_filterMap]
    refine List.filterMap_congr fun node isAgent => ?_
    obtain ⟨agent, held⟩ := Option.isSome_iff_exists.mp (List.mem_filter.mp isAgent).2
    simp only [creation?, held]
    cases (ofGraph settings graph).relations.identity? node.id <;> rfl
  have sections : (((ofGraph settings graph).identified.map fun entry =>
      (ofGraph settings graph).agentStatements entry.1 entry.2).flatten).filterMap
        Statement.created? = [] := by
    refine List.filterMap_eq_nil_iff.mpr fun statement inside => ?_
    obtain ⟨_, listed, inside⟩ := List.mem_flatten.mp inside
    obtain ⟨entry, known, rfl⟩ := List.mem_map.mp listed
    have isWord := isWord_instanceName settings rules (mem_identified.mp known)
    exact Statement.created?_eq_none (isWord_subject isWord inside).2
  have waits (agents : List String) : [Statement.await agents].filterMap Statement.created? = [] :=
    rfl
  rw [statements_eq settings some_agents, List.filterMap_append, List.filterMap_append, creations,
    sections, waits, List.append_nil, List.append_nil]
  exact List.pairwise_map.mpr (identified_pairwise settings distinct rules)

omit distinct in
theorem created?_of_line {identity : Identity} (isWord : IsWord identity.instanceName)
    (password : String) (program : Option String) (port : UInt16) (verifySecurity : Bool)
    (some_agents : (ofGraph settings graph).agents ≠ []) {statement : Statement}
    (inside : statement ∈ (ofGraph settings graph).statements)
    (same : statement.line =
      (Statement.createAgent identity password program port verifySecurity).line) :
    statement.created? = some identity.instanceName := by
  rw [statements_eq settings some_agents, List.mem_append, List.mem_append] at inside
  rcases inside with (created | inSection) | last
  · obtain ⟨node, _, created⟩ := List.mem_filterMap.mp created
    obtain ⟨other, otherPassword, otherProgram, otherPort, verifies, found, rfl⟩ :=
      createAgent_of_creation? created
    have isOther : IsWord
        (Statement.createAgent other otherPassword otherProgram otherPort verifies).subject :=
      isWord_instanceName settings rules found
    have isSame : IsWord
        (Statement.createAgent identity password program port verifySecurity).subject := isWord
    exact congrArg some (Statement.parts_eq isOther isSame nofun nofun same).1
  · obtain ⟨_, listed, inside⟩ := List.mem_flatten.mp inSection
    obtain ⟨entry, known, rfl⟩ := List.mem_map.mp listed
    have isOther := isWord_instanceName settings rules (mem_identified.mp known)
    have classes : ∀ behaviourId className,
        (ofGraph settings graph).behaviourClasses.find? behaviourId = some className →
          IsWord className :=
      fun _ _ found => isWord_of_isIdentifier (isIdentifier_behaviourClass rules found).1
    exact absurd same (line_ne_createAgent isOther classes inside isWord _ _ _ _)
  · obtain rfl := List.mem_singleton.mp last
    refine absurd same (Statement.line_ne_createAgent_of_plain
      (Statement.await_plain fun name inside => ?_) identity _ _ _ _)
    obtain ⟨entry, known, rfl⟩ := List.mem_map.mp inside
    exact (isWord_instanceName settings rules (mem_identified.mp known)).plain

theorem count_instantiation_eq_one {node : Node} {statement : Statement}
    (isAgent : node ∈ (ofGraph settings graph).agents)
    (created : (ofGraph settings graph).creation? node = some statement) :
    ((ofGraph settings graph).statements.map Statement.line).count statement.line = 1 := by
  have some_agents := List.ne_nil_of_mem isAgent
  have inside : statement ∈ (ofGraph settings graph).statements := by
    rw [statements_eq settings some_agents]
    exact List.mem_append_left _ (List.mem_append_left _
      (List.mem_filterMap.mpr ⟨node, isAgent, created⟩))
  obtain ⟨identity, _, _, _, _, found, rfl⟩ := createAgent_of_creation? created
  have isWord := isWord_instanceName settings rules found
  rw [List.count, List.countP_map]
  exact countP_eq_one_of_nodup (nodup_created settings distinct rules some_agents) inside
    (beq_self_eq_true _) fun other held same =>
      created?_of_line settings rules isWord _ _ _ _ some_agents held (eq_of_beq same)

end Rules

/-- Agents are made first, then started one after the other with all that they need. -/
theorem startsUp_ofGraph (valid : violations graph.nodes = []) :
    (ofGraph settings graph).StartsUp where
  text := rfl
  idle empty := by
    rw [statements, empty]
    rfl
  once := helpers_nodup settings distinct valid
  runs some_agents := by
    have rules := (violations_eq_nil_iff graph.nodes).mp valid
    refine ⟨((ofGraph settings graph).agents.filterMap (ofGraph settings graph).creation?).map
        Statement.line,
      (ofGraph settings graph).identified.map fun entry =>
        ((ofGraph settings graph).agentStatements entry.1 entry.2).map Statement.line,
      (ofGraph settings graph).identified.map fun entry => entry.2.instanceName, ?_, ?_, ?_, ?_,
      forall₂_identified settings distinct fun entry => entry.2.instanceName⟩
    · rw [statements_eq settings some_agents, List.map_append, List.map_append, List.map_flatten,
        List.map_map, List.map_singleton, Statement.line_await]
      rfl
    · rw [List.map_filterMap]
      refine forall₂_filterMap_of_forall fun node isAgent => ?_
      obtain ⟨statement, created, made⟩ := isInstantiation_line settings distinct isAgent
      exact ⟨statement.line, by rw [created]; rfl, made⟩
    · intro line inside
      obtain ⟨statement, listed, rfl⟩ := List.mem_map.mp inside
      obtain ⟨node, isAgent, created⟩ := List.mem_filterMap.mp listed
      exact count_instantiation_eq_one settings distinct rules isAgent created
    · refine (forall₂_identified settings distinct _).imp fun node lines inSection => ?_
      obtain ⟨identity, found, rfl⟩ := inSection
      have isWord := isWord_instanceName settings rules found
      exact ⟨identity, found, isSection_lines settings distinct isWord⟩

end Distinct

/-- Two agents with a behaviour in common, and two behaviours with one template and one
message in common. -/
def sharing : Graph where
  nodes := [⟨"a", none, .agent {}⟩, ⟨"b", none, .agent { instanceName := "a_template" }⟩,
    ⟨"c", none, .behaviour {}⟩, ⟨"d", none, .behaviour {}⟩,
    ⟨"e", none, .template {}⟩, ⟨"f", none, .message { body := "hello" }⟩]
  edges := [{ id := "1", source := "a", target := "d", kind := .agentBehaviour },
    { id := "2", source := "a", target := "c", kind := .agentBehaviour },
    { id := "3", source := "b", target := "c", kind := .agentBehaviour },
    { id := "4", source := "c", target := "e", kind := .template },
    { id := "5", source := "d", target := "e", kind := .template },
    { id := "6", source := "c", target := "f", kind := .message },
    { id := "7", source := "d", target := "f", kind := .message }]

theorem startsUp_ofGraph_sharing :
    (sharing.nodes.map Node.id).Nodup ∧ Naming.violations sharing.nodes = [] ∧
      (ofGraph {} sharing).StartsUp :=
  ⟨by decide +kernel, by decide +kernel,
    startsUp_ofGraph {} (by decide +kernel) (by decide +kernel)⟩

example : (ofGraph {} sharing).statements.filterMap Statement.helper? =
    ["agent1_template_1", "agent1_message_1", "agent1_behaviour_1", "agent1_behaviour_2",
      "a_template_template_1", "a_template_message_1", "a_template_behaviour_1"] := by
  decide +kernel

end Plan

end AgentGraph
