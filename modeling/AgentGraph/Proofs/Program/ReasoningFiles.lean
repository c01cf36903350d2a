import AgentGraph.Proofs.Archive.Packed
import AgentGraph.Proofs.Program.Renamed
import AgentGraph.Proofs.Program.SoundNames
import AgentGraph.Proofs.Program.Startup

/-!
The files of the reasoning programs. The start-up names a file for just the agents that
have one, no two files share a name, and an archive of the program holds them all unless
the main document bears the name of one.
-/

namespace AgentGraph

def Node.hasProgram (node : Node) : Bool :=
  match node.payload with
  | .reasoning agent => !Text.isBlankText agent.program
  | _ => false

def Statement.IsCreation : Statement → Prop
  | .createAgent .. => True
  | _ => False

namespace Plan

/-- Whether the document is the file of the node's reasoning program. -/
def IsReasoningFile (plan : Plan) (node : Node) (document : Document) : Prop :=
  ∃ agent identity, node.payload = .reasoning agent ∧
    Text.isBlankText agent.program = false ∧
    plan.relations.identity? node.id = some identity ∧
    document = ⟨plan.settings.reasoningFileName identity.instanceName, agent.program⟩

/-- Whether the statement makes the agent's instance and passes a third argument just for an
agent with a program, which is then the name of the agent's file among `files`. -/
def IsInstance (plan : Plan) (files : List Document) (node : Node) (statement : Statement) :
    Prop :=
  ∃ identity password file port verifySecurity,
    plan.relations.identity? node.id = some identity ∧
    statement.text = identity.instanceName ++ " = " ++ Statement.call identity.className
      ([Literal.string identity.jid, Literal.string password] ++
        (Option.map Literal.string file).toList ++
        ["port=" ++ port, "verify_security=" ++ verifySecurity]) ∧
    file.isSome = node.hasProgram ∧
    ∀ name, file = some name →
      ∃ document ∈ files, plan.IsReasoningFile node document ∧ document.name = name

/-- Whether the program's files are those that its start-up refers to. -/
structure FilesAgree (plan : Plan) (program : Program) : Prop where
  main : program.main = ⟨plan.settings.entryPoint, plan.mainText⟩
  auxiliary : List.Forall₂ plan.IsReasoningFile (plan.nodes.filter Node.hasProgram)
    program.auxiliary
  instances : ∃ creations rest, plan.statements = creations ++ rest ∧
    List.Forall₂ (plan.IsInstance program.auxiliary) plan.agents creations ∧
    ∀ statement ∈ rest, ¬ statement.IsCreation
  /-- The statements stand at the end of the main document, a line each. -/
  startup : plan.nodes ≠ [] → ∃ front, program.main.content = front ++ "\n\n\n" ++
    "\n".intercalate ("async def main():" ::
      plan.statements.map fun statement => "    " ++ statement.text) ++
    "\n\n\nif __name__ == \"__main__\":\n    spade.run(main())\n"
  nodup : (program.auxiliary.map Document.name).Nodup
  byDefault : plan.settings = {} →
    program.main.name ∉ program.auxiliary.map Document.name

end Plan

/-- Whether packing the program came to what the names of its files allow. -/
structure Program.IsPacked {σ : Type} (program : Program) (entries : σ → List Document)
    (packed : Except String σ) : Prop where
  refused : ∀ name, packed = .error name ↔
    name = program.main.name ∧ program.main.name ∈ program.auxiliary.map Document.name
  holds : ∀ archive, packed = .ok archive →
    entries archive = program.main :: program.auxiliary

namespace Plan

variable {settings : Settings} {graph : Graph} {plan : Plan} {node : Node}

theorem program?_eq_some_iff {payload : Payload} {content : String} :
    program? payload = some content ↔
      ∃ agent, payload = .reasoning agent ∧ Text.isBlankText agent.program = false ∧
        content = agent.program := by
  cases payload with
  | reasoning agent =>
      rw [program?]
      cases blank : Text.isBlankText agent.program with
      | true =>
          refine ⟨nofun, ?_⟩
          rintro ⟨_, ⟨⟩, shown, _⟩
          rw [blank] at shown
          contradiction
      | false =>
          constructor
          · rintro ⟨⟩
            exact ⟨agent, rfl, blank, rfl⟩
          · rintro ⟨_, ⟨⟩, _, rfl⟩
            rfl
  | agent | prompted | behaviour | template | message | note =>
      exact ⟨nofun, fun ⟨_, other, _⟩ => nomatch other⟩

theorem isReasoningFile_of_program? {identity : Identity} {content : String}
    (found : plan.relations.identity? node.id = some identity)
    (isProgram : program? node.payload = some content) :
    plan.IsReasoningFile node
      ⟨plan.settings.reasoningFileName identity.instanceName, content⟩ := by
  obtain ⟨agent, payload, shown, rfl⟩ := program?_eq_some_iff.mp isProgram
  exact ⟨agent, identity, payload, shown, found, rfl⟩

theorem reasoningDocument?_eq_some_iff {document : Document} :
    plan.reasoningDocument? node = some document ↔ plan.IsReasoningFile node document := by
  simp only [reasoningDocument?, Option.bind_eq_bind, Option.bind_eq_some_iff,
    program?_eq_some_iff, IsReasoningFile]
  constructor
  · rintro ⟨_, ⟨agent, payload, shown, rfl⟩, identity, found, same⟩
    injection same with same
    exact ⟨agent, identity, payload, shown, found, same.symm⟩
  · rintro ⟨agent, identity, payload, shown, found, rfl⟩
    exact ⟨_, ⟨agent, payload, shown, rfl⟩, identity, found, rfl⟩

theorem isSome_program? (node : Node) :
    (program? node.payload).isSome = node.hasProgram := by
  unfold Node.hasProgram program?
  cases payload : node.payload with
  | reasoning agent =>
      cases blank : Text.isBlankText agent.program with
      | true => simp [blank]
      | false => simp [blank]
  | agent | prompted | behaviour | template | message | note => rfl

theorem not_isCreation_of_part {statement : Statement} (inside : statement.part ≠ .frame) :
    ¬ statement.IsCreation := by
  cases statement with
  | createAgent => exact absurd rfl inside
  | createEnvelope | setField | setMetadata | createBehaviour | setMessage | addBehaviour
  | startAgent | await | nothing => exact id

theorem not_isCreation_of_mem_agentStatements {agentId : String} {identity : Identity}
    {statement : Statement} (inside : statement ∈ plan.agentStatements agentId identity) :
    ¬ statement.IsCreation := by
  refine not_isCreation_of_part ?_
  rw [agentStatements_eq, List.mem_append, List.mem_append, List.mem_singleton] at inside
  rcases inside with (envelope | attached) | rfl
  · rw [part_of_mem_envelopeStatements envelope]
    decide
  · rw [part_of_mem_attachStatements attached]
    decide
  · exact nofun

theorem statements_eq_creations_append (plan : Plan) :
    ∃ rest, plan.statements = plan.agents.filterMap plan.creation? ++ rest ∧
      ∀ statement ∈ rest, ¬ statement.IsCreation := by
  rw [statements]
  cases agents : plan.agents with
  | nil => exact ⟨[.nothing], rfl, by simp [Statement.IsCreation]⟩
  | cons node rest =>
      refine ⟨_, List.append_assoc .., fun statement inside => ?_⟩
      rcases List.mem_append.mp inside with inside | last
      · obtain ⟨_, _, inside⟩ := List.mem_flatMap.mp inside
        exact not_isCreation_of_mem_agentStatements inside
      · rw [List.mem_singleton.mp last]
        exact id

theorem mainText_eq (some_nodes : plan.nodes ≠ []) :
    ∃ front, plan.mainText = front ++ "\n\n\n" ++ plan.startupText ++
      "\n\n\nif __name__ == \"__main__\":\n    spade.run(main())\n" := by
  refine ⟨"\n\n\n".intercalate
    ([plan.importText] ++ plan.behaviourClassTexts ++ plan.agentClassTexts), ?_⟩
  rw [mainText, List.isEmpty_eq_false_iff.mpr some_nodes, if_neg Bool.false_ne_true, sections,
    String.intercalate_append_of_ne_nil (by simp) (List.cons_ne_nil _ _)]
  apply String.toList_inj.mp
  simp [String.toList_intercalate, List.intercalate]

theorem exists_of_reasoningFile? {identity : Identity} {name : String}
    (inside : node ∈ plan.nodes) (found : plan.relations.identity? node.id = some identity)
    (named : plan.reasoningFile? node.payload identity = some name) :
    ∃ document ∈ plan.program.auxiliary,
      plan.IsReasoningFile node document ∧ document.name = name := by
  obtain ⟨content, isProgram, rfl⟩ := Option.map_eq_some_iff.mp named
  have isFile := isReasoningFile_of_program? found isProgram
  exact ⟨_, List.mem_filterMap.mpr ⟨node, inside, reasoningDocument?_eq_some_iff.mpr isFile⟩,
    isFile, rfl⟩

theorem reasoningFileName_ne (instanceName : String) :
    ({} : Settings).reasoningFileName instanceName ≠ ({} : Settings).entryPoint := by
  intro same
  -- The one ends in `l` whatever stands before, the other in `y`.
  have last := congrArg (fun name : String => name.toList.getLast?) same
  simp [Settings.reasoningFileName, String.toList_append] at last

theorem main_name_not_mem (byDefault : plan.settings = {}) :
    plan.program.main.name ∉ plan.program.auxiliary.map Document.name := by
  intro repeated
  obtain ⟨document, inside, same⟩ := List.mem_map.mp repeated
  obtain ⟨node, _, isFile⟩ := List.mem_filterMap.mp inside
  obtain ⟨_, identity, _, _, _, rfl⟩ := reasoningDocument?_eq_some_iff.mp isFile
  change plan.settings.reasoningFileName identity.instanceName = plan.settings.entryPoint at same
  rw [byDefault] at same
  exact reasoningFileName_ne identity.instanceName same

section Distinct

variable (distinct : (graph.nodes.map Node.id).Nodup)

include distinct

theorem forall₂_reasoningFiles :
    List.Forall₂ (ofGraph settings graph).IsReasoningFile (graph.nodes.filter Node.hasProgram)
      (ofGraph settings graph).program.auxiliary := by
  have collected : (ofGraph settings graph).program.auxiliary =
      (graph.nodes.filter Node.hasProgram).filterMap
        (ofGraph settings graph).reasoningDocument? := by
    refine filterMap_eq_filterMap_filter (fun node without => ?_) graph.nodes
    rw [← isSome_program?, Option.isSome_eq_false_iff, Option.isNone_iff_eq_none] at without
    rw [reasoningDocument?, without]
    rfl
  rw [collected]
  refine forall₂_filterMap_of_forall fun node inside => ?_
  obtain ⟨held, hasProgram⟩ := List.mem_filter.mp inside
  rw [← isSome_program?] at hasProgram
  obtain ⟨content, isProgram⟩ := Option.isSome_iff_exists.mp hasProgram
  obtain ⟨agent, payload, _⟩ := program?_eq_some_iff.mp isProgram
  have isAgent : node.isAgent = true := by
    rw [Node.isAgent, payload]
    rfl
  obtain ⟨identity, found, _⟩ := identity?_of_mem settings distinct held isAgent
  have isFile := isReasoningFile_of_program? found isProgram
  exact ⟨_, reasoningDocument?_eq_some_iff.mpr isFile, isFile⟩

theorem forall₂_instances :
    List.Forall₂
      ((ofGraph settings graph).IsInstance (ofGraph settings graph).program.auxiliary)
      (ofGraph settings graph).agents
      ((ofGraph settings graph).agents.filterMap (ofGraph settings graph).creation?) := by
  refine forall₂_filterMap_of_forall fun node inside => ?_
  obtain ⟨identity, found⟩ := exists_of_mem_agents settings distinct inside
  obtain ⟨held, isAgent⟩ := List.mem_filter.mp inside
  obtain ⟨agent, payload⟩ := Option.isSome_iff_exists.mp isAgent
  have passes : ((ofGraph settings graph).reasoningFile? node.payload identity).isSome =
      node.hasProgram := by
    rw [reasoningFile?, Option.isSome_map, isSome_program?]
  simp only [creation?, payload, found]
  exact ⟨_, rfl, identity, _, _, _, _, found, rfl, passes,
    fun name named => exists_of_reasoningFile? held found named⟩

theorem auxiliary_names_nodup (rules : Naming.IsValid graph.nodes) :
    ((ofGraph settings graph).program.auxiliary.map Document.name).Nodup := by
  -- Files of one name belong to agents of one name, and those are the same node.
  have separates := (@identities_separates settings graph rules).1
  rw [List.Nodup, List.pairwise_map, program, List.pairwise_filterMap]
  refine (List.pairwise_map.mp distinct).imp fun different first isFirst second isSecond same => ?_
  obtain ⟨_, identity, _, _, found, rfl⟩ := reasoningDocument?_eq_some_iff.mp isFirst
  obtain ⟨_, other, _, _, otherFound, rfl⟩ := reasoningDocument?_eq_some_iff.mp isSecond
  have sameName : identity.instanceName = other.instanceName := by
    simpa [Settings.reasoningFileName] using same
  exact different (separates _ _ _ _ found otherFound sameName)

theorem filesAgree_ofGraph (rules : Naming.IsValid graph.nodes) :
    (ofGraph settings graph).FilesAgree (ofGraph settings graph).program := by
  obtain ⟨rest, split, others⟩ := (ofGraph settings graph).statements_eq_creations_append
  exact {
    main := rfl
    auxiliary := forall₂_reasoningFiles distinct
    instances := ⟨_, rest, split, forall₂_instances distinct, others⟩
    startup := mainText_eq
    nodup := auxiliary_names_nodup distinct rules
    byDefault := fun byDefault => main_name_not_mem byDefault }

end Distinct

end Plan

namespace Program

theorem isPacked_pack {σ : Type} {archiver : Archiver σ} (lawful : archiver.IsLawful)
    {program : Program} (distinct : (program.auxiliary.map Document.name).Nodup) :
    program.IsPacked archiver.entries (archiver.pack (program.main :: program.auxiliary)) where
  refused name := lawful.pack_cons_eq_error_iff program.main distinct name
  holds _ packed := lawful.entries_of_pack packed

/-- What a valid graph's program refers to is there, and all of it goes into one archive
with whatever library writes it. -/
theorem filesAgree_generate (settings : Settings) {graph : Graph}
    (distinct : (graph.nodes.map Node.id).Nodup)
    (valid : Naming.violations graph.nodes = [])
    {σ : Type} {archiver : Archiver σ} (lawful : archiver.IsLawful) :
    ∃ program, generate settings graph = .ok program ∧
      (Plan.ofGraph settings graph).FilesAgree program ∧
      program.IsPacked Archive.entries program.archive ∧
      program.IsPacked archiver.entries
        (archiver.pack (program.main :: program.auxiliary)) := by
  have rules := (Naming.violations_eq_nil_iff graph.nodes).mp valid
  have agree := @Plan.filesAgree_ofGraph settings graph distinct rules
  refine ⟨ofGraph settings graph, ?_, agree, ?_, ?_⟩
  · rw [generate, valid]
  · exact isPacked_pack Archive.isLawful_archiver agree.nodup
  · exact isPacked_pack lawful agree.nodup

def deliberating : Graph where
  nodes := [⟨"a", none, .reasoning { program := "!start." }⟩,
    ⟨"b", none, .reasoning { agent := { instanceName := "bob" }, program := "\n+!go." }⟩,
    ⟨"c", none, .reasoning { program := " \n" }⟩]

theorem filesAgree_generate_deliberating :
    (deliberating.nodes.map Node.id).Nodup ∧ Naming.violations deliberating.nodes = [] ∧
      Archive.archiver.IsLawful ∧
      ∃ program, generate {} deliberating = .ok program ∧
        (Plan.ofGraph {} deliberating).FilesAgree program ∧
        program.IsPacked Archive.entries program.archive ∧
        program.IsPacked Archive.archiver.entries
          (Archive.archiver.pack (program.main :: program.auxiliary)) :=
  ⟨by decide +kernel, by decide +kernel, Archive.isLawful_archiver,
    filesAgree_generate {} (by decide +kernel) (by decide +kernel) Archive.isLawful_archiver⟩

/-- A main document under the name of a reasoning program is refused. -/
example : ((generate { entryPoint := "bob_program.asl" } deliberating).toOption.map
    fun program => program.archive.toOption.isNone) = some true := by
  decide +kernel

end Program

end AgentGraph
