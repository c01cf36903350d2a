import AgentGraph.Proofs.Program.ClassLines
import AgentGraph.Proofs.Program.Heirs

/-!
Data does not leave its literals: the main document of a graph without typed code stays
the same, contents of literals aside, whatever is typed as data.
-/

namespace AgentGraph

open Naming Literal

/-- Whether all names keep the rules and are identifiers, and no code was typed. -/
structure Graph.IsCodeless (graph : Graph) : Prop where
  valid : violations graph.nodes = []
  identifiers : ∀ name ∈ agentClasses graph.nodes, isIdentifier name = true
  codeless : ∀ node ∈ graph.nodes, node.payload.isCodeless = true

namespace Graph.IsCodeless

variable {settings : Settings} {graph : Graph} (codeless : graph.IsCodeless)

include codeless

theorem rules : IsValid graph.nodes := (violations_eq_nil_iff graph.nodes).mp codeless.valid

theorem rules_erased : IsValid (graph.nodes.map Node.erased) := by
  apply (violations_eq_nil_iff _).mp
  rw [Node.keepsNames_erased.violations]
  exact codeless.valid

theorem plain_names {agentId : String} {identity : Identity}
    (found : (Plan.ofGraph settings graph).relations.identity? agentId = some identity) :
    Plain identity.instanceName ∧ Plain identity.className := by
  obtain ⟨node, inside, _, identifies⟩ := Plan.identity?_ofGraph found
  exact ⟨(identifies.instanceName_isWord codeless.rules inside).plain,
    (identifies.className_isWord codeless.identifiers inside).plain⟩

theorem plain_behaviourClass {behaviourId className : String}
    (found : (Plan.ofGraph settings graph).behaviourClasses.find? behaviourId =
      some className) : Plain className := by
  obtain ⟨node, inside, _, _, resolved⟩ := Plan.behaviourClass_ofGraph found
  refine (resolved.isWord (by decide) fun name typed => ?_).plain
  have isName : name ∈ behaviourClasses graph.nodes :=
    List.mem_filterMap.mpr ⟨node, inside, typed⟩
  exact isWord_of_isIdentifier (codeless.rules.behaviourClass name isName).1

end Graph.IsCodeless

/-- Two partial functions that agree up to a relation on a list. -/
theorem forall₂_filterMap {α β : Type} {related : β → β → Prop} {f g : α → Option β}
    {members : List α} (agree : ∀ member ∈ members, Option.Rel related (f member) (g member)) :
    List.Forall₂ related (members.filterMap f) (members.filterMap g) := by
  induction members with
  | nil => exact .nil
  | cons head members ih =>
      have rest := ih fun member inside => agree member (List.mem_cons_of_mem _ inside)
      have here := agree head List.mem_cons_self
      rw [List.filterMap_cons, List.filterMap_cons]
      generalize f head = first at here
      generalize g head = second at here
      cases here with
      | none => exact rest
      | some here => exact .cons here rest

theorem forall₂_flatMap {α β : Type} {related : β → β → Prop} {f g : α → List β}
    {members : List α} (agree : ∀ member ∈ members, List.Forall₂ related (f member) (g member)) :
    List.Forall₂ related (members.flatMap f) (members.flatMap g) := by
  induction members with
  | nil => exact .nil
  | cons head members ih =>
      rw [List.flatMap_cons, List.flatMap_cons]
      exact List.rel_append (agree head List.mem_cons_self)
        (ih fun member inside => agree member (List.mem_cons_of_mem _ inside))

theorem Envelope.field_erased (envelope : Envelope) (field : EnvelopeField) :
    envelope.erased.field field = erasedField (envelope.field field) := by
  cases field <;> rfl

theorem Envelope.statements_erased (envelope : Envelope) (kind : EnvelopeKind) {name : String}
    (plain : Plain name) :
    List.Forall₂ Statement.LineAlike (envelope.statements kind name)
      (envelope.erased.statements kind name) := by
  unfold Envelope.statements
  simp only [field_erased, isBlankText_erasedField]
  refine List.rel_append (List.rel_append ?_ ?_) ?_
  · exact .cons (Statement.createEnvelope_alike plain kind) .nil
  · rw [List.forall₂_map_left_iff, List.forall₂_map_right_iff]
    exact List.forall₂_same.mpr fun field _ => Statement.setField_alike plain field _ _
  · rw [List.forall₂_map_left_iff, List.forall₂_map_right_iff]
    exact List.forall₂_same.mpr fun entry _ => Statement.setMetadata_alike plain _ _

theorem Import.ofNodes_erased (nodes : List Node) :
    ofNodes (nodes.map Node.erased) = ofNodes nodes := by
  apply ofNodes_change Node.keepsNames_erased
  · exact fun node => node.payload.isReasoning_erased
  · intro node
    rw [Node.erased, Payload.behaviour?_erased]
  · intro node
    rw [Node.erased, Payload.behaviour?_erased]

namespace Plan

variable (settings : Settings) (graph : Graph)

theorem behaviourClasses_erased :
    (ofGraph settings graph.erased).behaviourClasses =
      (ofGraph settings graph).behaviourClasses := by
  have classes : (Relations.build settings graph.erased.nodes
      graph.erased.edges).identities.values.map Identity.className =
        (Relations.build settings graph.nodes graph.edges).identities.values.map
          Identity.className := by
    rw [Relations.identities_build, Relations.identities_build, Graph.erased,
      Relations.identitiesOf_erased]
    simp only [Dict.values, Dict.map, List.map_map]
    rfl
  rw [ofGraph, ofGraph, build, build, classes]
  exact (congrArg (fun names => resolveBehaviours _ (_ ++ names) _)
    (Node.keepsNames_erased.behaviourClasses _)).trans
      (Node.keepsNames_erased.resolveBehaviours _ _ _)

theorem templateNumbers_erased :
    (ofGraph settings graph.erased).templateNumbers =
      (ofGraph settings graph).templateNumbers :=
  Node.keepsNames_erased.numbers Node.keepsNames_erased.template graph.nodes

theorem messageNumbers_erased :
    (ofGraph settings graph.erased).messageNumbers = (ofGraph settings graph).messageNumbers :=
  Node.keepsNames_erased.numbers Node.keepsNames_erased.message graph.nodes

theorem payload?_erased (id : String) :
    (ofGraph settings graph.erased).payload? id =
      ((ofGraph settings graph).payload? id).map Payload.erased := by
  have found := Node.keepsNames_erased.find? graph.nodes id
  unfold payload?
  rw [Option.map_map, show (ofGraph settings graph.erased).nodes =
    graph.nodes.map Node.erased from rfl, found, Option.map_map]
  rfl

theorem agents_erased :
    (ofGraph settings graph.erased).agents =
      (ofGraph settings graph).agents.map Node.erased :=
  Node.keepsNames_erased.agents graph.nodes

theorem identity?_erased (agentId : String) :
    (ofGraph settings graph.erased).relations.identity? agentId =
      ((ofGraph settings graph).relations.identity? agentId).map (Identity.erased settings) :=
  Relations.identity?_erased settings graph.nodes graph.edges agentId

theorem heirs_erased :
    (ofGraph settings graph.erased).heirs =
      (ofGraph settings graph).heirs.map (Heir.change Node.erased) := by
  unfold heirs
  rw [agents_erased, List.length_map]
  exact Node.keepsNames_erased.inheritanceOrder
    (Node.keepsNames_erased.parentsOf settings graph.nodes graph.edges) _ _ _

theorem classNames_erased (agentIds : List String) :
    (ofGraph settings graph.erased).classNames agentIds =
      (ofGraph settings graph).classNames agentIds := by
  unfold classNames
  rw [funext (identity?_erased settings graph), List.map_filterMap, List.map_filterMap]
  simp only [Option.map_map]
  rfl

theorem boundTemplate?_erased :
    (ofGraph settings graph.erased).boundTemplate? =
      (ofGraph settings graph).boundTemplate? := by
  funext behaviourId
  unfold boundTemplate?
  rw [templateNumbers_erased]
  exact congrArg (Option.filter _)
    (congrFun (Node.keepsNames_erased.template? settings graph.nodes graph.edges) behaviourId)

theorem boundMessage?_erased :
    (ofGraph settings graph.erased).boundMessage? = (ofGraph settings graph).boundMessage? := by
  funext behaviourId
  unfold boundMessage?
  rw [messageNumbers_erased]
  exact congrArg (Option.filter _)
    (congrFun (Node.keepsNames_erased.message? settings graph.nodes graph.edges) behaviourId)

variable {graph} (codeless : graph.IsCodeless)

include codeless

theorem behaviourClassTexts_erased :
    List.Forall₂ Alike (ofGraph settings graph).behaviourClassTexts
      (ofGraph settings graph.erased).behaviourClassTexts := by
  have same : (ofGraph settings graph.erased).behaviourClassTexts =
      (ofGraph settings graph).behaviourClassTexts := by
    unfold behaviourClassTexts
    rw [behaviourClasses_erased, show (ofGraph settings graph.erased).nodes =
      graph.nodes.map Node.erased from rfl, List.filterMap_map]
    congr 1
    funext node
    rw [Function.comp_apply, Node.erased, Payload.behaviour?_erased]
  rw [same]
  apply forall₂_of_whole
  intro text inside
  obtain ⟨node, held, made⟩ := List.mem_filterMap.mp inside
  simp only [Option.bind_eq_bind, Option.bind_eq_some_iff] at made
  obtain ⟨behaviour, isBehaviour, className, found, same⟩ := made
  injection same with same
  have noCode := codeless.codeless node held
  cases payload : node.payload with
  | behaviour settings =>
      rw [payload] at isBehaviour noCode
      injection isBehaviour with sameBehaviour
      rw [← same, ← sameBehaviour]
      exact Behaviour.classText_whole (Option.isNone_iff_eq_none.mp noCode)
        (codeless.plain_behaviourClass found)
  | agent | reasoning | prompted | template | message | note =>
      rw [payload] at isBehaviour
      contradiction

theorem length_friendsOf_erased (agentId : String) :
    ((ofGraph settings graph).relations.friendsOf agentId).length =
      ((ofGraph settings graph.erased).relations.friendsOf agentId).length :=
  (Relations.length_friendsOf_erased settings graph.edges codeless.rules
    codeless.rules_erased agentId).symm

theorem plain_classNames {agentIds : List String} :
    ∀ name ∈ (ofGraph settings graph).classNames agentIds, Plain name := by
  intro name inside
  obtain ⟨identity, held, rfl⟩ := List.mem_map.mp inside
  obtain ⟨agentId, _, found⟩ := List.mem_filterMap.mp held
  exact (codeless.plain_names found).2

theorem agentClassTexts_erased :
    List.Forall₂ Alike (ofGraph settings graph).agentClassTexts
      (ofGraph settings graph.erased).agentClassTexts := by
  unfold agentClassTexts
  rw [heirs_erased, List.filterMap_map]
  apply forall₂_filterMap
  intro heir inside
  obtain ⟨held, isAgent⟩ := mem_of_heirs inside
  obtain ⟨shared, given⟩ := Option.isSome_iff_exists.mp isAgent
  have erased : (ofGraph settings graph.erased).relations.identity? heir.node.id =
      ((ofGraph settings graph).relations.identity? heir.node.id).map
        (Identity.erased settings) := identity?_erased settings graph heir.node.id
  simp only [Function.comp_apply, Heir.change, Node.erased, erased, classNames_erased]
  cases found : (ofGraph settings graph).relations.identity? heir.node.id with
  | none => exact .none
  | some identity =>
      exact .some (Payload.classText_erased (codeless.codeless _ held) given
        (codeless.plain_names found).2 (length_friendsOf_erased settings codeless _)
        (plain_classNames settings codeless))

omit codeless in
theorem plain_helper {agent kind : String} (plain : Plain agent) (kindPlain : Plain kind)
    (number : Nat) : Plain (helper agent kind number) :=
  (((plain.append (by decide)).append kindPlain).append (by decide)).append (plain_repr number)

theorem creation?_erased (node : Node) :
    Option.Rel Statement.LineAlike ((ofGraph settings graph).creation? node)
      ((ofGraph settings graph.erased).creation? node.erased) := by
  unfold creation? reasoningFile?
  rw [identity?_erased, Node.erased, Payload.agent?_erased, Payload.program?_erased]
  cases node.payload.agent? with
  | none => exact .none
  | some agent =>
      simp only [Option.map_some, Option.bind_eq_bind, Option.bind_some]
      cases found : (ofGraph settings graph).relations.identity? node.id with
      | none => exact .none
      | some identity =>
          obtain ⟨named, classed⟩ := codeless.plain_names found
          exact .some (Statement.createAgent_alike named classed _ _ _ _ _ _)

omit codeless in
theorem templateStatements_erased {agent : String} (plain : Plain agent) (templateId : String) :
    List.Forall₂ Statement.LineAlike
      ((ofGraph settings graph).templateStatements agent templateId)
      ((ofGraph settings graph.erased).templateStatements agent templateId) := by
  unfold templateStatements templateVariable
  rw [payload?_erased, templateNumbers_erased]
  cases (ofGraph settings graph).payload? templateId with
  | none => exact .nil
  | some payload =>
      cases payload with
      | template envelope =>
          exact envelope.statements_erased .template (plain_helper plain (by decide) _)
      | agent | reasoning | prompted | behaviour | message | note => exact .nil

omit codeless in
theorem messageStatements_erased {agent : String} (plain : Plain agent) (messageId : String) :
    List.Forall₂ Statement.LineAlike
      ((ofGraph settings graph).messageStatements agent messageId)
      ((ofGraph settings graph.erased).messageStatements agent messageId) := by
  unfold messageStatements messageVariable
  rw [payload?_erased, messageNumbers_erased]
  cases (ofGraph settings graph).payload? messageId with
  | none => exact .nil
  | some payload =>
      cases payload with
      | message envelope =>
          exact envelope.statements_erased .message (plain_helper plain (by decide) _)
      | agent | reasoning | prompted | behaviour | template | note => exact .nil

theorem behaviourStatements_erased {agent : String} (plain : Plain agent) (place : Nat)
    (behaviourId : String) :
    List.Forall₂ Statement.LineAlike
      ((ofGraph settings graph).behaviourStatements agent place behaviourId)
      ((ofGraph settings graph.erased).behaviourStatements agent place behaviourId) := by
  have templateVariable : (ofGraph settings graph.erased).templateVariable =
      (ofGraph settings graph).templateVariable := by
    funext agent templateId
    rw [Plan.templateVariable, templateNumbers_erased, Plan.templateVariable]
  have messageVariable : (ofGraph settings graph.erased).messageVariable =
      (ofGraph settings graph).messageVariable := by
    funext agent messageId
    rw [Plan.messageVariable, messageNumbers_erased, Plan.messageVariable]
  unfold behaviourStatements
  rw [payload?_erased, behaviourClasses_erased, boundTemplate?_erased, boundMessage?_erased,
    templateVariable, messageVariable]
  cases (ofGraph settings graph).payload? behaviourId with
  | none => exact .nil
  | some payload =>
      cases payload with
      | behaviour behaviour =>
          simp only [Option.map_some, Payload.erased]
          cases found : (ofGraph settings graph).behaviourClasses.find? behaviourId with
          | none => exact .nil
          | some className =>
              have variable_plain : Plain (behaviourVariable agent place) :=
                plain_helper plain (by decide) _
              refine List.rel_append (List.rel_append ?_ ?_) ?_
              · refine .cons (Statement.createBehaviour_alike variable_plain
                  (codeless.plain_behaviourClass found) ?_) .nil
                apply behaviour.arguments_plain
                intro name isTemplate
                obtain ⟨templateId, _, rfl⟩ := Option.map_eq_some_iff.mp isTemplate
                exact plain_helper plain (by decide) _
              · cases (ofGraph settings graph).boundMessage? behaviourId with
                | none => exact .nil
                | some messageId =>
                    exact .cons (Statement.setMessage_alike variable_plain
                      (plain_helper plain (by decide) _)) .nil
              · exact .cons (Statement.addBehaviour_alike plain variable_plain) .nil
      | agent | reasoning | prompted | template | message | note => exact .nil

theorem agentStatements_erased {agentId : String} {identity : Identity}
    (found : (ofGraph settings graph).relations.identity? agentId = some identity) :
    List.Forall₂ Statement.LineAlike
      ((ofGraph settings graph).agentStatements agentId identity)
      ((ofGraph settings graph.erased).agentStatements agentId (identity.erased settings)) := by
  obtain ⟨plain, _⟩ := codeless.plain_names found
  have behaviours : (ofGraph settings graph.erased).relations.behavioursOf =
      (ofGraph settings graph).relations.behavioursOf :=
    Node.keepsNames_erased.behavioursOf settings graph.nodes graph.edges
  have templates : (ofGraph settings graph.erased).relations.templatesOf =
      (ofGraph settings graph).relations.templatesOf :=
    Node.keepsNames_erased.templatesOf settings graph.nodes graph.edges
  have messages : (ofGraph settings graph.erased).messagesOf =
      (ofGraph settings graph).messagesOf := by
    funext agentId
    rw [messagesOf, boundMessage?_erased, behaviours, messagesOf]
  unfold agentStatements
  rw [behaviours, templates, messages]
  refine List.rel_append (List.rel_append (List.rel_append ?_ ?_) ?_) ?_
  · exact forall₂_flatMap fun templateId _ =>
      templateStatements_erased settings plain templateId
  · exact forall₂_flatMap fun messageId _ =>
      messageStatements_erased settings plain messageId
  · exact forall₂_flatMap fun entry _ =>
      behaviourStatements_erased settings codeless plain entry.2 entry.1
  · exact .cons (Statement.startAgent_alike plain) .nil

omit codeless in
theorem identified_erased :
    (ofGraph settings graph.erased).identified =
      (ofGraph settings graph).identified.map fun entry =>
        (entry.1, entry.2.erased settings) := by
  unfold identified
  rw [agents_erased, List.filterMap_map, List.map_filterMap]
  congr 1
  funext node
  simp only [Function.comp_apply, Node.erased, identity?_erased, Option.map_map]
  rfl

theorem statements_erased :
    List.Forall₂ Statement.LineAlike (ofGraph settings graph).statements
      (ofGraph settings graph.erased).statements := by
  have known : ∀ entry ∈ (ofGraph settings graph).identified,
      (ofGraph settings graph).relations.identity? entry.1 = some entry.2 := by
    intro entry inside
    obtain ⟨node, _, named⟩ := List.mem_filterMap.mp inside
    obtain ⟨identity, found, rfl⟩ := Option.map_eq_some_iff.mp named
    exact found
  unfold statements
  rw [agents_erased, List.isEmpty_map]
  split
  · exact .cons (.of_text (Whole.alike (by decide))) .nil
  · rw [identified_erased, List.filterMap_map, List.flatMap_map, List.map_map]
    refine List.rel_append (List.rel_append ?_ ?_) ?_
    · exact forall₂_filterMap fun node _ => creation?_erased settings codeless node
    · exact forall₂_flatMap fun entry inside =>
        agentStatements_erased settings codeless (known entry inside)
    · refine .cons (Statement.await_alike fun name inside => ?_) .nil
      obtain ⟨entry, held, rfl⟩ := List.mem_map.mp inside
      exact (codeless.plain_names (known entry held)).1

omit codeless in
theorem importText_whole (plan : Plan) : Whole plan.importText := by
  have newline : Whole "\n" := by decide
  have imports : Whole ("\n".intercalate ((Import.ofNodes plan.nodes).map Import.text)) := by
    apply newline.intercalate
    intro text inside
    obtain ⟨imported, _, rfl⟩ := List.mem_map.mp inside
    exact imported.text_whole
  have header : Whole (headerText ++ "\n") := by decide +kernel
  unfold importText
  dsimp only
  split
  · exact header.append imports
  · exact imports

omit codeless in
theorem importText_erased :
    (ofGraph settings graph.erased).importText = (ofGraph settings graph).importText := by
  unfold importText
  rw [show Import.ofNodes (ofGraph settings graph.erased).nodes =
    Import.ofNodes (ofGraph settings graph).nodes from Import.ofNodes_erased graph.nodes]
  rfl

theorem startupText_erased :
    Alike (ofGraph settings graph).startupText (ofGraph settings graph.erased).startupText := by
  have newline : Whole "\n" := by decide
  have header : Whole "async def main():" := by decide
  refine Alike.intercalate newline (.cons header.alike ?_)
  rw [List.forall₂_map_left_iff, List.forall₂_map_right_iff]
  exact statements_erased settings codeless

theorem mainText_erased :
    Alike (ofGraph settings graph).mainText (ofGraph settings graph.erased).mainText := by
  have gap : Whole "\n\n\n" := by decide
  have newline : Whole "\n" := by decide
  have ending : Whole "if __name__ == \"__main__\":\n    spade.run(main())" := by decide
  have sections : List.Forall₂ Alike (ofGraph settings graph).sections
      (ofGraph settings graph.erased).sections := by
    unfold sections
    rw [importText_erased]
    refine List.rel_append (List.rel_append (List.rel_append ?_ ?_) ?_) ?_
    · exact .cons (importText_whole _).alike .nil
    · exact behaviourClassTexts_erased settings codeless
    · exact agentClassTexts_erased settings codeless
    · exact .cons (startupText_erased settings codeless) (.cons ending.alike .nil)
  unfold mainText
  rw [show (ofGraph settings graph.erased).nodes = graph.nodes.map Node.erased from rfl,
    List.isEmpty_map, show (ofGraph settings graph).nodes = graph.nodes from rfl]
  split
  · exact Whole.alike (by decide)
  · exact (Alike.intercalate gap sections).append newline.alike

end Plan

theorem Graph.isCodeless_erased {graph : Graph} :
    graph.erased.IsCodeless ↔ graph.IsCodeless := by
  have keeps := Node.keepsNames_erased
  have payloads : (∀ node ∈ graph.erased.nodes, node.payload.isCodeless = true) ↔
      ∀ node ∈ graph.nodes, node.payload.isCodeless = true := by
    rw [Graph.erased, List.forall_mem_map]
    simp only [Node.erased, Payload.isCodeless_erased]
  constructor
  · rintro ⟨valid, identifiers, codeless⟩
    rw [Graph.erased, keeps.violations] at valid
    rw [Graph.erased, keeps.agentClasses] at identifiers
    exact ⟨valid, identifiers, payloads.mp codeless⟩
  · rintro ⟨valid, identifiers, codeless⟩
    refine ⟨?_, ?_, payloads.mpr codeless⟩
    · rwa [Graph.erased, keeps.violations]
    · rwa [Graph.erased, keeps.agentClasses]

/-- Two graphs without typed code that differ in nothing but data have programs that differ
in nothing but the contents of literals. -/
theorem Program.mask_generate (settings : Settings) {graph other : Graph}
    (codeless : graph.IsCodeless) (same : graph.erased = other.erased) :
    ∃ program another, generate settings graph = .ok program ∧
      generate settings other = .ok another ∧
        mask program.main.content = mask another.main.content := by
  have otherCodeless : other.IsCodeless := by
    rw [← Graph.isCodeless_erased, ← same, Graph.isCodeless_erased]
    exact codeless
  refine ⟨ofGraph settings graph, ofGraph settings other, ?_, ?_, ?_⟩
  · rw [generate, codeless.valid]
  · rw [generate, otherCodeless.valid]
  · have first := Plan.mainText_erased settings codeless
    have second := Plan.mainText_erased settings otherCodeless
    rw [← same] at second
    exact first.mask.trans second.mask.symm

/-- Two friends, one of which sends a message. -/
def Graph.greeting (host body : String) : Graph where
  nodes := [⟨"a", none, .agent { instanceName := "alice", host }⟩,
    ⟨"b", none, .agent { className := "Bob" }⟩,
    ⟨"c", none, .behaviour {}⟩,
    ⟨"d", none, .message { recipient := "bob", body }⟩]
  edges := [{ id := "e", source := "a", target := "b", kind := .friendship },
    { id := "f", source := "a", target := "c", kind := .agentBehaviour },
    { id := "g", source := "c", target := "d", kind := .message }]

theorem Program.mask_generate_greeting :
    (Graph.greeting "" "hello").IsCodeless ∧
      (Graph.greeting "" "hello").erased = (Graph.greeting "\\" "\"); exit(\"\n").erased ∧
        ∃ program another, generate {} (Graph.greeting "" "hello") = .ok program ∧
          generate {} (Graph.greeting "\\" "\"); exit(\"\n") = .ok another ∧
            mask program.main.content = mask another.main.content := by
  have codeless : (Graph.greeting "" "hello").IsCodeless :=
    ⟨by decide +kernel, by decide +kernel, by decide +kernel⟩
  have same : (Graph.greeting "" "hello").erased =
      (Graph.greeting "\\" "\"); exit(\"\n").erased := by decide +kernel
  exact ⟨codeless, same, mask_generate {} codeless same⟩

end AgentGraph
