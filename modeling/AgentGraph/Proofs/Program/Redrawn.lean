import AgentGraph.Proofs.Program.Regrouped
import AgentGraph.Proofs.Program.RenamedGraph
import Mathlib.Logic.Relation

/-!
Drawings of one graph. The program of a graph depends neither on the ids and the positions of
its nodes, nor on how nodes of different roles are mixed, nor on its notes.
-/

namespace AgentGraph

/-- The renaming on `ids`; other ids get a prefix that is longer than every renamed one. -/
def extendRenaming (ids : List String) (rename : String → String) (id : String) : String :=
  if id ∈ ids then rename id
  else String.ofList ('_' :: (ids.map fun id => (rename id).toList).flatten) ++ id

section Extension

variable {ids : List String} {rename : String → String} {first second : String}

theorem extendRenaming_of_mem (inside : first ∈ ids) :
    extendRenaming ids rename first = rename first := if_pos inside

theorem extendRenaming_ne (inside : first ∈ ids) (outside : second ∉ ids) :
    extendRenaming ids rename first ≠ extendRenaming ids rename second := by
  intro same
  rw [extendRenaming_of_mem inside, extendRenaming, if_neg outside] at same
  have listed : (rename first).toList ∈ ids.map fun id => (rename id).toList :=
    List.mem_map_of_mem inside
  have short := (List.sublist_flatten_of_mem listed).length_le
  rw [same, String.toList_append, String.toList_ofList, List.length_append,
    List.length_cons] at short
  omega

theorem extendRenaming_injective
    (apart : ∀ first ∈ ids, ∀ second ∈ ids, rename first = rename second → first = second) :
    Function.Injective (extendRenaming ids rename) := by
  intro first second same
  by_cases firstInside : first ∈ ids
  · by_cases secondInside : second ∈ ids
    · rw [extendRenaming_of_mem firstInside, extendRenaming_of_mem secondInside] at same
      exact apart first firstInside second secondInside same
    · exact absurd same (extendRenaming_ne firstInside secondInside)
  · by_cases secondInside : second ∈ ids
    · exact absurd same.symm (extendRenaming_ne secondInside firstInside)
    · rw [extendRenaming, extendRenaming, if_neg firstInside, if_neg secondInside] at same
      exact (String.append_right_inj _).mp same

end Extension

def Node.renamed (rename : String → String) (node : Node) : Node := { node with id := rename node.id }

def Node.moved (place : Node → Option Position) (node : Node) : Node :=
  { node with position := place node }

namespace Graph

def mentioned (graph : Graph) : List String :=
  graph.nodes.map Node.id ++ graph.edges.flatMap fun edge => [edge.source, edge.target]

def renamed (rename : String → String) (label : Edge → String) (graph : Graph) : Graph where
  nodes := graph.nodes.map (Node.renamed rename)
  edges := graph.edges.map (Edge.renamed rename label)

/-- The changes to a graph that show in its drawing only. -/
inductive Redrawn : Graph → Graph → Prop where
  | rename {graph : Graph} {rename : String → String} (label : Edge → String)
      (apart : ∀ first ∈ graph.mentioned, ∀ second ∈ graph.mentioned,
        rename first = rename second → first = second) :
      Redrawn graph (graph.renamed rename label)
  | move (nodes : List Node) (edges : List Edge) (place : Node → Option Position) :
      Redrawn ⟨nodes, edges⟩ ⟨nodes.map (Node.moved place), edges⟩
  | reorder {nodes others : List Node} (edges : List Edge) (perm : others.Perm nodes)
      (order : ∀ role ≠ Role.note, Node.ofRole role others = Node.ofRole role nodes) :
      Redrawn ⟨nodes, edges⟩ ⟨others, edges⟩
  | addNote (before after : List Node) (edges : List Edge) {note : Node}
      (isNote : note.payload.role = .note) (fresh : note.id ∉ (before ++ after).map Node.id)
      (inhabited : before ++ after ≠ []) :
      Redrawn ⟨before ++ after, edges⟩ ⟨before ++ note :: after, edges⟩

variable {graph other : Graph}

theorem renamed_extendRenaming (rename : String → String) (label : Edge → String) :
    graph.renamed (extendRenaming graph.mentioned rename) label = graph.renamed rename label := by
  unfold renamed
  congr 1
  · apply List.map_congr_left
    intro node inside
    have mentioned : node.id ∈ graph.mentioned :=
      List.mem_append_left _ (List.mem_map_of_mem inside)
    rw [Node.renamed, Node.renamed, extendRenaming_of_mem mentioned]
  · apply List.map_congr_left
    intro edge inside
    have mentioned (id : String) (isEnd : id ∈ [edge.source, edge.target]) : id ∈ graph.mentioned :=
      List.mem_append_right _ (List.mem_flatMap.mpr ⟨edge, inside, isEnd⟩)
    rw [Edge.renamed, Edge.renamed, extendRenaming_of_mem (mentioned _ (by simp)),
      extendRenaming_of_mem (mentioned _ (by simp))]

theorem Redrawn.nodup_iff (redrawn : Redrawn graph other) :
    (other.nodes.map Node.id).Nodup ↔ (graph.nodes.map Node.id).Nodup := by
  cases redrawn with
  | @rename _ rename label apart =>
      have ids : (graph.renamed (extendRenaming graph.mentioned rename) label).nodes.map Node.id =
          (graph.nodes.map Node.id).map (extendRenaming graph.mentioned rename) := by
        rw [renamed, List.map_map, List.map_map]
        rfl
      rw [← renamed_extendRenaming, ids, List.nodup_map_iff (extendRenaming_injective apart)]
  | move nodes edges place =>
      rw [List.map_map]
      rfl
  | reorder edges perm order => exact (perm.map Node.id).nodup_iff
  | addNote before after edges isNote fresh inhabited =>
      rw [List.map_append] at fresh ⊢
      rw [List.map_cons, List.nodup_middle, List.nodup_cons, List.map_append]
      exact and_iff_right fresh

theorem nodup_iff_of_eqvGen (redrawn : Relation.EqvGen Redrawn graph other) :
    (other.nodes.map Node.id).Nodup ↔ (graph.nodes.map Node.id).Nodup := by
  induction redrawn with
  | rel graph other step => exact step.nodup_iff
  | refl graph => exact Iff.rfl
  | symm graph other _ ih => exact ih.symm
  | trans graph other third _ _ first second => exact second.trans first

theorem Redrawn.regrouped_or_renamed (redrawn : Redrawn graph other)
    (distinct : (graph.nodes.map Node.id).Nodup) :
    (Node.Regrouped graph.nodes other.nodes ∧ other.edges = graph.edges) ∨
      ∃ (rename : String → String) (change : Node → Node) (label : Edge → String),
        Function.Injective rename ∧ Node.Renames rename change ∧
          other = ⟨graph.nodes.map change, graph.edges.map (Edge.renamed rename label)⟩ := by
  have stillDistinct := redrawn.nodup_iff.mpr distinct
  cases redrawn with
  | @rename _ rename label apart =>
      exact .inr ⟨extendRenaming graph.mentioned rename, Node.renamed _, label,
        extendRenaming_injective apart, ⟨fun _ => rfl, fun _ => rfl⟩,
        (renamed_extendRenaming rename label).symm⟩
  | move nodes edges place =>
      have kept : Edge.renamed id Edge.id = id := rfl
      exact .inr ⟨id, Node.moved place, Edge.id, Function.injective_id,
        ⟨fun _ => rfl, fun _ => rfl⟩, by rw [kept, List.map_id]⟩
  | reorder edges perm order =>
      exact .inl ⟨⟨distinct, stillDistinct, perm.isEmpty_eq, order⟩, rfl⟩
  | @addNote before after edges note isNote fresh inhabited =>
      refine .inl ⟨⟨distinct, stillDistinct, ?_, fun role visible => ?_⟩, rfl⟩
      · rw [List.isEmpty_eq_false_iff.mpr inhabited]
        exact List.isEmpty_eq_false_iff.mpr (List.append_ne_nil_of_right_ne_nil _ (List.cons_ne_nil _ _))
      · have hidden := Node.ofRole_cons_of_ne (isNote ▸ visible.symm : note.payload.role ≠ role) after
        unfold Node.ofRole at hidden ⊢
        rw [List.filter_append, hidden, List.filter_append]

end Graph

namespace Program

variable {graph other : Graph} (settings : Settings)

theorem mapError_generate_congr (program : ofGraph settings other = ofGraph settings graph)
    (number : (Naming.violations other.nodes).length = (Naming.violations graph.nodes).length) :
    (generate settings other).mapError List.length =
      (generate settings graph).mapError List.length := by
  unfold generate
  cases given : Naming.violations graph.nodes with
  | nil =>
      rw [given, List.length_nil, List.length_eq_zero_iff] at number
      rw [number, program]
  | cons violation rest =>
      cases found : Naming.violations other.nodes with
      | nil =>
          rw [given, found] at number
          contradiction
      | cons another others =>
          rw [given, found] at number
          exact congrArg Except.error number

theorem generate_of_redrawn (redrawn : Graph.Redrawn graph other)
    (distinct : (graph.nodes.map Node.id).Nodup) :
    (generate settings other).mapError List.length =
      (generate settings graph).mapError List.length := by
  rcases redrawn.regrouped_or_renamed distinct with
    ⟨regrouped, sameEdges⟩ | ⟨rename, change, label, injective, renames, rfl⟩
  · obtain ⟨others, edges⟩ := other
    obtain rfl := sameEdges
    exact mapError_generate_congr settings (Plan.regrouped_ofGraph regrouped settings _).program
      regrouped.violations_perm.length_eq
  · refine mapError_generate_congr settings
      (Plan.renamed_ofGraph label renames injective settings graph).program ?_
    rw [Naming.violations_map renames, List.length_map]

/-- Every drawing of a graph gives the same documents, or the same number of violations. -/
theorem generate_redrawn (distinct : (graph.nodes.map Node.id).Nodup)
    (redrawn : Relation.EqvGen Graph.Redrawn graph other) :
    (generate settings other).mapError List.length =
      (generate settings graph).mapError List.length := by
  induction redrawn with
  | rel graph other step => exact generate_of_redrawn settings step distinct
  | refl graph => rfl
  | symm graph other redrawn ih =>
      exact (ih ((Graph.nodup_iff_of_eqvGen redrawn).mp distinct)).symm
  | trans graph other third redrawn _ first second =>
      exact (second ((Graph.nodup_iff_of_eqvGen redrawn).mpr distinct)).trans (first distinct)

def sketch : Graph where
  nodes := [⟨"a", none, .agent { instanceName := "alice" }⟩, ⟨"b", none, .behaviour {}⟩]
  edges := [⟨"1", "a", "b", none, none, .agentBehaviour⟩]

/-- The agent with its behaviour under other ids, in the other order, placed, with a note. -/
def fairCopy : Graph where
  nodes := [
    ⟨"node b", some {}, .behaviour {}⟩,
    ⟨"a", none, .note "alice polls"⟩,
    ⟨"node a", some {}, .agent { instanceName := "alice" }⟩]
  edges := [⟨"1", "node a", "node b", none, none, .agentBehaviour⟩]

theorem generate_redrawn_fairCopy :
    (sketch.nodes.map Node.id).Nodup ∧ Relation.EqvGen Graph.Redrawn sketch fairCopy ∧
      (generate {} fairCopy).mapError List.length = (generate {} sketch).mapError List.length := by
  have distinct : (sketch.nodes.map Node.id).Nodup := by decide
  have renamed : Graph.Redrawn sketch (sketch.renamed ("node " ++ ·) Edge.id) :=
    .rename Edge.id fun _ _ _ _ same => (String.append_right_inj _).mp same
  have moved := Graph.Redrawn.move (sketch.nodes.map (Node.renamed ("node " ++ ·)))
    fairCopy.edges fun _ => some {}
  have reordered : Graph.Redrawn ⟨_, fairCopy.edges⟩ ⟨_, fairCopy.edges⟩ :=
    .reorder fairCopy.edges (List.Perm.swap ⟨"node a", some {}, .agent { instanceName := "alice" }⟩
      ⟨"node b", some {}, .behaviour {}⟩ []) fun role visible => by cases role <;> rfl
  have noted := @Graph.Redrawn.addNote [⟨"node b", some {}, .behaviour {}⟩]
    [⟨"node a", some {}, .agent { instanceName := "alice" }⟩] fairCopy.edges
    ⟨"a", none, .note "alice polls"⟩ rfl (by decide) (List.cons_ne_nil _ _)
  have redrawn : Relation.EqvGen Graph.Redrawn sketch fairCopy :=
    .trans _ _ _ (.rel _ _ renamed) (.trans _ _ _ (.rel _ _ moved)
      (.trans _ _ _ (.rel _ _ reordered) (.rel _ _ noted)))
  exact ⟨distinct, redrawn, generate_redrawn {} distinct redrawn⟩

end Program

end AgentGraph
