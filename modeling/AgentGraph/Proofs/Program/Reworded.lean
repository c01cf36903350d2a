import AgentGraph.Proofs.Program.Names
import AgentGraph.Proofs.Program.Renamed
import Mathlib.Logic.Relation

/-!
Lists of edges that mean the same. A program depends on what its edges tell about each node,
and not on edges that tell nothing, on ids and handles, on the direction of friendships, on
repeats, and on the order of edges that tell different things.
-/

namespace AgentGraph

namespace Edge

/-- The ways in which an edge may fail to fit its ends. -/
inductive IsStray (nodes : List Node) (edge : Edge) : Prop where
  | noSource (missing : ∀ node ∈ nodes, node.id ≠ edge.source)
  | noTarget (missing : ∀ node ∈ nodes, node.id ≠ edge.target)
  | wrongSource {node : Node} (found : Relations.endOf? nodes edge.source = some node)
      (wrong : node.payload.role ≠ edge.kind.sourceRole)
  | wrongTarget {node : Node} (found : Relations.endOf? nodes edge.target = some node)
      (wrong : node.payload.role ≠ edge.kind.targetRole)
  | loop (kind : edge.kind = .friendship ∨ edge.kind = .inheritance)
      (loops : edge.source = edge.target)

/-- The edges among which this one has its place: those of its kind with the same source, or
for an inheritance those with the same target. Friendships have no place. -/
def lane? (edge : Edge) : Option (EdgeKind × String) :=
  match edge.kind with
  | .friendship => none
  | .inheritance => some (.inheritance, edge.target)
  | .agentBehaviour => some (.agentBehaviour, edge.source)
  | .template => some (.template, edge.source)
  | .message => some (.message, edge.source)

def reversed (edge : Edge) : Edge := { edge with source := edge.target, target := edge.source }

/-- The changes to a list of edges that leave its meaning alone. -/
inductive Reworded (nodes : List Node) : List Edge → List Edge → Prop where
  | addStray (before after : List Edge) {edge : Edge} (stray : edge.IsStray nodes) :
      Reworded nodes (before ++ after) (before ++ edge :: after)
  | relabel (before after : List Edge) (edge : Edge) (id : String)
      (sourceHandle targetHandle : Option Handle) :
      Reworded nodes (before ++ edge :: after)
        (before ++ { edge with id, sourceHandle, targetHandle } :: after)
  | reverse (before after : List Edge) {edge : Edge} (kind : edge.kind = .friendship) :
      Reworded nodes (before ++ edge :: after) (before ++ edge.reversed :: after)
  | repeatFriendship (before after : List Edge) {edge : Edge} (kind : edge.kind = .friendship)
      (there : edge ∈ before ++ after) :
      Reworded nodes (before ++ after) (before ++ edge :: after)
  | appendInheritance (edges : List Edge) {edge : Edge} (kind : edge.kind = .inheritance)
      (there : edge ∈ edges) : Reworded nodes edges (edges ++ [edge])
  | reorder {edges others : List Edge} (perm : others.Perm edges)
      (lanes : ∀ lane, others.filter (fun edge => edge.lane? == some lane) =
        edges.filter fun edge => edge.lane? == some lane) : Reworded nodes edges others

variable {nodes : List Node} {edge : Edge} {kind : EdgeKind}

theorem tells?_of_kind_ne (different : edge.kind ≠ kind) (about : String) :
    edge.tells? nodes kind about = none :=
  tells?_of_not_means (Relations.means_of_ne nodes different) about

theorem IsStray.tells? (stray : edge.IsStray nodes) (kind : EdgeKind) (about : String) :
    edge.tells? nodes kind about = none := by
  by_cases same : edge.kind = kind
  · subst same
    cases means : edge.means nodes edge.kind with
    | false => exact tells?_of_not_means means about
    | true =>
        obtain ⟨_, source, target, sourceEnd, targetEnd, fits⟩ := Relations.means_iff.mp means
        obtain ⟨sourceRole, targetRole⟩ := EdgeKind.fits_iff.mp fits
        obtain ⟨sourceInside, sourceId⟩ := Relations.of_endOf? sourceEnd
        obtain ⟨targetInside, targetId⟩ := Relations.of_endOf? targetEnd
        cases stray with
        | noSource missing => exact absurd sourceId (missing source sourceInside)
        | noTarget missing => exact absurd targetId (missing target targetInside)
        | wrongSource found wrong =>
            rw [sourceEnd] at found
            exact absurd (Option.some.inj found ▸ sourceRole) wrong
        | wrongTarget found wrong =>
            rw [targetEnd] at found
            exact absurd (Option.some.inj found ▸ targetRole) wrong
        | loop isKind loops =>
            rcases isKind with isKind | isKind
            · rw [isKind, Edge.tells?, Relations.partner?, loops, bne_self_eq_false,
                Bool.and_false]
              rfl
            · rw [isKind, Edge.tells?, loops, bne_self_eq_false, Bool.and_false]
              rfl
  · exact tells?_of_kind_ne same about

theorem means_reversed (edge : Edge) :
    edge.reversed.means nodes .friendship = edge.means nodes .friendship := by
  unfold means reversed
  cases Relations.endOf? nodes edge.source with
  | none => cases Relations.endOf? nodes edge.target <;> rfl
  | some source =>
      cases Relations.endOf? nodes edge.target with
      | none => rfl
      | some target => exact congrArg _ (Bool.and_comm _ _)

theorem tells?_reversed (isFriendship : edge.kind = .friendship) (kind : EdgeKind)
    (about : String) : edge.reversed.tells? nodes kind about = edge.tells? nodes kind about := by
  by_cases same : edge.kind = kind
  · obtain rfl : kind = .friendship := same.symm.trans isFriendship
    rw [tells?, tells?, Relations.partner?, Relations.partner?, means_reversed]
    change (if (_ && edge.target != edge.source) = true then _ else none) = _
    rw [bne_comm]
    by_cases loop : edge.source = edge.target
    · simp [loop]
    · by_cases atSource : edge.source = about
      · have notTarget : edge.target ≠ about := fun atTarget => loop (atSource.trans atTarget.symm)
        simp [reversed, atSource, notTarget]
      · simp [reversed, atSource]
  · rw [tells?_of_kind_ne same, @tells?_of_kind_ne nodes edge.reversed kind same]

theorem tells?_of_lane?_ne (notFriendship : kind ≠ .friendship) {about : String}
    (elsewhere : (edge.lane? == some (kind, about)) = false) : edge.tells? nodes kind about = none := by
  by_cases same : edge.kind = kind
  · rw [lane?, same] at elsewhere
    cases kind with
    | friendship => contradiction
    | inheritance =>
        have different : (edge.target == about) = false := by simpa using elsewhere
        rw [tells?, different, Bool.and_false, Bool.false_and]
        rfl
    | agentBehaviour | template | message =>
        have different : (edge.source == about) = false := by simpa using elsewhere
        rw [tells?, different, Bool.and_false]
        rfl
  · exact tells?_of_kind_ne same about

end Edge

namespace Relations

variable {nodes : List Node} {kind : EdgeKind}

theorem told_insert (kind : EdgeKind) (before after : List Edge) (edge : Edge) (about : String) :
    told nodes kind (before ++ edge :: after) about =
      told nodes kind before about ++ ((edge.tells? nodes kind about).toList ++
        told nodes kind after about) := by
  unfold told
  rw [List.filterMap_append, List.filterMap_cons]
  cases edge.tells? nodes kind about <;> rfl

theorem told_insert_of_silent {edge : Edge} {about : String}
    (silent : edge.tells? nodes kind about = none) (before after : List Edge) :
    told nodes kind (before ++ edge :: after) about = told nodes kind (before ++ after) about := by
  rw [told_insert, silent, told, told, told, List.filterMap_append]
  rfl

theorem addOnce_of_mem {value : String} {values : List String} (inside : value ∈ values) :
    addOnce value values = values := if_pos inside

/-- What a list of edges tells does not depend on how it is worded. -/
theorem alike_of_reworded {edges others : List Edge} (reworded : Edge.Reworded nodes edges others)
    (kind : EdgeKind) (about : String) :
    kind.Alike (told nodes kind others about) (told nodes kind edges about) := by
  cases reworded with
  | addStray before after stray =>
      rw [told_insert_of_silent (stray.tells? kind about)]
      exact .refl kind _
  | relabel before after edge id sourceHandle targetHandle =>
      have same : ({ edge with id, sourceHandle, targetHandle } : Edge).tells? nodes kind about =
          edge.tells? nodes kind about := by
        cases kind <;> rfl
      rw [told_insert, told_insert, same]
      exact .refl kind _
  | reverse before after isFriendship =>
      rw [told_insert, told_insert, Edge.tells?_reversed isFriendship]
      exact .refl kind _
  | @repeatFriendship before after edge isFriendship there =>
      by_cases same : edge.kind = kind
      · rw [← same, isFriendship]
        intro id
        simp only [told, List.mem_filterMap, List.mem_append, List.mem_cons] at there ⊢
        constructor
        · rintro ⟨other, inBefore | rfl | inAfter, tells⟩
          · exact ⟨other, .inl inBefore, tells⟩
          · exact ⟨other, there, tells⟩
          · exact ⟨other, .inr inAfter, tells⟩
        · rintro ⟨other, inside, tells⟩
          exact ⟨other, inside.imp_right .inr, tells⟩
      · rw [told_insert_of_silent (Edge.tells?_of_kind_ne same about)]
        exact .refl kind _
  | @appendInheritance edges edge isInheritance there =>
      by_cases same : edge.kind = kind
      · rw [← same, isInheritance, told_insert]
        change List.foldl _ _ _ = List.foldl _ _ _
        rw [List.foldl_append]
        cases tells : edge.tells? nodes .inheritance about with
        | none => rfl
        | some parent =>
            -- A parent has the place of its first mention, which comes before the new edge.
            have mentioned : parent ∈ told nodes .inheritance edges about :=
              List.mem_filterMap.mpr ⟨edge, there, tells⟩
            exact addOnce_of_mem ((mem_foldl_addOnce _ []).mpr (.inr mentioned))
      · rw [told_insert_of_silent (Edge.tells?_of_kind_ne same about), List.append_nil]
        exact .refl kind _
  | reorder perm lanes =>
      by_cases isFriendship : kind = .friendship
      · subst isFriendship
        exact fun id => (perm.filterMap _).mem_iff
      · have collected (edges : List Edge) : told nodes kind edges about =
            (edges.filter fun edge => edge.lane? == some (kind, about)).filterMap
              (Edge.tells? nodes kind about) :=
          filterMap_eq_filterMap_filter (fun _ => Edge.tells?_of_lane?_ne isFriendship) edges
        rw [collected, collected, lanes]
        exact .refl kind _

theorem alike_of_eqvGen {edges others : List Edge}
    (reworded : Relation.EqvGen (Edge.Reworded nodes) edges others) (kind : EdgeKind)
    (about : String) :
    kind.Alike (told nodes kind others about) (told nodes kind edges about) := by
  induction reworded with
  | rel edges others step => exact alike_of_reworded step kind about
  | refl edges => exact .refl kind _
  | symm edges others _ ih => exact ih.symm
  | trans edges others more _ _ first second => exact second.trans first

end Relations

/-- However the edges are worded, the plan is the same. -/
theorem Plan.reworded_ofGraph (settings : Settings) {nodes : List Node} {edges others : List Edge}
    (reworded : Relation.EqvGen (Edge.Reworded nodes) edges others) :
    Plan.Renamed id id (ofGraph settings ⟨nodes, edges⟩) (ofGraph settings ⟨nodes, others⟩) := by
  refine {
    injective := Function.injective_id
    renames := ⟨fun _ => rfl, fun _ => rfl⟩
    settings := rfl
    isEmpty := rfl
    imports := rfl
    agents := (List.map_id _).symm
    behaviours := (List.map_id _).symm
    payload? := fun _ _ _ => Iff.rfl
    relations := Relations.renamed_build Function.injective_id (fun _ => rfl) fun kind about => ?_
    behaviourClass? := fun _ => ?_
    templateNumber? := fun _ => rfl
    messageNumber? := fun _ => rfl }
  · rw [List.map_id]
    exact Relations.alike_of_eqvGen reworded kind about
  · unfold ofGraph build
    rw [Relations.identities_build, Relations.identities_build]
    rfl

namespace Program

/-- A program depends on its edges through their meaning only. -/
theorem generate_reworded (settings : Settings) {nodes : List Node} {edges others : List Edge}
    (reworded : Relation.EqvGen (Edge.Reworded nodes) edges others) :
    generate settings ⟨nodes, others⟩ = generate settings ⟨nodes, edges⟩ := by
  have same : ofGraph settings ⟨nodes, others⟩ = ofGraph settings ⟨nodes, edges⟩ :=
    (Plan.reworded_ofGraph settings reworded).program
  unfold generate
  rw [same]

/-- Two agents, one with a behaviour; `worded` and `otherwise` are two ways to tie them. -/
def tied : List Node := [
  ⟨"a", none, .agent {}⟩,
  ⟨"b", none, .agent {}⟩,
  ⟨"c", none, .behaviour {}⟩]

def worded : List Edge := [
  ⟨"1", "a", "b", none, none, .friendship⟩,
  ⟨"2", "a", "c", none, none, .agentBehaviour⟩,
  ⟨"3", "a", "b", none, none, .inheritance⟩]

def otherwise : List Edge := [
  ⟨"2", "a", "c", none, none, .agentBehaviour⟩,
  ⟨"4", "c", "a", none, none, .template⟩,
  ⟨"1", "b", "a", none, none, .friendship⟩,
  ⟨"3", "a", "b", none, none, .inheritance⟩,
  ⟨"3", "a", "b", none, none, .inheritance⟩]

theorem generate_reworded_otherwise :
    Relation.EqvGen (Edge.Reworded tied) worded otherwise ∧
      generate {} ⟨tied, otherwise⟩ = generate {} ⟨tied, worded⟩ := by
  have reordered : Edge.Reworded tied worded
      [⟨"2", "a", "c", none, none, .agentBehaviour⟩, ⟨"1", "a", "b", none, none, .friendship⟩,
        ⟨"3", "a", "b", none, none, .inheritance⟩] :=
    .reorder (List.Perm.swap _ _ _) fun _ => rfl
  have reversed := @Edge.Reworded.reverse tied [⟨"2", "a", "c", none, none, .agentBehaviour⟩]
    [⟨"3", "a", "b", none, none, .inheritance⟩] ⟨"1", "a", "b", none, none, .friendship⟩ rfl
  have extended := @Edge.Reworded.addStray tied [⟨"2", "a", "c", none, none, .agentBehaviour⟩]
    [⟨"1", "b", "a", none, none, .friendship⟩, ⟨"3", "a", "b", none, none, .inheritance⟩]
    ⟨"4", "c", "a", none, none, .template⟩ (.wrongTarget rfl (by decide))
  have appended := @Edge.Reworded.appendInheritance tied otherwise.dropLast
    ⟨"3", "a", "b", none, none, .inheritance⟩ rfl (by decide)
  have chained : Relation.EqvGen (Edge.Reworded tied) worded otherwise :=
    .trans _ _ _ (.rel _ _ reordered) (.trans _ _ _ (.rel _ _ reversed)
      (.trans _ _ _ (.rel _ _ extended) (.rel _ _ appended)))
  exact ⟨chained, generate_reworded {} chained⟩

end Program

end AgentGraph
