import AgentGraph.Relations
import AgentGraph.Proofs.Dict.Lookup

/-!
What the relations of a graph are, edge by edge. Building them goes through the edges
once; here each of them is told from the list of edges alone.
-/

namespace AgentGraph

/-- Whether the edge is of this kind, and both its ends are there and fit it. -/
def Edge.means (nodes : List Node) (kind : EdgeKind) (edge : Edge) : Bool :=
  edge.kind == kind &&
    match Relations.endOf? nodes edge.source, Relations.endOf? nodes edge.target with
    | some source, some target => kind.fits source.payload target.payload
    | _, _ => false

namespace Relations

section Frame

variable (relations : Relations) (source target : String) {kind : EdgeKind}

private theorem relate_friendship_frame {α : Type} {part : Relations → α}
    (frame : ∀ relations agentId jid, part (addFriend relations agentId jid) = part relations) :
    part (relations.relate source target .friendship) = part relations := by
  rw [relate]
  split
  · rfl
  · split
    · rw [frame, frame]
    · rfl

private theorem relate_inheritance_frame {α : Type} {part : Relations → α}
    (frame : ∀ (relations : Relations) parents,
      part { relations with parents } = part relations) :
    part (relations.relate source target .inheritance) = part relations := by
  rw [relate]
  split
  · rfl
  · rw [frame]

theorem identities_relate (kind : EdgeKind) :
    (relations.relate source target kind).identities = relations.identities := by
  cases kind with
  | agentBehaviour | template | message => rfl
  | inheritance => exact relate_inheritance_frame _ _ _ fun _ _ => rfl
  | friendship => exact relate_friendship_frame _ _ _ fun _ _ _ => rfl

theorem behaviours_relate (different : kind ≠ .agentBehaviour) :
    (relations.relate source target kind).behaviours = relations.behaviours := by
  cases kind with
  | agentBehaviour => contradiction
  | template | message => rfl
  | inheritance => exact relate_inheritance_frame _ _ _ fun _ _ => rfl
  | friendship => exact relate_friendship_frame _ _ _ fun _ _ _ => rfl

theorem friends_relate (different : kind ≠ .friendship) :
    (relations.relate source target kind).friends = relations.friends := by
  cases kind with
  | friendship => contradiction
  | agentBehaviour | template | message => rfl
  | inheritance => exact relate_inheritance_frame _ _ _ fun _ _ => rfl

theorem parents_relate (different : kind ≠ .inheritance) :
    (relations.relate source target kind).parents = relations.parents := by
  cases kind with
  | inheritance => contradiction
  | agentBehaviour | template | message => rfl
  | friendship => exact relate_friendship_frame _ _ _ fun _ _ _ => rfl

theorem template_relate (different : kind ≠ .template) :
    (relations.relate source target kind).template = relations.template := by
  cases kind with
  | template => contradiction
  | agentBehaviour | message => rfl
  | inheritance => exact relate_inheritance_frame _ _ _ fun _ _ => rfl
  | friendship => exact relate_friendship_frame _ _ _ fun _ _ _ => rfl

theorem message_relate (different : kind ≠ .message) :
    (relations.relate source target kind).message = relations.message := by
  cases kind with
  | message => contradiction
  | agentBehaviour | template => rfl
  | inheritance => exact relate_inheritance_frame _ _ _ fun _ _ => rfl
  | friendship => exact relate_friendship_frame _ _ _ fun _ _ _ => rfl

end Frame

variable (nodes : List Node) (relations : Relations)

/-- An edge means what its kind says, or nothing at all. -/
theorem addEdge_eq (edge : Edge) :
    addEdge nodes relations edge =
      if edge.means nodes edge.kind then relations.relate edge.source edge.target edge.kind
      else relations := by
  unfold addEdge Edge.means
  rw [beq_self_eq_true, Bool.true_and]
  cases endOf? nodes edge.source with
  | none => rfl
  | some source =>
      cases endOf? nodes edge.target with
      | none => rfl
      | some target => rfl

theorem means_of_ne {edge : Edge} {kind : EdgeKind} (different : edge.kind ≠ kind) :
    edge.means nodes kind = false := by
  rw [Edge.means, beq_eq_false_iff_ne.mpr different, Bool.false_and]

/-- A part of the relations that only edges of one kind change. -/
private theorem addEdge_part {α : Type} {part : Relations → α} {kind : EdgeKind}
    (frame : ∀ (relations : Relations) (source target : String) {other : EdgeKind},
      other ≠ kind → part (relations.relate source target other) = part relations)
    (edge : Edge) :
    part (addEdge nodes relations edge) =
      if edge.means nodes kind then part (relations.relate edge.source edge.target kind)
      else part relations := by
  rw [addEdge_eq]
  by_cases same : edge.kind = kind
  · rw [same]
    split <;> rfl
  · rw [means_of_ne nodes same]
    split
    · exact frame relations edge.source edge.target same
    · rfl

theorem identities_foldl (edges : List Edge) (relations : Relations) :
    (edges.foldl (addEdge nodes) relations).identities = relations.identities := by
  induction edges generalizing relations with
  | nil => rfl
  | cons edge edges ih =>
      rw [List.foldl_cons, ih, addEdge_eq]
      split
      · exact identities_relate ..
      · rfl

def attached (nodes : List Node) (edges : List Edge) (agentId : String) : List String :=
  (edges.filter fun edge =>
    edge.means nodes .agentBehaviour && edge.source == agentId).map Edge.target

theorem behaviours_foldl (agentId : String) (edges : List Edge) (relations : Relations) :
    (edges.foldl (addEdge nodes) relations).behaviours.findD agentId [] =
      relations.behaviours.findD agentId [] ++ attached nodes edges agentId := by
  induction edges generalizing relations with
  | nil => simp [attached]
  | cons edge edges ih =>
      rw [List.foldl_cons, ih, addEdge_part nodes relations behaviours_relate]
      cases means : edge.means nodes .agentBehaviour with
      | false => simp [attached, means]
      | true =>
          by_cases same : edge.source = agentId
          · simp [attached, means, relate, Dict.findD_update, same]
          · simp [attached, means, relate, Dict.findD_update, same]

/-- The target of the last edge of this kind that leaves `source`. -/
def lastTarget? (nodes : List Node) (kind : EdgeKind) (edges : List Edge) (source : String) :
    Option String :=
  ((edges.filter fun edge => edge.means nodes kind && edge.source == source).map
    Edge.target).getLast?

private theorem lastTarget?_cons (kind : EdgeKind) (edge : Edge) (edges : List Edge)
    (source : String) :
    lastTarget? nodes kind (edge :: edges) source =
      (lastTarget? nodes kind edges source).or
        (if edge.means nodes kind && edge.source == source then some edge.target else none) := by
  unfold lastTarget?
  rw [List.filter_cons]
  split
  · rw [List.map_cons, List.getLast?_cons]
    cases List.getLast? _ <;> rfl
  · rw [Option.or_none]

/-- Of the edges that bind one thing to their source the last one counts. -/
private theorem binding_foldl {part : Relations → Dict String} {kind : EdgeKind}
    (frame : ∀ (relations : Relations) (source target : String) {other : EdgeKind},
      other ≠ kind → part (relations.relate source target other) = part relations)
    (binds : ∀ relations source target,
      part (relate relations source target kind) = (part relations).insert source target)
    (asked : String) (edges : List Edge) (relations : Relations) :
    (part (edges.foldl (addEdge nodes) relations)).find? asked =
      (lastTarget? nodes kind edges asked).or ((part relations).find? asked) := by
  induction edges generalizing relations with
  | nil => rfl
  | cons edge edges ih =>
      rw [List.foldl_cons, ih, addEdge_part nodes relations frame, lastTarget?_cons,
        Option.or_assoc]
      congr 1
      cases means : edge.means nodes kind with
      | false => simp
      | true =>
          by_cases same : edge.source = asked
          · simp [binds, same]
          · have different : asked ≠ edge.source := fun equal => same equal.symm
            simp [binds, same, Dict.find?_insert_of_ne _ _ different]

theorem template_foldl (behaviourId : String) (edges : List Edge) (relations : Relations) :
    (edges.foldl (addEdge nodes) relations).template.find? behaviourId =
      (lastTarget? nodes .template edges behaviourId).or
        (relations.template.find? behaviourId) :=
  binding_foldl nodes template_relate (fun _ _ _ => rfl) behaviourId edges relations

theorem message_foldl (behaviourId : String) (edges : List Edge) (relations : Relations) :
    (edges.foldl (addEdge nodes) relations).message.find? behaviourId =
      (lastTarget? nodes .message edges behaviourId).or
        (relations.message.find? behaviourId) :=
  binding_foldl nodes message_relate (fun _ _ _ => rfl) behaviourId edges relations

/-- The agents that the edges make parents of an agent, in their order. -/
def inherited (nodes : List Node) (edges : List Edge) (agentId : String) : List String :=
  (edges.filter fun edge => edge.means nodes .inheritance && edge.target == agentId &&
    edge.source != edge.target).map Edge.source

theorem parents_foldl (agentId : String) (edges : List Edge) (relations : Relations) :
    (edges.foldl (addEdge nodes) relations).parents.findD agentId [] =
      (inherited nodes edges agentId).foldl (fun found id => addOnce id found)
        (relations.parents.findD agentId []) := by
  induction edges generalizing relations with
  | nil => rfl
  | cons edge edges ih =>
      rw [List.foldl_cons, ih, addEdge_part nodes relations parents_relate]
      cases means : edge.means nodes .inheritance with
      | false => simp [inherited, means]
      | true =>
          by_cases loop : edge.source = edge.target
          · simp [inherited, relate, loop]
          · by_cases same : edge.target = agentId
            · have differs : edge.source ≠ agentId := fun equal => loop (equal.trans same.symm)
              have first : inherited nodes (edge :: edges) agentId =
                  edge.source :: inherited nodes edges agentId := by
                have chosen : (edge.means nodes .inheritance && edge.target == agentId &&
                    edge.source != edge.target) = true := by
                  simp [means, same, differs]
                rw [inherited, List.filter_cons, if_pos chosen]
                rfl
              simp [first, relate, Dict.findD_update, same, differs]
            · simp [inherited, relate, loop, Dict.findD_update, same]

/-- The agent that a friendship joins to `agentId`. -/
def partner? (nodes : List Node) (agentId : String) (edge : Edge) : Option String :=
  if edge.means nodes .friendship && edge.source != edge.target then
    if edge.source = agentId then some edge.target
    else if edge.target = agentId then some edge.source
    else none
  else none

def addJids (relations : Relations) (found : Dict Unit) (agentIds : List String) : Dict Unit :=
  (agentIds.filterMap relations.jid?).foldl (fun found jid => found.insert jid ()) found

theorem jid?_addEdge (edge : Edge) : (addEdge nodes relations edge).jid? = relations.jid? := by
  have identities : (addEdge nodes relations edge).identities = relations.identities :=
    identities_foldl nodes [edge] relations
  unfold jid? identity?
  rw [identities]

/-- Both ends of a friendship get the address of the other one. -/
theorem friends_relate_friendship {relations : Relations} {source target : String}
    (different : source ≠ target) {sourceJid targetJid : String}
    (sourceIs : relations.jid? source = some sourceJid)
    (targetIs : relations.jid? target = some targetJid) (agentId : String) :
    (relations.relate source target .friendship).friends.findD agentId Dict.empty =
      if source = agentId then (relations.friends.findD agentId Dict.empty).insert targetJid ()
      else if target = agentId then
        (relations.friends.findD agentId Dict.empty).insert sourceJid ()
      else relations.friends.findD agentId Dict.empty := by
  rw [relate, if_neg different]
  simp only [sourceIs, targetIs, addFriend, Dict.findD_update]
  by_cases atSource : source = agentId
  · have notTarget : target ≠ agentId := fun equal => different (atSource.trans equal.symm)
    simp [atSource, notTarget]
  · simp [atSource]

theorem friends_addEdge {edge : Edge} {relations : Relations}
    (known : edge.means nodes .friendship = true →
      (relations.jid? edge.source).isSome = true ∧ (relations.jid? edge.target).isSome = true)
    (agentId : String) :
    (addEdge nodes relations edge).friends.findD agentId Dict.empty =
      addJids relations (relations.friends.findD agentId Dict.empty)
        (partner? nodes agentId edge).toList := by
  rw [addEdge_part nodes relations friends_relate]
  cases means : edge.means nodes .friendship with
  | false => simp [partner?, means, addJids]
  | true =>
      obtain ⟨sourceKnown, targetKnown⟩ := known means
      obtain ⟨sourceJid, sourceIs⟩ := Option.isSome_iff_exists.mp sourceKnown
      obtain ⟨targetJid, targetIs⟩ := Option.isSome_iff_exists.mp targetKnown
      by_cases loop : edge.source = edge.target
      · simp [partner?, addJids, relate, loop]
      · rw [if_pos rfl, friends_relate_friendship loop sourceIs targetIs]
        by_cases atSource : edge.source = agentId
        · have notLoop : agentId ≠ edge.target := atSource ▸ loop
          simp [partner?, means, addJids, atSource, notLoop, targetIs]
        · by_cases atTarget : edge.target = agentId
          · simp [partner?, means, addJids, atSource, atTarget, sourceIs]
          · simp [partner?, addJids, atSource, atTarget]

/-- An agent's friends are those that an edge joins to it. -/
theorem friends_foldl {edges : List Edge} {relations : Relations}
    (known : ∀ edge ∈ edges, edge.means nodes .friendship = true →
      (relations.jid? edge.source).isSome = true ∧ (relations.jid? edge.target).isSome = true)
    (agentId : String) :
    (edges.foldl (addEdge nodes) relations).friends.findD agentId Dict.empty =
      addJids relations (relations.friends.findD agentId Dict.empty)
        (edges.filterMap (partner? nodes agentId)) := by
  induction edges generalizing relations with
  | nil => rfl
  | cons edge edges ih =>
      have same := jid?_addEdge nodes relations edge
      have rest := ih fun other inside => same ▸ known other (List.mem_cons_of_mem _ inside)
      rw [List.foldl_cons, rest, friends_addEdge nodes (known edge List.mem_cons_self)]
      unfold addJids
      rw [same, ← List.foldl_append, ← List.filterMap_append]
      congr 2
      rw [List.filterMap_cons]
      cases partner? nodes agentId edge <;> rfl

section Build

variable (settings : Settings) (edges : List Edge)

theorem identities_build :
    (build settings nodes edges).identities = identitiesOf settings nodes :=
  identities_foldl nodes edges (ofNodes settings nodes)

theorem behavioursOf_build (agentId : String) :
    (build settings nodes edges).behavioursOf agentId = attached nodes edges agentId := by
  have start : (ofNodes settings nodes).behaviours.findD agentId [] = [] := by
    rw [ofNodes, Dict.findD, Dict.find?_map]
    cases (identitiesOf settings nodes).find? agentId <;> rfl
  have folded := behaviours_foldl nodes agentId edges (ofNodes settings nodes)
  rw [start, List.nil_append] at folded
  exact folded

theorem parentsOf_build (agentId : String) :
    (build settings nodes edges).parentsOf agentId =
      (inherited nodes edges agentId).foldl (fun found id => addOnce id found) [] :=
  parents_foldl nodes agentId edges (ofNodes settings nodes)

theorem template?_build (behaviourId : String) :
    (build settings nodes edges).template? behaviourId =
      lastTarget? nodes .template edges behaviourId := by
  have folded := template_foldl nodes behaviourId edges (ofNodes settings nodes)
  have start : (ofNodes settings nodes).template.find? behaviourId = none := rfl
  rw [start, Option.or_none] at folded
  exact folded

theorem message?_build (behaviourId : String) :
    (build settings nodes edges).message? behaviourId =
      lastTarget? nodes .message edges behaviourId := by
  have folded := message_foldl nodes behaviourId edges (ofNodes settings nodes)
  have start : (ofNodes settings nodes).message.find? behaviourId = none := rfl
  rw [start, Option.or_none] at folded
  exact folded

/-- The templates of an agent are those of its behaviours. -/
theorem templatesOf_build (agentId : String) :
    (build settings nodes edges).templatesOf agentId =
      ((attached nodes edges agentId).filterMap (lastTarget? nodes .template edges)).foldl
        (fun found id => addOnce id found) [] := by
  have templates : (build settings nodes edges).template.find? =
      lastTarget? nodes .template edges :=
    funext (template?_build nodes settings edges)
  have behaviours := behavioursOf_build nodes settings edges agentId
  have read : (build settings nodes edges).templatesOf agentId =
      templatesOfBehaviours (build settings nodes edges).template
        ((build settings nodes edges).behavioursOf agentId) := by
    rw [templatesOf, behavioursOf, Dict.findD, Dict.findD, build, Dict.find?_map]
    cases Dict.find? _ agentId <;> rfl
  rw [read, behaviours, templatesOfBehaviours, templates]

end Build

end Relations

end AgentGraph
