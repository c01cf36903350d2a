import AgentGraph.Proofs.Relations.Friends
import Mathlib.Data.List.Sort

/-!
What an edge tells about a node is the id of another one. The relations of a graph follow
from these ids: in their order for behaviours, templates and messages, in the order of their
first mention for parents, and in no order for friends.
-/

namespace AgentGraph

/-- What only some members have a value for is collected from these. -/
theorem filterMap_eq_filterMap_filter {α β : Type} {p : α → Bool} {f : α → Option β}
    (only : ∀ value, p value = false → f value = none) (values : List α) :
    values.filterMap f = (values.filter p).filterMap f := by
  rw [List.filterMap_filter]
  congr 1
  funext value
  cases holds : p value with
  | false => simp [only value holds]
  | true => rfl

/-- The id that an edge of this kind tells about the node `about`. -/
def Edge.tells? (nodes : List Node) (kind : EdgeKind) (about : String) (edge : Edge) :
    Option String :=
  match kind with
  | .friendship => Relations.partner? nodes about edge
  | .inheritance =>
      if edge.means nodes .inheritance && edge.target == about && edge.source != edge.target then
        some edge.source
      else none
  | .agentBehaviour | .template | .message =>
      if edge.means nodes kind && edge.source == about then some edge.target else none

theorem Edge.tells?_of_not_means {nodes : List Node} {kind : EdgeKind} {edge : Edge}
    (silent : edge.means nodes kind = false) (about : String) :
    edge.tells? nodes kind about = none := by
  cases kind with
  | friendship => rw [tells?, Relations.partner?, silent]; rfl
  | inheritance => rw [tells?, silent]; rfl
  | agentBehaviour | template | message => rw [tells?, silent]; rfl

/-- Whether two lists of ids say the same if edges of this kind tell them. -/
def EdgeKind.Alike : EdgeKind → List String → List String → Prop
  | .friendship, first, second => ∀ id, id ∈ first ↔ id ∈ second
  | .inheritance, first, second =>
      first.foldl (fun found id => Relations.addOnce id found) [] =
        second.foldl (fun found id => Relations.addOnce id found) []
  | .agentBehaviour, first, second | .template, first, second | .message, first, second =>
      first = second

namespace EdgeKind.Alike

variable {kind : EdgeKind} {first second third : List String}

theorem refl (kind : EdgeKind) (ids : List String) : kind.Alike ids ids := by
  cases kind with
  | friendship => exact fun _ => Iff.rfl
  | inheritance | agentBehaviour | template | message => rfl

theorem symm (alike : kind.Alike first second) : kind.Alike second first := by
  cases kind with
  | friendship => exact fun id => (alike id).symm
  | inheritance | agentBehaviour | template | message => exact Eq.symm alike

theorem trans (alike : kind.Alike first second) (next : kind.Alike second third) :
    kind.Alike first third := by
  cases kind with
  | friendship => exact fun id => (alike id).trans (next id)
  | inheritance | agentBehaviour | template | message => exact Eq.trans alike next

end EdgeKind.Alike

namespace Relations

/-- What the edges of one kind tell about the node `about`. -/
def told (nodes : List Node) (kind : EdgeKind) (edges : List Edge) (about : String) :
    List String :=
  edges.filterMap (Edge.tells? nodes kind about)

section Views

variable (nodes : List Node) (edges : List Edge)

private theorem map_filter_eq_filterMap {α β : Type} (p : α → Bool) (f : α → β)
    (values : List α) :
    (values.filter p).map f =
      values.filterMap fun value => if p value then some (f value) else none := by
  rw [← List.filterMap_eq_map, List.filterMap_filter]
  rfl

theorem attached_eq_told (agentId : String) :
    attached nodes edges agentId = told nodes .agentBehaviour edges agentId :=
  map_filter_eq_filterMap _ _ edges

theorem inherited_eq_told (agentId : String) :
    inherited nodes edges agentId = told nodes .inheritance edges agentId :=
  map_filter_eq_filterMap _ _ edges

theorem lastTemplate?_eq_told (behaviourId : String) :
    lastTarget? nodes .template edges behaviourId =
      (told nodes .template edges behaviourId).getLast? :=
  congrArg List.getLast? (map_filter_eq_filterMap _ _ edges)

theorem lastMessage?_eq_told (behaviourId : String) :
    lastTarget? nodes .message edges behaviourId =
      (told nodes .message edges behaviourId).getLast? :=
  congrArg List.getLast? (map_filter_eq_filterMap _ _ edges)

end Views

/-- The addresses of the friends are in order, so that their members tell them. -/
theorem keys_addJids_congr {relations other : Relations} {agentIds otherIds : List String}
    (same : ∀ jid, jid ∈ agentIds.filterMap relations.jid? ↔ jid ∈ otherIds.filterMap other.jid?) :
    (addJids relations Dict.empty agentIds).keys = (addJids other Dict.empty otherIds).keys := by
  have ordered (dict : Dict Unit) : dict.keys.Pairwise (· < ·) :=
    List.pairwise_map.mpr dict.sorted
  refine List.Pairwise.eq_of_mem_iff (ordered _) (ordered _) fun jid => ?_
  rw [addJids, addJids, Dict.mem_keys_foldl_insert, Dict.mem_keys_foldl_insert, same]

/-- Whether `other` says of renamed ids what `relations` says of the ids. -/
structure Renamed (rename : String → String) (relations other : Relations) : Prop where
  identity? : ∀ id, other.identity? (rename id) = relations.identity? id
  behavioursOf : ∀ id, other.behavioursOf (rename id) = (relations.behavioursOf id).map rename
  friendsOf : ∀ id, other.friendsOf (rename id) = relations.friendsOf id
  parentsOf : ∀ id, other.parentsOf (rename id) = (relations.parentsOf id).map rename
  template? : ∀ id, other.template? (rename id) = (relations.template? id).map rename
  message? : ∀ id, other.message? (rename id) = (relations.message? id).map rename
  templatesOf : ∀ id, other.templatesOf (rename id) = (relations.templatesOf id).map rename

variable {rename : String → String} (injective : Function.Injective rename)

include injective

theorem addOnce_map (value : String) (values : List String) :
    addOnce (rename value) (values.map rename) = (addOnce value values).map rename := by
  unfold addOnce
  simp only [List.mem_map_of_injective injective]
  split
  · rfl
  · rw [List.map_append]
    rfl

theorem foldl_addOnce_map (added : List String) : ∀ found : List String,
    (added.map rename).foldl (fun found id => addOnce id found) (found.map rename) =
      (added.foldl (fun found id => addOnce id found) found).map rename := by
  induction added with
  | nil => exact fun _ => rfl
  | cons value added ih =>
      intro found
      rw [List.map_cons, List.foldl_cons, addOnce_map injective, ih, List.foldl_cons]

/-- Relations are the same but for the ids where the agents are, and what the edges tell. -/
theorem renamed_build {settings : Settings} {nodes others : List Node}
    {edges otherEdges : List Edge}
    (identities : ∀ id, (identitiesOf settings others).find? (rename id) =
      (identitiesOf settings nodes).find? id)
    (alike : ∀ kind about, EdgeKind.Alike kind (told others kind otherEdges (rename about))
      ((told nodes kind edges about).map rename)) :
    Renamed rename (build settings nodes edges) (build settings others otherEdges) where
  identity? id := by
    rw [identity?, identity?, identities_build, identities_build]
    exact identities id
  behavioursOf id := by
    rw [behavioursOf_build, behavioursOf_build, attached_eq_told, attached_eq_told]
    exact alike .agentBehaviour id
  friendsOf id := by
    rw [friendsOf_build, friendsOf_build]
    apply keys_addJids_congr
    intro jid
    have jids (partner : String) : (ofNodes settings others).jid? (rename partner) =
        (ofNodes settings nodes).jid? partner :=
      congrArg (Option.map Identity.jid) (identities partner)
    have partners (partner : String) : partner ∈ partners others otherEdges (rename id) ↔
        partner ∈ (Relations.partners nodes edges id).map rename :=
      alike .friendship id partner
    simp only [List.mem_filterMap, partners, List.mem_map, exists_exists_and_eq_and, jids]
  parentsOf id := by
    rw [parentsOf_build, parentsOf_build, inherited_eq_told, inherited_eq_told]
    exact Eq.trans (alike .inheritance id) (foldl_addOnce_map injective _ [])
  template? id := by
    rw [template?_build, template?_build, lastTemplate?_eq_told, lastTemplate?_eq_told,
      alike .template id, List.getLast?_map]
  message? id := by
    rw [message?_build, message?_build, lastMessage?_eq_told, lastMessage?_eq_told,
      alike .message id, List.getLast?_map]
  templatesOf id := by
    have templates (id : String) : lastTarget? others .template otherEdges (rename id) =
        (lastTarget? nodes .template edges id).map rename := by
      rw [lastTemplate?_eq_told, lastTemplate?_eq_told, alike .template id, List.getLast?_map]
    have behaviours : told others .agentBehaviour otherEdges (rename id) =
        (told nodes .agentBehaviour edges id).map rename := alike .agentBehaviour id
    rw [templatesOf_build, templatesOf_build, attached_eq_told, attached_eq_told, behaviours,
      List.filterMap_map]
    simp only [Function.comp_def, templates, ← List.map_filterMap]
    exact foldl_addOnce_map injective _ []

end Relations

end AgentGraph
