import AgentGraph.Proofs.Naming.Distinct
import AgentGraph.Proofs.Naming.Words
import AgentGraph.Proofs.Relations.Ends
import Mathlib.Data.Finset.Card

/-!
How many friends an agent has: one address for each agent that an edge joins to it. The
addresses of different agents differ, since their names do and none of them holds the
sign after which the host stands.
-/

namespace AgentGraph

namespace Dict

variable {α : Type}

theorem mem_keys {dict : Dict α} {key : String} :
    key ∈ dict.keys ↔ (dict.find? key).isSome = true := by
  rw [Option.isSome_iff_exists]
  constructor
  · intro inside
    obtain ⟨⟨key, value⟩, held, rfl⟩ := List.mem_map.mp inside
    exact ⟨value, find?_eq_some_iff.mpr held⟩
  · rintro ⟨value, found⟩
    exact List.mem_map_of_mem (find?_eq_some_iff.mp found)

theorem mem_keys_foldl_insert {asked : String} (keys : List String) : ∀ dict : Dict Unit,
    asked ∈ (keys.foldl (fun found key => found.insert key ()) dict).keys ↔
      asked ∈ dict.keys ∨ asked ∈ keys := by
  induction keys with
  | nil => simp
  | cons key keys ih =>
      intro dict
      have inserted : asked ∈ (dict.insert key ()).keys ↔ asked ∈ dict.keys ∨ asked = key := by
        rw [mem_keys, mem_keys]
        by_cases same : asked = key
        · simp [same]
        · simp [find?_insert_of_ne dict () same, same]
      rw [List.foldl_cons, ih, inserted, List.mem_cons, or_assoc]

end Dict

open Naming

/-- An injective partial function that is defined on a list keeps the number of its members. -/
theorem card_toFinset_filterMap {α β : Type} [DecidableEq α] [DecidableEq β] {f : α → Option β}
    {members : List α} (total : ∀ member ∈ members, (f member).isSome = true)
    (injective : ∀ first ∈ members, ∀ second ∈ members, ∀ value,
      f first = some value → f second = some value → first = second) :
    (members.filterMap f).toFinset.card = members.toFinset.card := by
  induction members with
  | nil => rfl
  | cons head members ih =>
      obtain ⟨value, defined⟩ := Option.isSome_iff_exists.mp (total head List.mem_cons_self)
      have rest := ih (fun member inside => total member (List.mem_cons_of_mem _ inside))
        (fun first inside second inside' => injective first (List.mem_cons_of_mem _ inside)
          second (List.mem_cons_of_mem _ inside'))
      have again : value ∈ (members.filterMap f).toFinset ↔ head ∈ members.toFinset := by
        rw [List.mem_toFinset, List.mem_toFinset, List.mem_filterMap]
        constructor
        · rintro ⟨other, inside, same⟩
          rwa [injective head List.mem_cons_self other (List.mem_cons_of_mem _ inside) value
            defined same]
        · exact fun inside => ⟨head, inside, defined⟩
      rw [List.filterMap_cons_some defined, List.toFinset_cons, List.toFinset_cons,
        Finset.card_insert_eq_ite, Finset.card_insert_eq_ite, rest]
      simp only [again]

namespace Relations

variable {settings : Settings} {nodes : List Node}

/-- Different agents have different addresses. -/
theorem jid_injective (rules : IsValid nodes) {first second : String}
    {identity other : Identity}
    (found : (identitiesOf settings nodes).find? first = some identity)
    (otherFound : (identitiesOf settings nodes).find? second = some other)
    (same : identity.jid = other.jid) : first = second := by
  have named {id : String} {identity : Identity}
      (found : (identitiesOf settings nodes).find? id = some identity) :
      identity.jid.toList.takeWhile (· != '@') = identity.instanceName.toList := by
    obtain ⟨node, inside, _, identifies⟩ := identitiesOf_find? found
    have word := identifies.instanceName_isWord rules inside
    obtain ⟨agent, given⟩ := Option.isSome_iff_exists.mp identifies.isAgent
    have plain : ∀ c ∈ identity.instanceName.toList, (c != '@') = true := by
      intro c held
      apply bne_iff_ne.mpr
      intro sign
      have isNameChar := word c held
      rw [sign] at isNameChar
      contradiction
    rw [identifies.jid agent given, String.toList_append, String.toList_append,
      List.append_assoc, List.takeWhile_append_of_pos plain]
    exact List.append_nil _
  have names : identity.instanceName = other.instanceName := by
    rw [← String.toList_inj, ← named found, ← named otherFound, same]
  exact (identitiesOf_separates settings rules).1 first second identity other found otherFound
    names

variable (settings nodes) (edges : List Edge)

theorem isSome_identity_of_means {edge : Edge}
    (means : edge.means nodes .friendship = true) :
    ((identitiesOf settings nodes).find? edge.source).isSome = true ∧
      ((identitiesOf settings nodes).find? edge.target).isSome = true := by
  obtain ⟨source, target, sourceId, targetId, joins⟩ := joins_of_means means
  obtain ⟨sourceIsAgent, targetIsAgent⟩ := Bool.and_eq_true_iff.mp joins.fits
  rw [← sourceId, ← targetId]
  exact ⟨identitiesOf_isSome joins.sourceInside sourceIsAgent,
    identitiesOf_isSome joins.targetInside targetIsAgent⟩

def partners (agentId : String) : List String := edges.filterMap (partner? nodes agentId)

theorem partners_isSome {agentId partner : String} (inside : partner ∈ partners nodes edges agentId) :
    ((identitiesOf settings nodes).find? partner).isSome = true := by
  obtain ⟨edge, _, joined⟩ := List.mem_filterMap.mp inside
  unfold partner? at joined
  split at joined
  · next friendship =>
      have known := isSome_identity_of_means settings nodes
        (Bool.and_eq_true_iff.mp friendship).1
      split at joined
      · injection joined with same
        exact same ▸ known.2
      · split at joined
        · injection joined with same
          exact same ▸ known.1
        · contradiction
  · contradiction

theorem friendsOf_build (agentId : String) :
    (build settings nodes edges).friendsOf agentId =
      (addJids (ofNodes settings nodes) Dict.empty (partners nodes edges agentId)).keys := by
  have start : (ofNodes settings nodes).friends.findD agentId Dict.empty = Dict.empty := by
    rw [ofNodes, Dict.findD, Dict.find?_map]
    cases (identitiesOf settings nodes).find? agentId <;> rfl
  have known : ∀ edge ∈ edges, edge.means nodes .friendship = true →
      ((ofNodes settings nodes).jid? edge.source).isSome = true ∧
        ((ofNodes settings nodes).jid? edge.target).isSome = true := by
    intro edge _ means
    unfold jid? identity?
    rw [Option.isSome_map, Option.isSome_map]
    exact isSome_identity_of_means settings nodes means
  have folded := friends_foldl nodes known agentId
  rw [start] at folded
  exact congrArg Dict.keys folded

/-- An agent has as many friends as partners. -/
theorem length_friendsOf_build (rules : IsValid nodes) (agentId : String) :
    ((build settings nodes edges).friendsOf agentId).length =
      (partners nodes edges agentId).toFinset.card := by
  have jid? (id : String) : (ofNodes settings nodes).jid? id =
      ((identitiesOf settings nodes).find? id).map Identity.jid := rfl
  have addresses : (addJids (ofNodes settings nodes) Dict.empty
      (partners nodes edges agentId)).keys.toFinset =
        ((partners nodes edges agentId).filterMap (ofNodes settings nodes).jid?).toFinset := by
    ext address
    rw [List.mem_toFinset, List.mem_toFinset, addJids, Dict.mem_keys_foldl_insert]
    simp [Dict.keys, Dict.empty]
  rw [friendsOf_build, ← List.toFinset_card_of_nodup (Dict.nodup_keys _), addresses]
  apply card_toFinset_filterMap
  · intro partner inside
    rw [jid?, Option.isSome_map]
    exact partners_isSome settings nodes edges inside
  · intro first _ second _ address firstJid secondJid
    rw [jid?] at firstJid secondJid
    obtain ⟨identity, found, rfl⟩ := Option.map_eq_some_iff.mp firstJid
    obtain ⟨other, otherFound, same⟩ := Option.map_eq_some_iff.mp secondJid
    exact jid_injective rules found otherFound same.symm

end Relations

end AgentGraph
