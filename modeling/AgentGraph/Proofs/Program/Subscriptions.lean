import AgentGraph.Proofs.Graph.Honoured
import AgentGraph.Proofs.Literal.ReadBack
import AgentGraph.Proofs.Program.ClassLines
import AgentGraph.Proofs.Program.Heirs
import AgentGraph.Proofs.Program.SoundNames
import AgentGraph.Proofs.Program.Startup

/-!
The subscriptions in the agents' classes: each agent subscribes once to every other agent
that a friendship joins it to, whichever end of the edge it is, and to nobody else.
-/

namespace AgentGraph

open Naming

/-- Whether a friendship joins the two, in one direction or the other. -/
def Graph.Befriends (graph : Graph) (first second : String) : Prop :=
  ∃ edge ∈ graph.edges, edge.kind = .friendship ∧
    (edge.source = first ∧ edge.target = second ∨
      edge.source = second ∧ edge.target = first)

theorem Graph.befriends_comm {graph : Graph} {first second : String} :
    graph.Befriends first second ↔ graph.Befriends second first := by
  unfold Befriends
  simp only [or_comm]

def subscription : String := "        await self.presence.subscribe("

def isSubscription (line : String) : Bool := subscription.toList.isPrefixOf line.toList

/-- The line that subscribes to an address. -/
def subscriptionTo (jid : String) : String :=
  "        await self.presence.subscribe(" ++ Literal.string jid ++ ")"

theorem subscriptionLine_eq : subscriptionLine = subscriptionTo := by
  funext jid
  have front : bodyIndent ++ "await self.presence.subscribe(" =
      "        await self.presence.subscribe(" := by decide +kernel
  unfold subscriptionLine subscriptionTo
  rw [front]

theorem isSubscription_subscriptionTo (jid : String) :
    isSubscription (subscriptionTo jid) = true := by
  refine List.isPrefixOf_iff_prefix.mpr ?_
  unfold subscriptionTo
  rw [String.append_assoc, String.toList_append]
  exact List.prefix_append _ _

theorem subscriptionTo_injective : Function.Injective subscriptionTo := by
  intro first second same
  unfold subscriptionTo at same
  rw [String.append_left_inj, String.append_right_inj] at same
  exact Literal.string_injective same

theorem filter_beliefLines (beliefs : Dict (Option String)) :
    (beliefLines beliefs).filter isSubscription = [] := by
  unfold beliefLines
  split
  · rfl
  · simp [isSubscription, subscription, bodyIndent]

theorem filter_promptLines (prompt : String) :
    (promptLines prompt).filter isSubscription = [] := by
  unfold promptLines
  split
  · rfl
  · simp [isSubscription, subscription, bodyIndent]

theorem isSubscription_knowledgeLine (entry : String × Json) :
    isSubscription (knowledgeLine entry) = false := by
  simp [isSubscription, subscription, knowledgeLine, bodyIndent, List.isPrefixOf]

namespace Payload

theorem filter_preparationLines (payload : Payload) (shared : AgentSettings)
    (friends bases : List String) :
    (payload.preparationLines shared friends bases).filter isSubscription =
      friends.map subscriptionTo := by
  have parents : (if bases.isEmpty then []
      else [bodyIndent ++ "await super().setup()"]).filter isSubscription = [] := by
    split <;> rfl
  have all : (friends.map subscriptionTo).filter isSubscription =
      friends.map subscriptionTo := by
    refine List.filter_eq_self.mpr fun line inside => ?_
    obtain ⟨jid, _, rfl⟩ := List.mem_map.mp inside
    exact isSubscription_subscriptionTo jid
  have beliefs : payload.beliefLines.filter isSubscription = [] := by
    cases payload with
    | reasoning special => exact filter_beliefLines special.beliefs
    | agent | prompted | behaviour | template | message | note => rfl
  have knowledge : ((namedEntries shared.knowledge).map knowledgeLine).filter isSubscription =
      [] := by
    refine List.filter_eq_nil_iff.mpr fun line inside => ?_
    obtain ⟨entry, _, rfl⟩ := List.mem_map.mp inside
    rw [isSubscription_knowledgeLine entry]
    exact Bool.false_ne_true
  have prompt : payload.promptLines.filter isSubscription = [] := by
    cases payload with
    | prompted special => exact filter_promptLines special.prompt
    | agent | reasoning | behaviour | template | message | note => rfl
  rw [preparationLines, subscriptionLine_eq, List.filter_append, List.filter_append, List.filter_append,
    List.filter_append, parents, all, beliefs, knowledge, prompt, List.nil_append,
    List.append_nil, List.append_nil, List.append_nil]

theorem filter_headLines (payload : Payload) (shared : AgentSettings) (className : String)
    (friends bases : List String) :
    (payload.headLines shared className friends bases).filter isSubscription =
      friends.map subscriptionTo := by
  have header (base : String) :
      isSubscription ("class " ++ className ++ "(" ++ base ++ "):") = false := by
    simp [isSubscription, subscription, List.isPrefixOf]
  have setup : isSubscription (memberIndent ++ "async def setup(self):") = false := by decide
  rw [headLines, List.filter_append, filter_preparationLines]
  simp [header, setup]

end Payload

namespace Relations

variable {settings : Settings} {graph : Graph}

theorem befriends_of_mem_partners {agentId partner : String}
    (inside : partner ∈ partners graph.nodes graph.edges agentId) :
    agentId ≠ partner ∧ graph.Befriends agentId partner := by
  obtain ⟨edge, held, joined⟩ := List.mem_filterMap.mp inside
  unfold partner? at joined
  split at joined
  · next friendship =>
      obtain ⟨means, apart⟩ := Bool.and_eq_true_iff.mp friendship
      have isFriendship := (means_iff.mp means).1
      have different := bne_iff_ne.mp apart
      split at joined
      · next isSource =>
          obtain rfl := Option.some.inj joined
          exact ⟨isSource ▸ different, edge, held, isFriendship, .inl ⟨isSource, rfl⟩⟩
      · split at joined
        · next isTarget =>
            obtain rfl := Option.some.inj joined
            exact ⟨fun same => different (same.symm.trans isTarget.symm), edge, held,
              isFriendship, .inr ⟨rfl, isTarget⟩⟩
        · contradiction
  · contradiction

/-- Agents are partners where a friendship joins them. -/
theorem mem_partners_iff (distinct : (graph.nodes.map Node.id).Nodup) {node other : Node}
    (inside : node ∈ graph.nodes) (isAgent : node.isAgent = true)
    (otherInside : other ∈ graph.nodes) (otherIsAgent : other.isAgent = true) :
    other.id ∈ partners graph.nodes graph.edges node.id ↔
      node.id ≠ other.id ∧ graph.Befriends node.id other.id := by
  refine ⟨befriends_of_mem_partners, ?_⟩
  rintro ⟨different, edge, held, isFriendship, ends⟩
  have endOf {node : Node} (inside : node ∈ graph.nodes) :
      endOf? graph.nodes node.id = some node := by
    rw [endOf?_eq_find? distinct, Node.find?_of_mem distinct inside]
  refine List.mem_filterMap.mpr ⟨edge, held, ?_⟩
  rcases ends with ⟨isSource, isTarget⟩ | ⟨isSource, isTarget⟩
  · have means : edge.means graph.nodes .friendship = true :=
      means_iff.mpr ⟨isFriendship, node, other, isSource ▸ endOf inside,
        isTarget ▸ endOf otherInside, Bool.and_eq_true_iff.mpr ⟨isAgent, otherIsAgent⟩⟩
    simp [partner?, means, isSource, isTarget, different]
  · have means : edge.means graph.nodes .friendship = true :=
      means_iff.mpr ⟨isFriendship, other, node, isSource ▸ endOf otherInside,
        isTarget ▸ endOf inside, Bool.and_eq_true_iff.mpr ⟨otherIsAgent, isAgent⟩⟩
    simp [partner?, means, isSource, isTarget, Ne.symm different]

end Relations

namespace Plan

/-- Whether `text` is the class of the node's agent and `head` its lines before the typed
code. -/
def IsClass (plan : Plan) (node : Node) (head : List String) (text : String) : Prop :=
  ∃ parents shared identity, ⟨node, parents⟩ ∈ plan.heirs ∧
    node.payload.agent? = some shared ∧
    plan.relations.identity? node.id = some identity ∧
    head = node.payload.headLines shared identity.className
      (plan.relations.friendsOf node.id) (plan.classNames parents) ∧
    text = Text.trimEnd ("\n".intercalate
      (head ++ setupLines shared.setupCode ++ node.payload.functionLines))

/-- Whether the agents' classes subscribe to each other as the graph's friendships say. -/
structure SubscribesToFriends (plan : Plan) (graph : Graph) : Prop where
  /-- The texts are the classes of the agents, one each. -/
  classes : ∃ agents : List Node, agents.Perm plan.agents ∧
    List.Forall₂ (fun node text => ∃ head, plan.IsClass node head text) agents
      plan.agentClassTexts
  once : ∀ node head text, plan.IsClass node head text →
    ∀ other ∈ plan.agents, node.id ≠ other.id → graph.Befriends node.id other.id →
      ∃ jid, plan.relations.jid? other.id = some jid ∧ head.count (subscriptionTo jid) = 1
  only : ∀ node head text, plan.IsClass node head text →
    ∀ line ∈ head, isSubscription line = true →
      ∃ other ∈ plan.agents, node.id ≠ other.id ∧ graph.Befriends node.id other.id ∧
        ∃ jid, plan.relations.jid? other.id = some jid ∧ line = subscriptionTo jid
  notOwn : ∀ node head text, plan.IsClass node head text →
    ∀ jid, plan.relations.jid? node.id = some jid → subscriptionTo jid ∉ head
  eachOther : ∀ first firstHead firstText second secondHead secondText,
    plan.IsClass first firstHead firstText → plan.IsClass second secondHead secondText →
      ∀ firstJid secondJid, plan.relations.jid? first.id = some firstJid →
        plan.relations.jid? second.id = some secondJid →
          (subscriptionTo secondJid ∈ firstHead ↔ subscriptionTo firstJid ∈ secondHead)

variable {plan : Plan} {settings : Settings} {graph : Graph} {node other : Node}
  {head : List String} {text jid : String}

theorem IsClass.mem_agents (isClass : plan.IsClass node head text) : node ∈ plan.agents := by
  obtain ⟨parents, _, _, inside, _⟩ := isClass
  exact plan.follows_heirs.perm.subset (List.mem_map_of_mem inside)

theorem IsClass.filter_head (isClass : plan.IsClass node head text) :
    head.filter isSubscription = (plan.relations.friendsOf node.id).map subscriptionTo := by
  obtain ⟨_, _, _, _, _, _, rfl, _⟩ := isClass
  exact node.payload.filter_headLines _ _ _ _

theorem IsClass.mem_head_iff (isClass : plan.IsClass node head text) :
    subscriptionTo jid ∈ head ↔ jid ∈ plan.relations.friendsOf node.id := by
  have filtered : subscriptionTo jid ∈ head ↔
      subscriptionTo jid ∈ head.filter isSubscription := by
    rw [List.mem_filter, and_iff_left (isSubscription_subscriptionTo jid)]
  rw [filtered, isClass.filter_head, List.mem_map_of_injective subscriptionTo_injective]

theorem IsClass.count_head (isClass : plan.IsClass node head text)
    (isFriend : jid ∈ plan.relations.friendsOf node.id) :
    head.count (subscriptionTo jid) = 1 := by
  have nodup : (plan.relations.friendsOf node.id).Nodup := Dict.nodup_keys _
  rw [← List.count_filter (isSubscription_subscriptionTo jid), isClass.filter_head,
    List.count_map_of_injective _ _ subscriptionTo_injective,
    List.count_eq_one_of_mem nodup isFriend]

theorem exists_of_jid? {id : String}
    (found : (ofGraph settings graph).relations.jid? id = some jid) :
    ∃ node ∈ (ofGraph settings graph).agents, node.id = id := by
  obtain ⟨identity, known, _⟩ := Option.map_eq_some_iff.mp found
  obtain ⟨node, inside, sameId, identifies⟩ := identity?_ofGraph known
  exact ⟨node, List.mem_filter.mpr ⟨inside, identifies.isAgent⟩, sameId⟩

theorem jid?_injective (rules : IsValid graph.nodes) {first second : String}
    (found : (ofGraph settings graph).relations.jid? first = some jid)
    (otherFound : (ofGraph settings graph).relations.jid? second = some jid) :
    first = second := by
  obtain ⟨identity, known, rfl⟩ := Option.map_eq_some_iff.mp found
  obtain ⟨other, otherKnown, same⟩ := Option.map_eq_some_iff.mp otherFound
  exact (identities_separates rules).2.2 _ _ _ _ known otherKnown same.symm

section Rules

variable (distinct : (graph.nodes.map Node.id).Nodup) (rules : IsValid graph.nodes)

include distinct rules

theorem mem_friendsOf_iff (inside : node ∈ (ofGraph settings graph).agents)
    (otherInside : other ∈ (ofGraph settings graph).agents)
    (otherJid : (ofGraph settings graph).relations.jid? other.id = some jid) :
    jid ∈ (ofGraph settings graph).relations.friendsOf node.id ↔
      node.id ≠ other.id ∧ graph.Befriends node.id other.id := by
  obtain ⟨held, isAgent⟩ := List.mem_filter.mp inside
  obtain ⟨otherHeld, otherIsAgent⟩ := List.mem_filter.mp otherInside
  rw [← Relations.mem_partners_iff distinct held isAgent otherHeld otherIsAgent]
  have start : (ofGraph settings graph).relations.jid? =
      (Relations.ofNodes settings graph.nodes).jid? := Relations.jid?_build
  constructor
  · intro isFriend
    obtain ⟨partner, joined, partnerJid⟩ := Relations.mem_friendsOf_build.mp isFriend
    rw [← start] at partnerJid
    rwa [jid?_injective rules otherJid partnerJid]
  · intro joined
    exact Relations.mem_friendsOf_build.mpr ⟨other.id, joined, start ▸ otherJid⟩

end Rules

theorem exists_jid? (distinct : (graph.nodes.map Node.id).Nodup)
    (inside : node ∈ (ofGraph settings graph).agents) :
    ∃ jid, (ofGraph settings graph).relations.jid? node.id = some jid := by
  obtain ⟨identity, found⟩ := exists_of_mem_agents settings distinct inside
  exact ⟨identity.jid, Option.map_eq_some_iff.mpr ⟨identity, found, rfl⟩⟩

theorem forall₂_classes (distinct : (graph.nodes.map Node.id).Nodup) :
    List.Forall₂ (fun node text => ∃ head, (ofGraph settings graph).IsClass node head text)
      ((ofGraph settings graph).heirs.map Heir.node)
      (ofGraph settings graph).agentClassTexts := by
  rw [List.forall₂_map_left_iff]
  refine forall₂_filterMap_of_forall fun heir inside => ?_
  obtain ⟨held, isAgent⟩ := mem_of_heirs inside
  obtain ⟨shared, payload⟩ := Option.isSome_iff_exists.mp isAgent
  obtain ⟨identity, found, _⟩ := identity?_of_mem settings distinct held isAgent
  rw [found]
  refine ⟨_, rfl, _, heir.parents, shared, identity, inside, payload, found, rfl, ?_⟩
  rw [Payload.classText, payload]
  rfl

theorem subscribesToFriends_ofGraph (settings : Settings)
    (distinct : (graph.nodes.map Node.id).Nodup) (valid : violations graph.nodes = []) :
    (ofGraph settings graph).SubscribesToFriends graph := by
  have rules := (violations_eq_nil_iff graph.nodes).mp valid
  have subscribes {node other : Node} {head : List String} {text jid : String}
      (isClass : (ofGraph settings graph).IsClass node head text)
      (otherInside : other ∈ (ofGraph settings graph).agents)
      (otherJid : (ofGraph settings graph).relations.jid? other.id = some jid) :
      subscriptionTo jid ∈ head ↔ node.id ≠ other.id ∧ graph.Befriends node.id other.id :=
    isClass.mem_head_iff.trans
      (mem_friendsOf_iff distinct rules isClass.mem_agents otherInside otherJid)
  exact {
    classes := ⟨_, (ofGraph settings graph).follows_heirs.perm, forall₂_classes distinct⟩
    once := by
      intro node head text isClass other inside different befriends
      obtain ⟨jid, found⟩ := exists_jid? distinct inside
      have inHead := (subscribes isClass inside found).mpr ⟨different, befriends⟩
      exact ⟨jid, found, isClass.count_head (isClass.mem_head_iff.mp inHead)⟩
    only := by
      intro node head text isClass line inside isSubscription
      have filtered := List.mem_filter.mpr ⟨inside, isSubscription⟩
      rw [isClass.filter_head] at filtered
      obtain ⟨jid, isFriend, rfl⟩ := List.mem_map.mp filtered
      obtain ⟨partner, _, partnerJid⟩ := Relations.mem_friendsOf_build.mp isFriend
      rw [← Relations.jid?_build] at partnerJid
      obtain ⟨other, otherInside, rfl⟩ := exists_of_jid? partnerJid
      obtain ⟨different, befriends⟩ := (subscribes isClass otherInside partnerJid).mp inside
      exact ⟨other, otherInside, different, befriends, jid, partnerJid, rfl⟩
    notOwn := by
      intro node head text isClass jid found inside
      exact ((subscribes isClass isClass.mem_agents found).mp inside).1 rfl
    eachOther := by
      intro first _ _ second _ _ isClass otherIsClass firstJid secondJid found otherFound
      rw [subscribes isClass otherIsClass.mem_agents otherFound,
        subscribes otherIsClass isClass.mem_agents found, ne_comm,
        Graph.befriends_comm] }

/-- Two agents who are friends twice over, one of them also with itself and with nobody. -/
def acquainted : Graph where
  nodes := [⟨"a", none, .agent {}⟩, ⟨"b", none, .agent { instanceName := "agent1" }⟩,
    ⟨"c", none, .reasoning {}⟩]
  edges := [{ id := "1", source := "a", target := "b", kind := .friendship },
    { id := "2", source := "b", target := "a", kind := .friendship },
    { id := "3", source := "a", target := "a", kind := .friendship },
    { id := "4", source := "a", target := "d", kind := .friendship }]

theorem subscribesToFriends_ofGraph_acquainted :
    (acquainted.nodes.map Node.id).Nodup ∧ violations acquainted.nodes = [] ∧
      (ofGraph {} acquainted).SubscribesToFriends acquainted :=
  ⟨by decide +kernel, by decide +kernel,
    subscribesToFriends_ofGraph {} (by decide +kernel) (by decide +kernel)⟩

example : ["a", "b", "c"].map (ofGraph {} acquainted).relations.friendsOf =
    [["agent1@localhost"], ["agent2@localhost"], []] := by
  decide +kernel

end Plan

end AgentGraph
