import AgentGraph.Proofs.Program.Change
import AgentGraph.Proofs.Program.Names
import AgentGraph.Proofs.Relations.Friends

/-!
Graphs with the texts erased that are typed as data: hosts, passwords, the fields of
envelopes and prompts. Whether such a field is blank remains.
-/

namespace AgentGraph

/-- What remains of a field whose text is erased. -/
def erasedField (field : String) : String := if Text.isBlankText field then field else "erased"

def AgentSettings.erased (agent : AgentSettings) : AgentSettings :=
  { agent with host := "", password := "" }

def Envelope.erased (envelope : Envelope) : Envelope where
  sender := erasedField envelope.sender
  recipient := erasedField envelope.recipient
  body := erasedField envelope.body
  thread := erasedField envelope.thread
  metadata := envelope.metadata

def Payload.erased : Payload → Payload
  | .agent shared => .agent shared.erased
  | .reasoning special => .reasoning { special with agent := special.agent.erased }
  | .prompted special =>
      .prompted { agent := special.agent.erased, prompt := erasedField special.prompt }
  | .template envelope => .template envelope.erased
  | .message envelope => .message envelope.erased
  | .behaviour settings => .behaviour settings
  | .note text => .note text

def Node.erased (node : Node) : Node := { node with payload := node.payload.erased }

theorem isBlankText_erasedField (field : String) :
    Text.isBlankText (erasedField field) = Text.isBlankText field := by
  unfold erasedField
  split
  · rfl
  · next typed =>
      rw [Bool.not_eq_true] at typed
      rw [typed]
      decide

namespace Payload

theorem agent?_erased (payload : Payload) :
    payload.erased.agent? = payload.agent?.map AgentSettings.erased := by
  cases payload <;> rfl

theorem behaviour?_erased (payload : Payload) : payload.erased.behaviour? = payload.behaviour? := by
  cases payload <;> rfl

theorem isReasoning_erased (payload : Payload) :
    payload.erased.isReasoning = payload.isReasoning := by
  cases payload <;> rfl

theorem role_erased (payload : Payload) : payload.erased.role = payload.role := by
  cases payload <;> rfl

theorem program?_erased (payload : Payload) :
    Plan.program? payload.erased = Plan.program? payload := by
  cases payload <;> rfl

end Payload

theorem Node.keepsNames_erased : Node.KeepsNames Node.erased where
  id _ := rfl
  role node := node.payload.role_erased
  instanceName? node := by
    rw [Node.instanceName?, Node.erased, Payload.agent?_erased, Option.bind_map]
    rfl
  agentClass? node := by
    rw [Node.agentClass?, Node.erased, Payload.agent?_erased, Option.bind_map]
    rfl
  behaviourClass? node := by
    rw [Node.behaviourClass?, Node.erased, Payload.behaviour?_erased]
    rfl

namespace Dict

variable {α β : Type}

theorem map_insert (f : α → β) (dict : Dict α) (key : String) (value : α) :
    (dict.insert key value).map (fun _ => f) = (dict.map fun _ => f).insert key (f value) := by
  have listed : ∀ entries : List (String × α),
      (insertEntry key value entries).map (fun entry => (entry.1, f entry.2)) =
        insertEntry key (f value) (entries.map fun entry => (entry.1, f entry.2)) := by
    intro entries
    induction entries with
    | nil => rfl
    | cons head rest ih =>
        simp only [insertEntry, List.map_cons]
        split
        · rfl
        · split
          · rfl
          · rw [List.map_cons, ih]
  exact ext_entries (listed dict.entries)

theorem map_ofList (f : α → β) (entries : List (String × α)) :
    (ofList entries).map (fun _ => f) = ofList (entries.map fun entry => (entry.1, f entry.2)) := by
  induction entries using List.reverseRecOn with
  | nil => rfl
  | append_singleton entries last ih =>
      rw [ofList, List.foldl_append, List.map_append, ofList, List.foldl_append]
      simp only [List.foldl_cons, List.foldl_nil, List.map_cons, List.map_nil]
      rw [map_insert]
      exact congrArg (fun dict => insert dict last.1 (f last.2)) ih

end Dict

/-- The identity of the same agent at the default host. -/
def Identity.erased (settings : Settings) (identity : Identity) : Identity :=
  { identity with
    jid := identity.instanceName ++ "@" ++ Text.trimmedOr "" settings.defaultHost }

namespace Relations

variable (settings : Settings) (nodes : List Node) (edges : List Edge)

theorem resolveAgents_erased : ∀ (number : Nat) (names classes : List String),
    resolveAgents settings number names classes (nodes.map Node.erased) =
      (resolveAgents settings number names classes nodes).map fun entry =>
        (entry.1, entry.2.erased settings) := by
  induction nodes with
  | nil => exact fun _ _ _ => rfl
  | cons node nodes ih =>
      intro number names classes
      have same : node.erased.payload.agent? = node.payload.agent?.map AgentSettings.erased :=
        node.payload.agent?_erased
      rw [List.map_cons, resolveAgents, resolveAgents, same]
      cases node.payload.agent? with
      | none => exact ih number names classes
      | some agent =>
          simp only [Option.map_some, List.map_cons, ih]
          rfl

theorem identitiesOf_erased :
    identitiesOf settings (nodes.map Node.erased) =
      (identitiesOf settings nodes).map fun _ => Identity.erased settings := by
  unfold identitiesOf
  rw [resolveAgents_erased, Node.keepsNames_erased.instanceNames,
    Node.keepsNames_erased.allClasses, Dict.map_ofList]

theorem identity?_erased (agentId : String) :
    (build settings (nodes.map Node.erased) edges).identity? agentId =
      ((build settings nodes edges).identity? agentId).map (Identity.erased settings) := by
  rw [identity?, identity?, identities_build, identities_build, identitiesOf_erased,
    Dict.find?_map]

theorem length_friendsOf_erased {nodes : List Node} (rules : Naming.IsValid nodes)
    (rules' : Naming.IsValid (nodes.map Node.erased)) (agentId : String) :
    ((build settings (nodes.map Node.erased) edges).friendsOf agentId).length =
      ((build settings nodes edges).friendsOf agentId).length := by
  rw [length_friendsOf_build _ _ _ rules', length_friendsOf_build _ _ _ rules, partners,
    partners, Node.keepsNames_erased.partner?]

end Relations

def Graph.erased (graph : Graph) : Graph :=
  { graph with nodes := graph.nodes.map Node.erased }

end AgentGraph
