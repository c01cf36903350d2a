import AgentGraph.Proofs.Node.Beliefs
import AgentGraph.Proofs.Program.Shown

/-!
Graphs whose reasoning agents have maps of beliefs in the place of older texts. The classes of
such agents are the same, and so is the whole program.
-/

namespace AgentGraph

namespace Payload

def migrated : Payload → Payload
  | .reasoning special => .reasoning special.migrated
  | other => other

variable (payload : Payload)

theorem agent?_migrated : payload.migrated.agent? = payload.agent? := by
  cases payload <;> rfl

theorem behaviour?_migrated : payload.migrated.behaviour? = payload.behaviour? := by
  cases payload <;> rfl

theorem classText_migrated (className : String) (friends bases : List String) :
    payload.migrated.classText className friends bases =
      payload.classText className friends bases := by
  cases payload with
  | reasoning special =>
      have beliefs : (Payload.reasoning special.migrated).beliefLines =
          (Payload.reasoning special).beliefLines :=
        congrArg AgentGraph.beliefLines special.beliefs_migrated
      simp only [migrated, classText, classLines, preparationLines, beliefs]
      rfl
  | agent | prompted | behaviour | template | message | note => rfl

end Payload

def Node.migrated (node : Node) : Node := { node with payload := node.payload.migrated }

theorem Node.keepsShown_migrated : Node.KeepsShown Node.migrated where
  id _ := rfl
  role node := by
    rw [Node.migrated]
    cases node.payload <;> rfl
  agent? node := by rw [Node.migrated, Payload.agent?_migrated]
  behaviour? node := by rw [Node.migrated, Payload.behaviour?_migrated]
  envelope node role := by
    rw [Node.migrated]
    cases payload : node.payload with
    | reasoning => simp [payload, Payload.role] at role
    | agent | prompted | behaviour | template | message | note => rfl
  isReasoning node := by
    rw [Node.migrated]
    cases node.payload <;> rfl
  program? node := by
    rw [Node.migrated]
    cases node.payload <;> rfl
  classText node := by
    funext className friends bases
    exact node.payload.classText_migrated className friends bases

def Graph.migrated (graph : Graph) : Graph := graph.change Node.migrated

/-- Beliefs are kept in the form that reading them once more gives back. A map of them can
stand for all that an agent had of them: neither its class nor any program changes. -/
theorem Program.generate_migrated (settings : Settings) (graph : Graph) :
    (∀ special : ReasoningAgent,
      (∀ belief ∈ special.beliefs.entries, ReasoningAgent.IsKept belief) ∧
      special.migrated.beliefs = special.beliefs ∧
      ∀ className friends bases,
        (Payload.reasoning special.migrated).classText className friends bases =
          (Payload.reasoning special).classText className friends bases) ∧
    Program.generate settings graph.migrated = Program.generate settings graph := by
  constructor
  · intro special
    exact ⟨fun _ => special.isKept_of_mem_beliefs, special.beliefs_migrated,
      (Payload.reasoning special).classText_migrated⟩
  · exact generate_change Node.keepsShown_migrated settings graph

/-- Entries of one name after trimming count once, and values that are blank count as none. -/
example :
    ({ beliefTexts := ["ready", " hungry : no", "hungry:very: so", ":unnamed", "ready: "] } :
      ReasoningAgent).beliefs.entries = [("hungry", some "very: so"), ("ready", none)] := by
  decide +kernel

end AgentGraph
