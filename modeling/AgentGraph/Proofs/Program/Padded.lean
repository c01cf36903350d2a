import AgentGraph.Proofs.Program.Shown
import Mathlib.Data.List.Forall2

/-!
Graphs with white space put around names, classes and hosts. All that reads a name agrees
on where it is blank and on what it is otherwise, so that the program is the same.
-/

namespace AgentGraph

/-- Whether the names, the class and the host of the one are those of the other with white
space around them. -/
structure AgentSettings.Padded (agent other : AgentSettings) : Prop where
  className : Text.Padded agent.className other.className
  instanceName : Text.Padded agent.instanceName other.instanceName
  host : Text.Padded agent.host other.host
  rest : other = { agent with
    className := other.className, instanceName := other.instanceName, host := other.host }

inductive Payload.Padded : Payload → Payload → Prop
  | agent {shared other : AgentSettings} (padded : shared.Padded other) :
      Padded (.agent shared) (.agent other)
  | reasoning {special : ReasoningAgent} {other : AgentSettings}
      (padded : special.agent.Padded other) :
      Padded (.reasoning special) (.reasoning { special with agent := other })
  | prompted {special : PromptedAgent} {other : AgentSettings}
      (padded : special.agent.Padded other) :
      Padded (.prompted special) (.prompted { special with agent := other })
  | behaviour {settings : Behaviour} {className : String}
      (padded : Text.Padded settings.className className) :
      Padded (.behaviour settings) (.behaviour { settings with className })
  | other (payload : Payload) : Padded payload payload

def Node.Padded (node other : Node) : Prop :=
  other.id = node.id ∧ other.position = node.position ∧ node.payload.Padded other.payload

theorem AgentSettings.Padded.shown {agent other : AgentSettings} (padded : agent.Padded other) :
    other.shown = agent.shown := by
  rw [padded.rest]
  simp only [AgentSettings.shown, padded.className.trim, padded.instanceName.trim,
    padded.host.trim]

theorem Payload.Padded.shown {payload other : Payload} (padded : payload.Padded other) :
    other.shown = payload.shown := by
  cases padded with
  | agent padded | reasoning padded | prompted padded =>
      simp only [Payload.shown, Payload.mapAgent, padded.shown]
  | behaviour padded =>
      simp only [Payload.shown, Behaviour.shown, padded.trim]
      rfl
  | other => rfl

theorem Node.Padded.shown {node other : Node} (padded : node.Padded other) :
    other.shown = node.shown := by
  obtain ⟨sameId, samePosition, payload⟩ := padded
  rw [Node.shown, Node.shown, sameId, samePosition, payload.shown]

/-- White space around names, classes and hosts changes neither the program nor the
violations. -/
theorem Program.generate_padded (settings : Settings) {nodes others : List Node}
    (padded : List.Forall₂ Node.Padded nodes others) (edges : List Edge) :
    Program.generate settings ⟨others, edges⟩ = Program.generate settings ⟨nodes, edges⟩ := by
  have same : others.map Node.shown = nodes.map Node.shown := by
    induction padded with
    | nil => rfl
    | cons head _ ih => rw [List.map_cons, List.map_cons, head.shown, ih]
  have graphs : Graph.shown ⟨others, edges⟩ = Graph.shown ⟨nodes, edges⟩ := by
    rw [Graph.shown, Graph.shown, same]
  rw [← generate_shown settings ⟨others, edges⟩, graphs, generate_shown]

/-- An agent and a behaviour, each with one field left empty. -/
def terse : List Node :=
  [⟨"a", none, .agent { className := "Greeter", host := "example.org" }⟩,
    ⟨"b", none, .behaviour {}⟩]

/-- The same with spaces, a tab and an ideographic space typed into the fields. -/
def spacious : List Node :=
  [⟨"a", none, .agent
      { className := " Greeter", instanceName := "\t", host := "example.org\u3000" }⟩,
    ⟨"b", none, .behaviour { className := "  " }⟩]

theorem padded_spacious : List.Forall₂ Node.Padded terse spacious := by
  have agent : AgentSettings.Padded { className := "Greeter", host := "example.org" }
      { className := " Greeter", instanceName := "\t", host := "example.org\u3000" } := {
    className := ⟨" ", "", by decide, by decide, by decide⟩
    instanceName := ⟨"\t", "", by decide, by decide, by decide⟩
    host := ⟨"", "\u3000", by decide, by decide, by decide⟩
    rest := rfl }
  have behaviour : Text.Padded "" "  " := ⟨"  ", "", by decide, by decide, by decide⟩
  exact .cons ⟨rfl, rfl, .agent agent⟩ (.cons ⟨rfl, rfl, .behaviour behaviour⟩ .nil)

theorem Program.generate_padded_spacious :
    List.Forall₂ Node.Padded terse spacious ∧
      Program.generate {} ⟨spacious, []⟩ = Program.generate {} ⟨terse, []⟩ :=
  ⟨padded_spacious, generate_padded {} padded_spacious []⟩

end AgentGraph
