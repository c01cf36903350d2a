import AgentGraph.Node.Basic

/-!
The beliefs that a reasoning agent starts with: names, and values where they have
one. The map counts where there is one, else the texts.
-/

namespace AgentGraph.ReasoningAgent

def meaningful? (value : Option String) : Option String :=
  value.filter fun text => !Text.isBlankText text

def cutAtColon (text : String) : String × Option String :=
  let name := text.toList.takeWhile (· != ':')
  match text.toList.dropWhile (· != ':') with
  | [] => (String.ofList name, none)
  | _ :: value => (String.ofList name, some (String.ofList value))

/-- The belief of a map entry; none where the name is blank. -/
def beliefOfEntry? (entry : String × Option String) : Option (String × Option String) :=
  if Text.isBlankText entry.1 then none
  else some (Text.trim entry.1, meaningful? entry.2)

/-- The belief of a text `name` or `name:value`; none where the name is blank. -/
def beliefOfText? (text : String) : Option (String × Option String) :=
  let (name, value) := cutAtColon text
  beliefOfEntry? (name, value.map Text.trim)

/-- The initial beliefs; of two with one name the later one counts. -/
def beliefs (agent : ReasoningAgent) : Dict (Option String) :=
  Dict.ofList (match agent.beliefMap with
    | some dict => dict.entries.filterMap beliefOfEntry?
    | none => agent.beliefTexts.filterMap beliefOfText?)

end AgentGraph.ReasoningAgent
