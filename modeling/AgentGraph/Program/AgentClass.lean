import AgentGraph.Literal.Basic
import AgentGraph.Node.Beliefs

/-!
The class of an agent. Its setup subscribes to friends, sets beliefs, knowledge and
the prompt, and then runs the typed code; a reasoning agent's functions follow as
methods.
-/

namespace AgentGraph

def bodyIndent : String := "        "

def memberIndent : String := "    "

namespace Payload

def frameworkClass (payload : Payload) : String :=
  if payload.isReasoning then "BDIAgent" else "Agent"

end Payload

def subscriptionLine (jid : String) : String :=
  bodyIndent ++ "await self.presence.subscribe(" ++ Literal.string jid ++ ")"

def beliefEntry (belief : String × Option String) : String :=
  Literal.string belief.1 ++ ": " ++
    match belief.2 with
    | some value => Literal.typedText value
    | none => Literal.value .null

def beliefLines (beliefs : Dict (Option String)) : List String :=
  if beliefs.isEmpty then []
  else
    [bodyIndent ++ "initial_beliefs = \x7b" ++
        ", ".intercalate (beliefs.entries.map beliefEntry) ++ "\x7d",
      bodyIndent ++ "for belief, value in initial_beliefs.items():",
      bodyIndent ++ "    if value is None:",
      bodyIndent ++ "        self.bdi.set_belief(belief)",
      bodyIndent ++ "    else:",
      bodyIndent ++ "        self.bdi.set_belief(belief, value)"]

def namedEntries {α : Type} (dict : Dict α) : List (String × α) :=
  (dict.entries.filter fun entry => !Text.isBlankText entry.1).map fun entry =>
    (Text.trim entry.1, entry.2)

def knowledgeLine (entry : String × Json) : String :=
  bodyIndent ++ "self.set(" ++ Literal.string entry.1 ++ ", " ++
    Literal.typedValue entry.2 ++ ")"

def promptLines (prompt : String) : List String :=
  if Text.isBlankText prompt then []
  else [bodyIndent ++ "self.set(\"llm_prompt\", " ++ Literal.string prompt ++ ")"]

def setupLines (code : String) : List String :=
  if Text.isBlankText code then [bodyIndent ++ "pass"]
  else Text.indentedLines bodyIndent (Text.trimEnd code)

/-- The functions that are not blank, with an empty line before the first one. -/
def functionLines (functions : List String) : List String :=
  let typed := functions.filter fun code => !Text.isBlankText code
  let lines := typed.flatMap fun code =>
    Text.indentedLines memberIndent (Text.trimEnd code)
  if typed.isEmpty then [] else "" :: lines

namespace Payload

def beliefLines : Payload → List String
  | .reasoning special => AgentGraph.beliefLines special.beliefs
  | _ => []

def promptLines : Payload → List String
  | .prompted special => AgentGraph.promptLines special.prompt
  | _ => []

def functionLines : Payload → List String
  | .reasoning special => AgentGraph.functionLines special.functions
  | _ => []

/-- What the setup of an agent does before the typed code. -/
def preparationLines (payload : Payload) (shared : AgentSettings)
    (friends bases : List String) : List String :=
  (if bases.isEmpty then [] else [bodyIndent ++ "await super().setup()"]) ++
  friends.map subscriptionLine ++ payload.beliefLines ++
  (namedEntries shared.knowledge).map knowledgeLine ++ payload.promptLines

/-- The lines of an agent's class; `friends` are addresses, `bases` classes. -/
def classLines (payload : Payload) (shared : AgentSettings) (className : String)
    (friends bases : List String) : List String :=
  let base := if bases.isEmpty then payload.frameworkClass else ", ".intercalate bases
  ["class " ++ className ++ "(" ++ base ++ "):",
    memberIndent ++ "async def setup(self):"] ++
  payload.preparationLines shared friends bases ++ setupLines shared.setupCode ++
  payload.functionLines

def classText (payload : Payload) (className : String) (friends bases : List String) :
    String :=
  match payload.agent? with
  | some shared =>
      Text.trimEnd ("\n".intercalate (payload.classLines shared className friends bases))
  | none => ""

end Payload

end AgentGraph
