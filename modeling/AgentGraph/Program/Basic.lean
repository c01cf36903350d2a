import AgentGraph.Program.Document
import AgentGraph.Program.Import
import AgentGraph.Program.Plan
import AgentGraph.Naming.Violation

/-!
The generated program: a main document and the reasoning programs. A graph that
violates a rule for names has none.
-/

namespace AgentGraph

structure Program where
  main : Document
  auxiliary : List Document
deriving DecidableEq

def emptyProgramText : String :=
  "# SPADE Base Template\n\nfrom spade.agent import Agent\n\nasync def main():\n" ++
    "    while True:\n        pass\n"

def headerText : String :=
  "# Auto-generated SPADE code from an agent graph\n" ++
    "# DO NOT EDIT - Changes will be overwritten\n" ++
    "# Compiled with SAGC (SPADE Agent Graph Compiler)\n"

namespace Plan

def importText (plan : Plan) : String :=
  let imports := "\n".intercalate ((Import.ofNodes plan.nodes).map Import.text)
  if plan.settings.header then headerText ++ "\n" ++ imports else imports

def startupText (plan : Plan) : String :=
  "\n".intercalate ("async def main():" :: plan.statements.map Statement.line)

def sections (plan : Plan) : List String :=
  [plan.importText] ++ plan.behaviourClassTexts ++ plan.agentClassTexts ++
    [plan.startupText, "if __name__ == \"__main__\":\n    spade.run(main())"]

def mainText (plan : Plan) : String :=
  if plan.nodes.isEmpty then emptyProgramText
  else "\n\n\n".intercalate plan.sections ++ "\n"

def reasoningDocument? (plan : Plan) (node : Node) : Option Document := do
  let content ← program? node.payload
  let identity ← plan.relations.identity? node.id
  return ⟨plan.settings.reasoningFileName identity.instanceName, content⟩

def program (plan : Plan) : Program where
  main := ⟨plan.settings.entryPoint, plan.mainText⟩
  auxiliary := plan.nodes.filterMap plan.reasoningDocument?

end Plan

namespace Program

/-- The program of a graph, whatever its names. -/
def ofGraph (settings : Settings) (graph : Graph) : Program :=
  (Plan.build settings graph.nodes
    (Relations.build settings graph.nodes graph.edges)).program

/-- The program of a graph, or the rules for names that it violates. -/
def generate (settings : Settings) (graph : Graph) :
    Except (List Naming.Violation) Program :=
  match Naming.violations graph.nodes with
  | [] => .ok (ofGraph settings graph)
  | violations => .error violations

end Program

end AgentGraph
