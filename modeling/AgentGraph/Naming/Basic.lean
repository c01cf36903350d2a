import AgentGraph.Node.Basic

/-!
Names in the generated program: which texts are names, which of them are taken by
the language or by the program itself, and the names that were typed into a node.
-/

namespace AgentGraph

namespace Naming

def isNameStart (c : Char) : Bool := c.isAlpha || c == '_'

def isNameChar (c : Char) : Bool := c.isAlphanum || c == '_'

/-- A letter or an underscore, then letters, digits and underscores, all of ASCII. -/
def isIdentifier (name : String) : Bool :=
  match name.toList with
  | [] => false
  | c :: rest => isNameStart c && rest.all isNameChar

def keywords : List String := [
  "False", "None", "True", "and", "as", "assert", "async", "await", "break", "class",
  "continue", "def", "del", "elif", "else", "except", "finally", "for", "from", "global",
  "if", "import", "in", "is", "lambda", "nonlocal", "not", "or", "pass", "raise", "return",
  "try", "while", "with", "yield"]

/-- The names that every generated program may bind itself. -/
def programNames : List String := [
  "spade", "datetime", "main", "wait_until_finished", "Agent", "BDIAgent", "Template",
  "Message", "CyclicBehaviour", "OneShotBehaviour", "TimeoutBehaviour",
  "PeriodicBehaviour", "FSMBehaviour"]

def isReserved (name : String) : Bool :=
  keywords.contains name || programNames.contains name

/-- What was typed into a field, trimmed; none where the field is blank. -/
def typed? (field : String) : Option String :=
  if Text.isBlankText field then none else some (Text.trim field)

end Naming

namespace Node

open Naming

def instanceName? (node : Node) : Option String :=
  node.payload.agent?.bind fun agent => typed? agent.instanceName

def agentClass? (node : Node) : Option String :=
  node.payload.agent?.bind fun agent => typed? agent.className

def behaviourClass? (node : Node) : Option String :=
  node.payload.behaviour?.bind fun behaviour => typed? behaviour.className

end Node

namespace Naming

def instanceNames (nodes : List Node) : List String := nodes.filterMap Node.instanceName?

def agentClasses (nodes : List Node) : List String := nodes.filterMap Node.agentClass?

def behaviourClasses (nodes : List Node) : List String :=
  nodes.filterMap Node.behaviourClass?

def allClasses (nodes : List Node) : List String :=
  agentClasses nodes ++ behaviourClasses nodes

end Naming

end AgentGraph
