import AgentGraph.Naming.Basic

/-!
The rules for typed names. Every violation is reported, node by node; a name is
repeated where an earlier node has it already.
-/

namespace AgentGraph.Naming

/-- A broken rule; `id` is the node's id where a single node is at fault. -/
inductive Violation where
  | agentNameInvalid (name id : String)
  | agentNameReserved (name id : String)
  | agentNameClash (name id : String)
  | agentNameRepeated (name : String)
  | agentClassReserved (name id : String)
  | agentClassRepeated (name : String)
  | behaviourClassInvalid (name id : String)
  | behaviourClassReserved (name id : String)
  | behaviourClassRepeated (name : String)
deriving DecidableEq

private def atNode (what name id fault : String) : String :=
  what ++ " '" ++ name ++ "' (node " ++ id ++ ") " ++ fault

def Violation.message : Violation → String
  | .agentNameInvalid name id =>
      atNode "Agent name" name id "is not a valid Python identifier"
  | .agentNameReserved name id => atNode "Agent name" name id "is a reserved Python name"
  | .agentNameClash name id =>
      atNode "Agent name" name id "clashes with a class of the same name"
  | .agentNameRepeated name => "Each Agent node must have a unique Name: '" ++ name ++ "'"
  | .agentClassReserved name id => atNode "Agent class" name id "is a reserved Python name"
  | .agentClassRepeated name =>
      "Each Agent node must have a unique Class name: '" ++ name ++ "'"
  | .behaviourClassInvalid name id =>
      atNode "Behaviour class" name id "is not a valid Python identifier"
  | .behaviourClassReserved name id =>
      atNode "Behaviour class" name id "is a reserved Python name"
  | .behaviourClassRepeated name =>
      "Each Behaviour node must have a unique Class name: '" ++ name ++ "'"

def demand (holds : Bool) (violation : Violation) : List Violation :=
  if holds then [] else [violation]

/-- An agent's name is an identifier that is not reserved and not a class. -/
def agentNameViolations (classes earlier : List String) (id name : String) :
    List Violation :=
  (if !isIdentifier name then [.agentNameInvalid name id]
    else if isReserved name then [.agentNameReserved name id]
    else demand (!classes.contains name) (.agentNameClash name id)) ++
  demand (!earlier.contains name) (.agentNameRepeated name)

def agentClassViolations (earlier : List String) (id name : String) : List Violation :=
  demand (!isReserved name) (.agentClassReserved name id) ++
  demand (!earlier.contains name) (.agentClassRepeated name)

/-- A behaviour's class is an identifier that is not reserved. -/
def behaviourClassViolations (earlier : List String) (id name : String) :
    List Violation :=
  (if !isIdentifier name then [.behaviourClassInvalid name id]
    else demand (!isReserved name) (.behaviourClassReserved name id)) ++
  demand (!earlier.contains name) (.behaviourClassRepeated name)

def ofTyped (violations : String → List Violation) : Option String → List Violation
  | some name => violations name
  | none => []

def nodeViolations (classes : List String) (earlier : List Node) (node : Node) :
    List Violation :=
  ofTyped (agentNameViolations classes (instanceNames earlier) node.id)
    node.instanceName? ++
  ofTyped (agentClassViolations (agentClasses earlier) node.id) node.agentClass? ++
  ofTyped (behaviourClassViolations (behaviourClasses earlier) node.id)
    node.behaviourClass?

def violationsAfter (classes : List String) (earlier : List Node) :
    List Node → List Violation
  | [] => []
  | node :: rest =>
      nodeViolations classes earlier node ++
        violationsAfter classes (node :: earlier) rest

def violations (nodes : List Node) : List Violation :=
  violationsAfter (allClasses nodes) [] nodes

end AgentGraph.Naming
