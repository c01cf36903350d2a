/-!
Settings of the generated program: file names, and what agents get for fields that
were left empty.
-/

namespace AgentGraph

structure Settings where
  entryPoint : String := "spade_code.py"
  reasoningSuffix : String := "program.asl"
  defaultHost : String := "localhost"
  defaultPort : UInt16 := 5222
  defaultPassword : String := "password"
  header : Bool := true
deriving DecidableEq

def Settings.reasoningFileName (settings : Settings) (instanceName : String) : String :=
  instanceName ++ "_" ++ settings.reasoningSuffix

end AgentGraph
