import AgentGraph.Archive.Bytes
import AgentGraph.CommandLine.Session

/-!
The command line: a session run on the files of the machine.
-/

namespace AgentGraph.CommandLine

def readFile? (path : String) : IO (Option String) := do
  try
    return some (← IO.FS.readFile path)
  catch _ =>
    return none

def writeFile (path : String) (archive : Archive) : IO Bool := do
  try
    IO.FS.writeBinFile path (ByteArray.mk archive.bytes.toArray)
    return true
  catch _ =>
    return false

def perform : Session → IO Outcome
  | .done outcome => return outcome
  | .read path next => do perform (next (← readFile? path))
  | .write path archive next => do perform (next (← writeFile path archive))

end AgentGraph.CommandLine

open AgentGraph CommandLine in
def main (arguments : List String) : IO UInt32 := do
  let outcome ← perform (Session.ofArguments Calendar.epoch arguments)
  IO.print outcome.output
  IO.eprint outcome.errorText
  return outcome.exitCode
