import AgentGraph.Decode.Error
import AgentGraph.Naming.Violation

/-!
What can go wrong between a project's text and its archive.
-/

namespace AgentGraph

inductive ProjectFault where
  | notObject
  | missing (member : String)
  | invalidVersion (value : Json)
deriving DecidableEq

def ProjectFault.message : ProjectFault → String
  | .notObject => "expected a JSON object"
  | .missing member => "missing field `" ++ member ++ "`"
  | .invalidVersion value => "invalid version: " ++ value.text

inductive Failure where
  | naming (violations : List Naming.Violation)
  | project (fault : ProjectFault)
  | unsupportedVersion (version : String)
  | notJson
  | undecodable (error : DecodeError)
  | settings
  | duplicateDocument (name : String)
  | file (path : String)
deriving DecidableEq

namespace Failure

def namingMessage (violations : List Naming.Violation) : String :=
  "graph validation failed:\n  - " ++
    "\n  - ".intercalate (violations.map Naming.Violation.message)

def message : Failure → String
  | .naming violations => namingMessage violations
  | .project fault => "invalid project file: " ++ fault.message
  | .unsupportedVersion version => "unsupported project version: " ++ version
  | .notJson => "JSON error: the text is not JSON"
  | .undecodable error => "JSON error: " ++ error.message
  | .settings => "configuration error: the file is not TOML, or a setting has a wrong type"
  | .duplicateDocument name =>
      "archive error: invalid Zip archive: Duplicate filename: " ++ name
  | .file path => "I/O error: " ++ path ++ " is not accessible"

end Failure

end AgentGraph
