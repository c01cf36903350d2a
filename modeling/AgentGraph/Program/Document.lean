import AgentGraph.Decode.Record

/-!
Documents: texts under a file name.
-/

namespace AgentGraph

structure Document where
  name : String
  content : String
deriving DecidableEq

namespace Document

def record : Record Document where
  name := "GeneratedFile"
  fields := [
    .required "name" Decode.string fun name document => { document with name },
    .required "content" Decode.string fun content document => { document with content }]

def decode : Json → Decoded Document := record.decode ⟨"", ""⟩

def toJson (document : Document) : Json :=
  .object [("name", .string document.name), ("content", .string document.content)]

end Document

end AgentGraph
