import AgentGraph.Decode.Record
import AgentGraph.Edge.Basic

/-!
Edges from JSON and to JSON. A handle that is absent is written as null.
-/

namespace AgentGraph

open Decode

def EdgeKind.variants : List (String × EdgeKind) :=
  EdgeKind.all.map fun kind => (kind.name, kind)

def Handle.variants : List (String × Handle) :=
  Handle.all.map fun handle => (handle.name, handle)

def Handle.decode : Json → Decoded Handle := variant Handle.variants

def Edge.record : Record Edge where
  name := "Edge"
  fields := [
    .required "id" string fun id edge => { edge with id },
    .required "source" string fun source edge => { edge with source },
    .required "target" string fun target edge => { edge with target },
    .optional "sourceHandle" (optional Handle.decode) fun sourceHandle edge =>
      { edge with sourceHandle },
    .optional "targetHandle" (optional Handle.decode) fun targetHandle edge =>
      { edge with targetHandle },
    .required "type" (variant EdgeKind.variants) fun kind edge => { edge with kind }]

def Edge.decode : Json → Decoded Edge :=
  Edge.record.decode ⟨"", "", "", none, none, .friendship⟩

def handleJson (handle : Option Handle) : Json :=
  .ofOption (handle.map fun handle => .string handle.name)

def Edge.toJson (edge : Edge) : Json :=
  .object [("id", .string edge.id), ("source", .string edge.source),
    ("target", .string edge.target), ("sourceHandle", handleJson edge.sourceHandle),
    ("targetHandle", handleJson edge.targetHandle), ("type", .string edge.kind.name)]

end AgentGraph
