import AgentGraph.Edge.Codec
import AgentGraph.Proofs.Decode.Encoded

/-!
Edges that were written are read back.
-/

namespace AgentGraph

open Json Decode

theorem EdgeKind.decode_name (kind : EdgeKind) :
    variant EdgeKind.variants (.string kind.name) = .ok kind := by
  cases kind with
  | friendship | agentBehaviour | inheritance | template | message => rfl

theorem Handle.decode_name (handle : Handle) :
    Handle.decode (.string handle.name) = .ok handle := by
  cases handle with
  | friendshipSource | friendshipTarget | behaviour | inheritanceSource | inheritanceTarget
  | template | message => rfl

theorem decode_handleJson (handle : Option Handle) :
    optional Handle.decode (handleJson handle) = .ok handle := by
  cases handle with
  | none => rfl
  | some handle => exact congrArg (some <$> ·) (Handle.decode_name handle)

theorem sorted_handleJson (handle : Option Handle) :
    (handleJson handle).sorted = handleJson handle := by
  cases handle with
  | none => exact sorted_null
  | some handle => exact sorted_string _

theorem Edge.sorted_toJson (edge : Edge) :
    edge.toJson.sorted = .object [("id", .string edge.id), ("source", .string edge.source),
      ("sourceHandle", handleJson edge.sourceHandle), ("target", .string edge.target),
      ("targetHandle", handleJson edge.targetHandle), ("type", .string edge.kind.name)] := by
  simp only [Edge.toJson, sorted_object, sorted_string, sorted_handleJson, ofDict,
    List.map_cons, List.map_nil, Dict.entries_ofList, List.foldl_cons, List.foldl_nil,
    Dict.insertEntry, String.reduceLT, String.reduceEq, reduceIte]

theorem Edge.decode_toJson (edge : Edge) : Edge.decode edge.toJson.sorted = .ok edge := by
  rw [Edge.sorted_toJson]
  simp [Edge.decode, Record.decode, Record.ofMembers, Record.readMembers, Record.readMember,
    Edge.record, Field.optional, Field.required, Field.isNamed, Record.Draft.readField,
    Record.missing?, decode_handleJson, EdgeKind.decode_name]
  rfl

theorem Edge.nested_toJson {numbers : Number → Prop} {depth : Nat} (edge : Edge) :
    Nested numbers (depth + 1) edge.toJson := by
  have handle (handle : Option Handle) : Nested numbers depth (handleJson handle) := by
    cases handle with
    | none => exact .null
    | some handle => exact .string handle.name
  refine .object ?_
  simp only [List.forall_mem_cons]
  exact ⟨.string _, .string _, .string _, handle _, handle _, .string _, by simp⟩

end AgentGraph
