import AgentGraph.Project
import AgentGraph.Proofs.Edge.RoundTrip
import AgentGraph.Proofs.Program.Shown

/-!
Saved projects are read back. What is lost are the numbers that are not finite, and
those do not change the generated program.
-/

namespace AgentGraph

open Json Decode

namespace Project

def finite (project : Project) : Project := { project with graph := project.graph.finite }

def HasFiniteNumbers (project : Project) : Prop :=
  ∀ node ∈ project.graph.nodes, ∀ behaviour ∈ node.payload.behaviour?,
    (∀ period ∈ behaviour.period, period.isFinite = true) ∧
      ∀ offset ∈ behaviour.startOffset, offset.isFinite = true

/-- What reading promises of a project. -/
structure IsSound (depth : Nat) (project : Project) : Prop where
  version : major project.version = major currentVersion
  nodes : ∀ node ∈ project.graph.nodes, node.IsSound depth

variable {depth : Nat}

theorem isSound_of_nodes {value : Json} {nodes : List Node}
    (regular : Regular Number.IsWord (depth + 4) value)
    (decoded : list Node.decode value = .ok nodes) : ∀ node ∈ nodes, node.IsSound depth := by
  cases regular with
  | array regular =>
      intro node inside
      obtain ⟨item, held, itemDecoded⟩ := Decoded.mapM_mem decoded node inside
      exact Node.isSound_of_decode (regular item held) itemDecoded
  | null | bool | number | string | object => contradiction

/-- The version is the one that the check of the major version has seen. -/
theorem isSound_of_decode {members : List (String × Json)} {version : String}
    {initial project : Project}
    (regular : ∀ member ∈ members, Regular Number.IsWord (depth + 4) member.2)
    (versions : ∀ member ∈ members, member.1 = "version" → member.2 = .string version)
    (supported : major version = major currentVersion) (start : initial.IsSound depth)
    (decoded : record.decode initial (.object members) = .ok project) :
    project.IsSound depth := by
  obtain ⟨draft, read, rest⟩ := Decoded.bind_eq_ok.mp decoded
  have sound : draft.value.IsSound depth := by
    refine Record.readMembers_invariant ?_ start read
    intro member inside
    simp only [record, List.forall_mem_cons]
    refine ⟨?_, ?_, ?_, ?_, by simp⟩
    · intro named before after held fieldRead
      obtain ⟨text, textRead, same⟩ := Decoded.bind_eq_ok.mp fieldRead
      have isVersion : "version" = member.1 := by
        simpa [Field.isNamed, Field.required, Field.optional] using named
      rw [versions member inside isVersion.symm] at textRead
      injection textRead with textSame
      injection same with same
      exact same ▸ ⟨textSame ▸ supported, held.nodes⟩
    · intro _ before after held fieldRead
      obtain ⟨timestamp, _, same⟩ := Decoded.bind_eq_ok.mp fieldRead
      injection same with same
      exact same ▸ ⟨held.version, held.nodes⟩
    · intro _ before after held fieldRead
      obtain ⟨nodes, nodesRead, same⟩ := Decoded.bind_eq_ok.mp fieldRead
      injection same with same
      exact same ▸ ⟨held.version, isSound_of_nodes (regular member inside) nodesRead⟩
    · intro _ before after held fieldRead
      obtain ⟨edges, _, same⟩ := Decoded.bind_eq_ok.mp fieldRead
      injection same with same
      exact same ▸ ⟨held.version, held.nodes⟩
  split at rest
  · contradiction
  · injection rest with same
    exact same ▸ sound

/-- The members as they are decoded, the version as text. -/
def withVersion (version : String) (members : List (String × Json)) : List (String × Json) :=
  members.map fun member =>
    if member.1 = "version" then ("version", .string version) else member

/-- What the checks before decoding leave of a document. -/
theorem ofMembers_ok {now : Calendar.Moment} {members : List (String × Json)}
    {project : Project} (read : ofMembers now members = .ok project) :
    ∃ version, major version = major currentVersion ∧
      record.decode (ofGraph {} now) (.object (withVersion version members)) = .ok project := by
  unfold ofMembers at read
  split at read
  · contradiction
  · split at read
    · contradiction
    · next version _ =>
        split at read
        · cases read
        · next supported =>
            refine ⟨version, not_not.mp supported, ?_⟩
            dsimp only at read
            split at read
            · next decoded =>
                injection read with same
                exact same ▸ decoded
            · cases read

theorem ofText_ok {now : Calendar.Moment} {document : String} {project : Project}
    (read : ofText now document = .ok project) :
    ∃ members, parse? document = some (.object members) ∧
      ofMembers now members = .ok project := by
  unfold ofText at read
  split at read
  · contradiction
  · next members parsed => exact ⟨members, parsed, read⟩
  · contradiction

theorem isSound_of_ofText {now : Calendar.Moment} {document : String} {project : Project}
    (read : ofText now document = .ok project) : project.IsSound 122 := by
  obtain ⟨members, parsed, read⟩ := ofText_ok read
  obtain ⟨version, supported, decoded⟩ := ofMembers_ok read
  have regular : Regular Number.IsWord (122 + 5) (.object members) := parse?_regular parsed
  have start : (ofGraph {} now).IsSound 122 := ⟨rfl, fun _ inside => absurd inside List.not_mem_nil⟩
  refine isSound_of_decode ?_ ?_ supported start decoded
  · intro member inside
    obtain ⟨original, held, rfl⟩ := List.mem_map.mp inside
    split
    · exact .string version
    · exact regular.of_object.2 original held
  · intro member inside named
    obtain ⟨original, held, rfl⟩ := List.mem_map.mp inside
    split
    · rfl
    · next different =>
        rw [if_neg different] at named
        exact absurd named different

/-- A project's document nests five levels deeper than the values typed into nodes. -/
theorem nested_toJson {project : Project} (sound : project.IsSound depth) :
    Nested Number.IsWord (depth + 5) project.toJson := by
  refine .object ?_
  simp only [List.forall_mem_cons]
  refine ⟨.string _, .string _, ?_, ?_, by simp⟩
  · refine .array fun item inside => ?_
    obtain ⟨node, held, rfl⟩ := List.mem_map.mp inside
    exact Node.nested_toJson (sound.nodes node held)
  · refine .array fun item inside => ?_
    obtain ⟨edge, held, rfl⟩ := List.mem_map.mp inside
    exact edge.nested_toJson

theorem decode_nodes {nodes : List Node} (sound : ∀ node ∈ nodes, node.IsSound depth) :
    list Node.decode (.array (nodes.map fun node => node.toJson.sorted)) =
      .ok (nodes.map Node.finite) := by
  rw [list]
  induction nodes with
  | nil => rfl
  | cons node nodes ih =>
      have rest := ih fun node inside => sound node (List.mem_cons_of_mem _ inside)
      simp only [List.map_cons, List.mapM_cons, Node.decode_toJson (sound node List.mem_cons_self),
        rest, Decoded.ok_bind]
      rfl

theorem decode_edges (edges : List Edge) :
    list Edge.decode (.array (edges.map fun edge => edge.toJson.sorted)) = .ok edges := by
  rw [list]
  exact Decoded.mapM_eq_ok fun edge _ => edge.decode_toJson

/-- The members of a project's document in the order of their keys. -/
def storedMembers (project : Project) : List (String × Json) :=
  [("edges", .array (project.graph.edges.map fun edge => edge.toJson.sorted)),
    ("nodes", .array (project.graph.nodes.map fun node => node.toJson.sorted)),
    ("timestamp", .string project.timestamp.text), ("version", .string project.version)]

theorem sorted_toJson (project : Project) :
    project.toJson.sorted = .object project.storedMembers := by
  simp only [toJson, storedMembers, sorted_object, sorted_array, sorted_string, ofDict,
    List.map_map, Function.comp_def, List.map_cons, List.map_nil, Dict.entries_ofList,
    List.foldl_cons, List.foldl_nil, Dict.insertEntry, String.reduceLT, String.reduceEq,
    reduceIte]

theorem ofMembers_storedMembers (later : Calendar.Moment) {project : Project}
    (sound : project.IsSound depth)
    (time : Calendar.lenient project.timestamp.text = .ok project.timestamp) :
    ofMembers later project.storedMembers = .ok project.finite := by
  have nodes := decode_nodes sound.nodes
  have edges := decode_edges project.graph.edges
  have timestamp : decodeTimestamp (.string project.timestamp.text) = .ok project.timestamp := by
    rw [decodeTimestamp, time]
  have decoded : record.decode (ofGraph {} later) (.object project.storedMembers) =
      .ok project.finite := by
    simp [storedMembers, Record.decode, Record.ofMembers, Record.readMembers,
      Record.readMember, record, Field.optional, Field.required, Field.isNamed,
      Record.Draft.readField, Record.missing?, nodes, edges, timestamp]
    rfl
  have kept : withVersion project.version project.storedMembers = project.storedMembers := by
    simp [withVersion, storedMembers]
  have present : requiredMembers.find? (fun key =>
      (project.storedMembers.lookup key).isNone) = none := by
    simp [requiredMembers, storedMembers, List.lookup_cons]
  have version : project.storedMembers.lookup "version" = some (.string project.version) := by
    simp [storedMembers, List.lookup_cons]
  unfold ofMembers
  rw [present]
  simp only [version, Json.ofOption, versionText, sound.version, ne_eq, not_true_eq_false,
    if_false]
  unfold withVersion at kept
  rw [kept, decoded]

private theorem filter_of_forall {α : Type} {holds : α → Bool} {given : Option α}
    (all : ∀ value ∈ given, holds value = true) : given.filter holds = given := by
  cases given with
  | none => rfl
  | some value => exact Option.filter_some_pos (all value rfl)

theorem finite_eq {project : Project} (finite : project.HasFiniteNumbers) :
    project.finite = project := by
  have nodes : project.graph.nodes.map Node.finite = project.graph.nodes := by
    have same : ∀ node ∈ project.graph.nodes, node.finite = node := by
      intro node inside
      obtain ⟨id, position, payload⟩ := node
      cases payload with
      | behaviour behaviour =>
          obtain ⟨periods, offsets⟩ := finite _ inside behaviour rfl
          have period : behaviour.period.filter Binary64.isFinite = behaviour.period :=
            filter_of_forall periods
          have offset : behaviour.startOffset.filter Binary64.isFinite =
              behaviour.startOffset := filter_of_forall offsets
          simp only [Node.finite, Payload.finite, Behaviour.finite, period, offset]
      | agent | reasoning | prompted | template | message | note => rfl
    rw [List.map_congr_left same, List.map_id']
  unfold Project.finite Graph.finite
  rw [nodes]

/-- A project that was read is read back from its text, but for the numbers that are not
finite. Leaving those out changes neither the program nor the violations, and a project
without any has the same text again. -/
theorem ofText_text {now : Calendar.Moment} (later : Calendar.Moment) {document : String}
    {project : Project} (read : ofText now document = .ok project)
    (doubles : ∀ double, Number.real double ∈ project.toJson.numbers →
      (Number.real double).IsReadBack)
    (time : Calendar.lenient project.timestamp.text = .ok project.timestamp) :
    ofText later project.text = .ok project.finite ∧
      (∀ settings, Program.generate settings project.finite.graph =
        Program.generate settings project.graph) ∧
      (project.HasFiniteNumbers → project.finite.text = project.text) := by
  have sound := isSound_of_ofText read
  have nested : Nested Number.IsReadBack maxDepth project.toJson :=
    (nested_toJson sound).isReadBack doubles
  refine ⟨?_, ?_, ?_⟩
  · unfold ofText text
    rw [parse?_pretty nested, sorted_toJson]
    exact ofMembers_storedMembers later sound time
  · exact fun settings => Program.generate_finite settings project.graph
  · intro finite
    rw [finite_eq finite]

/-- A document with a period without end, saved in a leap second. -/
def endlessDocument : String :=
  "\x7b\"version\": 1.0, \"timestamp\": \"2024-02-29T23:59:60Z\", \"edges\": [], \"nodes\": [" ++
    "\x7b\"id\": \"b\", \"type\": \"behaviour\", \"position\": \x7b\"x\": 0.5, \"y\": -2\x7d, " ++
    "\"data\": \x7b\"period\": \"inf\", \"start_offset\": 2\x7d\x7d]\x7d"

def endlessProject : Project where
  version := "1.0"
  timestamp := ⟨⟨2024, 2, 29, by decide, by decide⟩, .ofNat 23 59 59 1000000000⟩
  graph := {
    nodes := [{
      id := "b"
      position := some ⟨Binary64.ofRatio false 1 2, Binary64.ofInt (-2)⟩
      payload := .behaviour {
        period := some (.infinite false)
        startOffset := some (Binary64.ofInt 2) } }] }

theorem ofText_text_endlessProject :
    ofText Calendar.epoch endlessDocument = .ok endlessProject ∧
      ofText Calendar.epoch endlessProject.text = .ok endlessProject.finite := by
  have read : ofText Calendar.epoch endlessDocument = .ok endlessProject := by
    decide +kernel
  have numbers : ∀ number ∈ endlessProject.toJson.numbers,
      parse? number.text = some (.number number) := by
    decide +kernel
  have time : Calendar.lenient endlessProject.timestamp.text =
      .ok endlessProject.timestamp := by
    decide +kernel
  exact ⟨read, (ofText_text Calendar.epoch read (fun _ found => numbers _ found) time).1⟩

end Project

end AgentGraph
