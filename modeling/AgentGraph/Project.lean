import AgentGraph.Calendar.Timestamp
import AgentGraph.Edge.Codec
import AgentGraph.Failure
import AgentGraph.Graph
import AgentGraph.Json.Parser
import AgentGraph.Node.Decode
import AgentGraph.Node.Encode

/-!
Projects: graphs as they are kept in documents, with a version of the format and the
time of saving.
-/

namespace AgentGraph

structure Project where
  version : String
  timestamp : Calendar.Moment
  graph : Graph
deriving DecidableEq

namespace Project

def currentVersion : String := "1.0"

/-- What stands before the first point of a version. -/
def major (version : String) : String :=
  String.ofList ((Text.trim version).toList.takeWhile (· != '.'))

def ofGraph (graph : Graph) (now : Calendar.Moment) : Project :=
  ⟨currentVersion, now, graph⟩

def decodeTimestamp : Json → Decoded Calendar.Moment
  | .string text =>
      match Calendar.lenient text with
      | .ok moment => .ok moment
      | .error fault => .error (.badTimestamp fault)
  | other => .error (.wrongType other .timestamp)

def record : Record Project where
  name := "Project"
  fields := [
    .required "version" Decode.string fun version project => { project with version },
    .optional "timestamp" decodeTimestamp fun timestamp project =>
      { project with timestamp },
    .required "nodes" (Decode.list Node.decode) fun nodes project =>
      { project with graph.nodes := nodes },
    .required "edges" (Decode.list Edge.decode) fun edges project =>
      { project with graph.edges := edges }]

/-- The version of a document as text; a number counts by its text. -/
def versionText : Json → Except ProjectFault String
  | .string version => .ok version
  | .number version => .ok version.text
  | other => .error (.invalidVersion other)

def requiredMembers : List String := ["version", "nodes", "edges"]

/-- The project of a document's members. A major version other than the current one
is refused before anything else is decoded. -/
def ofMembers (now : Calendar.Moment) (members : List (String × Json)) :
    Except Failure Project :=
  match requiredMembers.find? fun key => (members.lookup key).isNone with
  | some key => .error (.project (.missing key))
  | none =>
      match versionText (.ofOption (members.lookup "version")) with
      | .error fault => .error (.project fault)
      | .ok version =>
          if major version ≠ major currentVersion then
            .error (.unsupportedVersion version)
          else
            let members := members.map fun member =>
              if member.1 = "version" then ("version", .string version) else member
            match record.decode (ofGraph {} now) (.object members) with
            | .ok project => .ok project
            | .error error => .error (.undecodable error)

/-- The project that a text holds. A document without a timestamp gets the time `now`. -/
def ofText (now : Calendar.Moment) (text : String) : Except Failure Project :=
  match Json.parse? text with
  | none => .error .notJson
  | some (.object members) => ofMembers now members
  | some _ => .error (.project .notObject)

def toJson (project : Project) : Json :=
  .object [("version", .string project.version),
    ("timestamp", .string project.timestamp.text),
    ("nodes", .array (project.graph.nodes.map Node.toJson)),
    ("edges", .array (project.graph.edges.map Edge.toJson))]

def text (project : Project) : String := project.toJson.pretty ""

end Project

end AgentGraph
