import AgentGraph.CommandLine.Session

/-!
Runs in a directory that is a value: texts and archives by path. A path leads through
folders, which are there where a file lies in them; paths and their steps are of
limited length. Outside the directory only the null device is known.
-/

namespace AgentGraph.CommandLine

inductive File where
  | text (content : String)
  | archive (archive : Archive)

/-- Files by their path from the directory, without idle steps. -/
abbrev Directory := List (List String × File)

def maxPathSize : Nat := 4095

def maxStepSize : Nat := 255

/-- The steps of a path; steps that stay in place are left out. None for a path that
leaves the directory, that names a folder, or that is too long. -/
def steps? (path : String) : Option (List String) :=
  let steps := path.splitOn "/"
  let inside := steps.head? != some "" && !steps.contains ".."
  let named := steps.getLast?.any fun name => name != "" && name != "."
  let short := path.utf8ByteSize ≤ maxPathSize &&
    steps.all fun step => step.utf8ByteSize ≤ maxStepSize
  if inside && named && short then
    some (steps.filter fun step => step != "" && step != ".")
  else none

/-- The path that reads as an empty text, and where whatever is written is lost. -/
def nullDevice : String := "/dev/null"

namespace Directory

def isFolder (directory : Directory) (steps : List String) : Bool :=
  steps.isEmpty || directory.any fun file =>
    steps.isPrefixOf file.1 && steps.length < file.1.length

def read? (directory : Directory) (path : String) : Option String :=
  if path = nullDevice then some ""
  else match (steps? path).bind fun steps => directory.lookup steps with
    | some (.text content) => some content
    | _ => none

def put (directory : Directory) (steps : List String) (file : File) : Directory :=
  directory.filter (fun entry => entry.1 != steps) ++ [(steps, file)]

/-- The directory after an archive was written; none where the path takes no file. -/
def write? (directory : Directory) (path : String) (archive : Archive) :
    Option Directory :=
  if path = nullDevice then some directory
  else do
    let steps ← steps? path
    if directory.isFolder steps.dropLast && !directory.isFolder steps then
      some (directory.put steps (.archive archive))
    else none

def run (directory : Directory) : Session → Outcome × Directory
  | .done outcome => (outcome, directory)
  | .read path next => directory.run (next (directory.read? path))
  | .write path archive next =>
      match directory.write? path archive with
      | some written => run written (next true)
      | none => directory.run (next false)

end Directory

end AgentGraph.CommandLine
