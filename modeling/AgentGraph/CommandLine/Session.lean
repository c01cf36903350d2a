import AgentGraph.Archive.Basic
import AgentGraph.CommandLine.Arguments
import AgentGraph.Project
import AgentGraph.Settings.Toml

/-!
A run of the command line as a value: which files it reads and writes, and what it
says in the end. Settings are read first, whatever the command.
-/

namespace AgentGraph.CommandLine

inductive Outcome where
  | success (output : String)
  | failure (cause : Failure)
  | misuse
deriving DecidableEq

/-- A step is the end, or a file access whose result decides what follows. A file that
cannot be read has no text, and writing tells whether it succeeded. -/
inductive Session where
  | done (outcome : Outcome)
  | read (path : String) (next : Option String → Session)
  | write (path : String) (archive : Archive) (next : Bool → Session)

def programName : String := "sagc"

def programVersion : String := "0.1.0"

def helpText : String :=
  "Usage: sagc [-v] [-q] [-c FILE] COMMAND\n\nCommands:\n" ++
    "  generate PROJECT [-o FILE] [--print]  write the program's archive\n" ++
    "  check PROJECT                         look for violations only\n" ++
    "  version                               show the versions\n"

def versionsText : String :=
  programName ++ " " ++ programVersion ++ "\nproject format " ++
    Project.currentVersion ++ "\n"

def versionLine (command : Option Command) : String :=
  programName ++ ((command.map fun command => "-" ++ command.name).getD "") ++ " " ++
    programVersion ++ "\n"

/-- The name at the end of a path with its last extension replaced: what follows the
last point, unless the point begins the name. A name that is two points without its
extension is the folder above, which takes no extension. -/
def withExtension (extension : String) (name : List Char) : List Char :=
  match name.reverse.dropWhile (· != '.') with
  | ['.', '.'] => ['.', '.']
  | [] | ['.'] => name ++ '.' :: extension.toList
  | _ :: stem => stem.reverse ++ '.' :: extension.toList

/-- The path of the archive where none is given: beside the project. -/
def archivePath (project : String) : String :=
  let reversed := project.toList.reverse
  let name := (reversed.takeWhile (· != '/')).reverse
  let folder := (reversed.dropWhile (· != '/')).reverse
  String.ofList (folder ++ withExtension "zip" name)

namespace Session

private def failed (failure : Failure) : Session := .done (.failure failure)

def withSettings (path : Option String) (next : Settings → Session) : Session :=
  match path with
  | none => next {}
  | some path => .read path fun
      | none => failed (.file path)
      | some text =>
          match Settings.ofToml? text with
          | some settings => next settings
          | none => failed .settings

def withProgram (now : Calendar.Moment) (settings : Settings) (path : String)
    (next : Project → Program → Session) : Session :=
  .read path fun
    | none => failed (.file path)
    | some text =>
        match Project.ofText now text with
        | .error failure => failed failure
        | .ok project =>
            match Program.generate settings project.graph with
            | .error violations => failed (.naming violations)
            | .ok program => next project program

def generatedText (program : Program) (path : String) : String :=
  "Generated " ++ program.main.name ++ " (+" ++ program.auxiliary.length.repr ++
    " reasoning file(s)) -> " ++ path ++ "\n"

/-- The archive is written as a whole, or not at all. -/
def writeArchive (program : Program) (path : String) : Session :=
  match program.archive with
  | .error name => failed (.duplicateDocument name)
  | .ok archive => .write path archive fun written =>
      if written then .done (.success (generatedText program path))
      else failed (.file path)

def checkedText (path : String) (graph : Graph) : String :=
  path ++ ": ok (" ++ graph.nodes.length.repr ++ " nodes, " ++
    graph.edges.length.repr ++ " edges)\n"

def ofRequest (now : Calendar.Moment) (settings : Settings) : Request → Session
  | .generate project output toScreen =>
      withProgram now settings project fun _ program =>
        if toScreen then .done (.success program.main.content)
        else writeArchive program (output.getD (archivePath project))
  | .check project =>
      withProgram now settings project fun loaded _ =>
        .done (.success (checkedText project loaded.graph))
  | .version => .done (.success versionsText)

/-- The run that the arguments ask for; `now` is the time of projects without one. -/
def ofArguments (now : Calendar.Moment) (arguments : List String) : Session :=
  match parse arguments with
  | .error .misuse => .done .misuse
  | .error .help => .done (.success helpText)
  | .error (.version command) => .done (.success (versionLine command))
  | .ok arguments => withSettings arguments.settings fun settings =>
      ofRequest now settings arguments.request

end Session

namespace Outcome

/-- Nothing but success is zero; violated rules for names are one. -/
def exitCode : Outcome → UInt32
  | .success _ => 0
  | .failure (.naming _) => 1
  | .failure _ => 2
  | .misuse => 2

def output : Outcome → String
  | .success output => output
  | _ => ""

def errorText : Outcome → String
  | .success _ => ""
  | .failure (.naming violations) => Failure.namingMessage violations ++ "\n"
  | .failure cause => "error: " ++ cause.message ++ "\n"
  | .misuse => "error: unexpected arguments\n\n" ++ helpText

end Outcome

end AgentGraph.CommandLine
