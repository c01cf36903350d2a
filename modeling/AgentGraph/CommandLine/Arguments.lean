/-!
The arguments of the command line. Options stand before or after the command, each at
most once at either place; an option of the command overrides the same one before it.
After `help` stands at most one name of a command, and nothing else.
-/

namespace AgentGraph.CommandLine

inductive Command where
  | generate
  | check
  | version
deriving DecidableEq

def Command.name : Command → String
  | .generate => "generate"
  | .check => "check"
  | .version => "version"

def Command.ofName? : String → Option Command
  | "generate" | "g" => some .generate
  | "check" => some .check
  | "version" => some .version
  | _ => none

inductive Request where
  | generate (project : String) (output : Option String) (toScreen : Bool)
  | check (project : String)
  | version
deriving DecidableEq

structure Arguments where
  settings : Option String
  request : Request
deriving DecidableEq

inductive Stop where
  | misuse
  | help
  /-- The program's version is asked for, perhaps after a command. -/
  | version (command : Option Command)
deriving DecidableEq

inductive Switch where
  | verbose
  | quiet
  | toScreen
deriving DecidableEq

inductive PathOption where
  | settings
  | output
deriving DecidableEq

inductive Meaning where
  | switch (switch : Switch)
  | path (option : PathOption)
  | help
  | version
deriving DecidableEq

def Meaning.ofLong? (command : Option Command) : String → Option Meaning
  | "verbose" => some (.switch .verbose)
  | "quiet" => some (.switch .quiet)
  | "config" => some (.path .settings)
  | "help" => some .help
  | "version" => some .version
  | "output" => if command = some .generate then some (.path .output) else none
  | "print" => if command = some .generate then some (.switch .toScreen) else none
  | _ => none

def Meaning.ofShort? (command : Option Command) : Char → Option Meaning
  | 'v' => some (.switch .verbose)
  | 'q' => some (.switch .quiet)
  | 'c' => some (.path .settings)
  | 'h' => some .help
  | 'V' => some .version
  | 'o' => if command = some .generate then some (.path .output) else none
  | _ => none

inductive Topic where
  | commands
  | help
  | command (command : Command)
deriving DecidableEq

def Topic.narrow? : Topic → String → Option Topic
  | .commands, "help" => some .help
  | .commands, name => (Command.ofName? name).map .command
  | _, _ => none

/-- What was given at one place: before the command, or after it. -/
structure Given where
  switches : List Switch := []
  settings : Option String := none
  output : Option String := none
  project : Option String := none
deriving DecidableEq

/-- The arguments read so far; `pending` is an option that still lacks its path. -/
structure Reading where
  command : Option Command := none
  topic : Option Topic := none
  before : Given := {}
  given : Given := {}
  pending : Option PathOption := none
  optionsEnded : Bool := false
deriving DecidableEq

namespace Reading

/-- A switch may be given once, except for the level of detail. -/
def turnOn (reading : Reading) (switch : Switch) : Except Stop Reading :=
  if switch ≠ .verbose ∧ switch ∈ reading.given.switches then .error .misuse
  else .ok { reading with given.switches := switch :: reading.given.switches }

/-- A path is not empty, and is given once. -/
def givePath (reading : Reading) (option : PathOption) (path : String) :
    Except Stop Reading :=
  if path.isEmpty then .error .misuse
  else match option with
    | .settings =>
        if reading.given.settings.isSome then .error .misuse
        else .ok { reading with given.settings := some path, pending := none }
    | .output =>
        if reading.given.output.isSome then .error .misuse
        else .ok { reading with given.output := some path, pending := none }

/-- An option that begins with two hyphens, perhaps with a path after an equals sign. -/
def readLong (reading : Reading) (text : List Char) : Except Stop Reading :=
  let name := String.ofList (text.takeWhile (· != '='))
  match Meaning.ofLong? reading.command name, text.dropWhile (· != '=') with
  | none, _ => .error .misuse
  | some (.switch switch), [] => reading.turnOn switch
  | some (.path option), [] => .ok { reading with pending := some option }
  | some (.path option), _ :: path => reading.givePath option (String.ofList path)
  | some .help, [] => .error .help
  | some .version, [] => .error (.version reading.command)
  | some _, _ :: _ => .error .misuse

/-- The path right after an option's letter, without an equals sign before it. -/
private def attachedPath : List Char → String
  | '=' :: path => String.ofList path
  | path => String.ofList path

/-- Options of one letter; the first one with a path takes the letters after it. -/
def readShort (reading : Reading) : List Char → Except Stop Reading
  | [] => .ok reading
  | c :: rest =>
      match Meaning.ofShort? reading.command c with
      | none => .error .misuse
      | some (.switch switch) => do readShort (← reading.turnOn switch) rest
      | some (.path option) =>
          if rest.isEmpty then .ok { reading with pending := some option }
          else reading.givePath option (attachedPath rest)
      | some .help => .error .help
      | some .version => .error (.version reading.command)

def readPlain (reading : Reading) (argument : String) : Except Stop Reading :=
  match reading.command with
  | none =>
      if reading.optionsEnded then .error .misuse
      else if argument = "help" then .ok { reading with topic := some .commands }
      else match Command.ofName? argument with
        | some command => .ok { command, before := reading.given }
        | none => .error .misuse
  | some .version => .error .misuse
  | some _ =>
      if argument.isEmpty ∨ reading.given.project.isSome then .error .misuse
      else .ok { reading with given.project := some argument }

def readWord (reading : Reading) (argument : String) : Except Stop Reading :=
  if reading.optionsEnded then reading.readPlain argument
  else match reading.pending, argument.toList with
    | some _, '-' :: _ :: _ => .error .misuse
    | some option, _ => reading.givePath option argument
    | none, ['-', '-'] => .ok { reading with optionsEnded := true }
    | none, '-' :: '-' :: text => reading.readLong text
    | none, '-' :: c :: text => reading.readShort (c :: text)
    | none, _ => reading.readPlain argument

def readArgument (reading : Reading) (argument : String) : Except Stop Reading :=
  match reading.topic with
  | none => reading.readWord argument
  | some topic =>
      match topic.narrow? argument with
      | some topic => .ok { reading with topic := some topic }
      | none => .error .misuse

/-- The request of the arguments, once all are read and none asks for help. -/
def finish (reading : Reading) : Except Stop Arguments :=
  if reading.topic.isSome then .error .help else
  let settings := reading.given.settings.or reading.before.settings
  match reading.pending, reading.command, reading.given.project with
  | none, some .generate, some project =>
      .ok ⟨settings, .generate project reading.given.output
        (reading.given.switches.contains .toScreen)⟩
  | none, some .check, some project => .ok ⟨settings, .check project⟩
  | none, some .version, _ => .ok ⟨settings, .version⟩
  | _, _, _ => .error .misuse

end Reading

def parse (arguments : List String) : Except Stop Arguments := do
  (← arguments.foldlM Reading.readArgument {}).finish

end AgentGraph.CommandLine
