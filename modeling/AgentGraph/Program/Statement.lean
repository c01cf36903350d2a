import AgentGraph.Program.BehaviourClass
import AgentGraph.Program.AgentClass
import AgentGraph.Relations

/-!
The statements of the generated program's start-up, a line each.
-/

namespace AgentGraph

inductive EnvelopeKind where
  | template
  | message
deriving DecidableEq

def EnvelopeKind.className : EnvelopeKind → String
  | .template => "Template"
  | .message => "Message"

inductive EnvelopeField where
  | sender
  | recipient
  | body
  | thread
deriving DecidableEq

def EnvelopeField.name : EnvelopeField → String
  | .sender => "sender"
  | .recipient => "to"
  | .body => "body"
  | .thread => "thread"

def EnvelopeField.all : List EnvelopeField := [.sender, .recipient, .body, .thread]

def Envelope.field (envelope : Envelope) : EnvelopeField → String
  | .sender => envelope.sender
  | .recipient => envelope.recipient
  | .body => envelope.body
  | .thread => envelope.thread

inductive Statement where
  /-- An instance of an agent's class; `program` is the file of its reasoning program. -/
  | createAgent (identity : Identity) (password : String) (program : Option String)
      (port : UInt16) (verifySecurity : Bool)
  | createEnvelope (kind : EnvelopeKind) (name : String)
  | setField (envelope : String) (field : EnvelopeField) (value : String)
  | setMetadata (envelope key : String) (value : Json)
  | createBehaviour (name className : String) (arguments : List Argument)
  | setMessage (behaviour message : String)
  | addBehaviour (agent behaviour : String)
  | startAgent (agent : String)
  | await (agents : List String)
  | nothing
deriving DecidableEq

namespace Statement

def call (function : String) (arguments : List String) : String :=
  function ++ "(" ++ ", ".intercalate arguments ++ ")"

def text : Statement → String
  | .createAgent identity password program port verifySecurity =>
      identity.instanceName ++ " = " ++ call identity.className
        ([Literal.string identity.jid, Literal.string password] ++
          (program.map Literal.string).toList ++
          ["port=" ++ port.toNat.repr, "verify_security=" ++ Literal.bool verifySecurity])
  | .createEnvelope kind name => name ++ " = " ++ call kind.className []
  | .setField envelope field value =>
      envelope ++ "." ++ field.name ++ " = " ++ Literal.string value
  | .setMetadata envelope key value =>
      call (envelope ++ ".set_metadata") [Literal.string key, Literal.typedValue value]
  | .createBehaviour name className arguments =>
      name ++ " = " ++ call className (arguments.map Argument.text)
  | .setMessage behaviour message => behaviour ++ ".message = " ++ message
  | .addBehaviour agent behaviour => call (agent ++ ".add_behaviour") [behaviour]
  | .startAgent agent => "await " ++ call (agent ++ ".start") []
  | .await agents =>
      "await " ++ call "wait_until_finished" ["[" ++ ", ".intercalate agents ++ "]"]
  | .nothing => "pass"

def line (statement : Statement) : String := memberIndent ++ statement.text

end Statement

def Envelope.statements (envelope : Envelope) (kind : EnvelopeKind) (name : String) :
    List Statement :=
  [.createEnvelope kind name] ++
  (EnvelopeField.all.filter fun field => !Text.isBlankText (envelope.field field)).map
    (fun field => .setField name field (envelope.field field)) ++
  (namedEntries envelope.metadata).map fun entry => .setMetadata name entry.1 entry.2

end AgentGraph
