import AgentGraph.Program.StartTime

/-!
The class of a behaviour, and the arguments its instances are made with.
-/

namespace AgentGraph

namespace Behaviour

def stubLines : BehaviourKind → List String
  | .fsm => [
      "    async def on_start(self):",
      "        pass",
      "",
      "    async def on_end(self):",
      "        pass"]
  | _ => [
      "    async def run(self):",
      "        pass"]

/-- The typed class definition as it is, or a class that does nothing. -/
def classText (behaviour : Behaviour) (className : String) : String :=
  match behaviour.userCode? with
  | some code => Text.trimEnd code
  | none =>
      let header := "class " ++ className ++ "(" ++ behaviour.kind.className ++ "):"
      "\n".intercalate (header :: stubLines behaviour.kind)

end Behaviour

inductive Argument where
  | period (seconds : Binary64)
  | startAt (start : StartTime)
  | template (name : String)
deriving DecidableEq

def Argument.text : Argument → String
  | .period seconds => "period=" ++ Literal.number seconds
  | .startAt start => "start_at=" ++ start.expression
  | .template name => "template=" ++ name

namespace Behaviour

def validPeriod? (behaviour : Behaviour) : Option Binary64 :=
  behaviour.period.filter fun period => period.isFinite && period.isPositive

/-- The arguments on time: for periodic behaviours the period and the start, for
timeouts the start alone. -/
def timing (behaviour : Behaviour) : List Argument :=
  match behaviour.kind with
  | .periodic =>
      (behaviour.validPeriod?.map Argument.period).toList ++
        (behaviour.start?.map Argument.startAt).toList
  | .timeout => (behaviour.start?.map Argument.startAt).toList
  | .cyclic | .oneShot | .fsm => []

/-- All arguments; the template comes last. -/
def arguments (behaviour : Behaviour) (template : Option String) : List Argument :=
  behaviour.timing ++ (template.map Argument.template).toList

/-- Whether an argument on time needs the module of dates and times. -/
def isDated (behaviour : Behaviour) : Bool :=
  match behaviour.kind with
  | .periodic | .timeout => behaviour.start?.isSome
  | .cyclic | .oneShot | .fsm => false

end Behaviour

end AgentGraph
