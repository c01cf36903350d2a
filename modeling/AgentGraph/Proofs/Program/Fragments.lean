import AgentGraph.Program.Basic
import AgentGraph.Proofs.Program.Heirs
import Mathlib.Data.List.Forall2

/-!
Who writes which part of the program's text. The generator's own words are told apart from
the names, literals and code that come from the graph and the settings; put together, the
parts are the text.
-/

namespace AgentGraph

inductive Fragment where
  /-- What the generator writes, whatever the graph. -/
  | written (text : String)
  /-- A name, a literal or code, as the graph or the settings have it. -/
  | given (text : String)

namespace Fragment

def text : Fragment → String
  | .written text => text
  | .given text => text

def render : List Fragment → String
  | [] => ""
  | fragment :: rest => fragment.text ++ render rest

def joined (separator : String) : List (List Fragment) → List Fragment
  | [] => []
  | [part] => part
  | part :: next :: rest => part ++ .written separator :: joined separator (next :: rest)

@[simp] theorem render_nil : render [] = "" := rfl

@[simp] theorem render_written (text : String) (rest : List Fragment) :
    render (.written text :: rest) = text ++ render rest := rfl

@[simp] theorem render_given (text : String) (rest : List Fragment) :
    render (.given text :: rest) = text ++ render rest := rfl

@[simp] theorem render_append (first second : List Fragment) :
    render (first ++ second) = render first ++ render second := by
  induction first with
  | nil => rw [List.nil_append, render_nil, String.empty_append]
  | cons fragment first ih => rw [List.cons_append, render, render, ih, String.append_assoc]

@[simp] theorem render_joined (separator : String) (parts : List (List Fragment)) :
    render (joined separator parts) = separator.intercalate (parts.map render) := by
  induction parts with
  | nil => rfl
  | cons part parts ih =>
      cases parts with
      | nil => rw [joined, List.map_singleton, String.intercalate_singleton]
      | cons next parts =>
          simp only [joined, render_append, render_written, ih, List.map_cons,
            String.intercalate_cons_cons, String.append_assoc]

/-- Lines that are one fragment each. -/
def lines (fragment : String → Fragment) (texts : List String) : List (List Fragment) :=
  texts.map fun text => [fragment text]

@[simp] theorem render_lines_written (texts : List String) :
    (lines written texts).map render = texts := by
  simp [lines, Function.comp_def]

@[simp] theorem render_lines_given (texts : List String) :
    (lines given texts).map render = texts := by
  simp [lines, Function.comp_def]

def called (function : List Fragment) (arguments : List (List Fragment)) : List Fragment :=
  function ++ .written "(" :: joined ", " arguments ++ [.written ")"]

@[simp] theorem render_called (function : List Fragment) (arguments : List (List Fragment)) :
    render (called function arguments) =
      Statement.call (render function) (arguments.map render) := by
  simp [called, Statement.call, String.append_assoc]

end Fragment

open Fragment

section Statements

def StartTime.fragments : StartTime → List Fragment
  | .wallClock moment =>
      [.written "datetime.datetime(", .given (momentText moment), .written ")"]
  | .instant moment =>
      [.written "datetime.datetime(", .given (momentText moment),
        .written ", tzinfo=datetime.timezone.utc)"]
  | .delay seconds =>
      [.written "datetime.datetime.now() + datetime.timedelta(seconds=",
        .given (Literal.number seconds), .written ")"]

@[simp] theorem StartTime.render_fragments (start : StartTime) :
    render start.fragments = start.expression := by
  cases start with
  | wallClock moment | instant moment =>
      unfold fragments expression
      generalize momentText moment = fields
      simp [String.append_assoc]
  | delay seconds =>
      unfold fragments expression
      generalize Literal.number seconds = length
      simp [String.append_assoc]

def Argument.fragments : Argument → List Fragment
  | .period seconds => [.written "period=", .given (Literal.number seconds)]
  | .startAt start => .written "start_at=" :: start.fragments
  | .template name => [.written "template=", .given name]

@[simp] theorem Argument.render_fragments (argument : Argument) :
    render argument.fragments = argument.text := by
  cases argument <;> simp [fragments, text]

namespace Statement

def fragments : Statement → List Fragment
  | .createAgent identity password program port verifySecurity =>
      [.given identity.instanceName, .written " = "] ++ called [.given identity.className]
        ([[.given (Literal.string identity.jid)], [.given (Literal.string password)]] ++
          (program.map fun file => [.given (Literal.string file)]).toList ++
          [[.written "port=", .given port.toNat.repr],
            [.written ("verify_security=" ++ Literal.bool verifySecurity)]])
  | .createEnvelope kind name =>
      [.given name, .written " = "] ++ called [.written kind.className] []
  | .setField envelope field value =>
      [.given envelope, .written ("." ++ field.name ++ " = "), .given (Literal.string value)]
  | .setMetadata envelope key value =>
      called [.given envelope, .written ".set_metadata"]
        [[.given (Literal.string key)], [.given (Literal.typedValue value)]]
  | .createBehaviour name className arguments =>
      [.given name, .written " = "] ++
        called [.given className] (arguments.map Argument.fragments)
  | .setMessage behaviour message =>
      [.given behaviour, .written ".message = ", .given message]
  | .addBehaviour agent behaviour =>
      called [.given agent, .written ".add_behaviour"] [[.given behaviour]]
  | .startAgent agent =>
      .written "await " :: called [.given agent, .written ".start"] []
  | .await agents =>
      .written "await " :: called [.written "wait_until_finished"]
        [.written "[" :: joined ", " (lines .given agents) ++ [.written "]"]]
  | .nothing => [.written "pass"]

@[simp] theorem render_fragments (statement : Statement) :
    render statement.fragments = statement.text := by
  cases statement with
  | createAgent identity password program port verifySecurity =>
      cases program <;> simp [fragments, text, String.append_assoc]
  | createBehaviour name className arguments =>
      simp [fragments, text, String.append_assoc, Function.comp_def]
  | createEnvelope | setField | setMetadata | setMessage | addBehaviour | startAgent | await
  | nothing => simp [fragments, text, String.append_assoc]

end Statement

end Statements

section Classes

def Behaviour.classFragments (behaviour : Behaviour) (className : String) : List Fragment :=
  match behaviour.userCode? with
  | some code => [.given (Text.trimEnd code)]
  | none =>
      joined "\n" ([.written "class ", .given className,
        .written ("(" ++ behaviour.kind.className ++ "):")] ::
          lines .written (stubLines behaviour.kind))

theorem Behaviour.render_classFragments (behaviour : Behaviour) (className : String) :
    render (behaviour.classFragments className) = behaviour.classText className := by
  unfold classFragments classText
  cases behaviour.userCode? with
  | some code => simp
  | none =>
      dsimp only
      rw [render_joined, List.map_cons, render_lines_written]
      simp [String.append_assoc]

def subscriptionFragments (jid : String) : List Fragment :=
  [.written (bodyIndent ++ "await self.presence.subscribe("), .given (Literal.string jid),
    .written ")"]

def beliefFragments (belief : String × Option String) : List Fragment :=
  [.given (Literal.string belief.1), .written ": ",
    match belief.2 with
    | some value => .given (Literal.typedText value)
    | none => .written (Literal.value .null)]

def beliefsFragments (beliefs : Dict (Option String)) : List (List Fragment) :=
  if beliefs.isEmpty then []
  else
    [.written (bodyIndent ++ "initial_beliefs = \x7b") ::
        joined ", " (beliefs.entries.map beliefFragments) ++ [.written "\x7d"],
      [.written (bodyIndent ++ "for belief, value in initial_beliefs.items():")],
      [.written (bodyIndent ++ "    if value is None:")],
      [.written (bodyIndent ++ "        self.bdi.set_belief(belief)")],
      [.written (bodyIndent ++ "    else:")],
      [.written (bodyIndent ++ "        self.bdi.set_belief(belief, value)")]]

def knowledgeFragments (entry : String × Json) : List Fragment :=
  [.written (bodyIndent ++ "self.set("), .given (Literal.string entry.1), .written ", ",
    .given (Literal.typedValue entry.2), .written ")"]

def promptFragments (prompt : String) : List (List Fragment) :=
  if Text.isBlankText prompt then []
  else [[.written (bodyIndent ++ "self.set(\"llm_prompt\", "), .given (Literal.string prompt),
    .written ")"]]

def setupFragments (code : String) : List (List Fragment) :=
  if Text.isBlankText code then [[.written (bodyIndent ++ "pass")]]
  else lines .given (Text.indentedLines bodyIndent (Text.trimEnd code))

@[simp] theorem render_subscriptionFragments (jid : String) :
    render (subscriptionFragments jid) = subscriptionLine jid := by
  simp [subscriptionFragments, subscriptionLine, String.append_assoc]

@[simp] theorem render_beliefFragments (belief : String × Option String) :
    render (beliefFragments belief) = beliefEntry belief := by
  rw [beliefFragments, beliefEntry]
  cases belief.2 <;> simp [String.append_assoc]

@[simp] theorem render_beliefsFragments (beliefs : Dict (Option String)) :
    (beliefsFragments beliefs).map render = beliefLines beliefs := by
  rw [beliefsFragments, beliefLines]
  split <;> simp [String.append_assoc, Function.comp_def]

@[simp] theorem render_knowledgeFragments (entry : String × Json) :
    render (knowledgeFragments entry) = knowledgeLine entry := by
  simp [knowledgeFragments, knowledgeLine, String.append_assoc]

@[simp] theorem render_promptFragments (prompt : String) :
    (promptFragments prompt).map render = promptLines prompt := by
  rw [promptFragments, promptLines]
  split <;> simp [String.append_assoc]

@[simp] theorem render_setupFragments (code : String) :
    (setupFragments code).map render = setupLines code := by
  rw [setupFragments, setupLines]
  split <;> simp

namespace Payload

def beliefsFragments : Payload → List (List Fragment)
  | .reasoning special => AgentGraph.beliefsFragments special.beliefs
  | _ => []

def promptFragments : Payload → List (List Fragment)
  | .prompted special => AgentGraph.promptFragments special.prompt
  | _ => []

def preparationFragments (payload : Payload) (shared : AgentSettings)
    (friends bases : List String) : List (List Fragment) :=
  (if bases.isEmpty then [] else [[.written (bodyIndent ++ "await super().setup()")]]) ++
  friends.map subscriptionFragments ++ payload.beliefsFragments ++
  (namedEntries shared.knowledge).map knowledgeFragments ++ payload.promptFragments

/-- The lines of an agent's class, before blank ends are cut off. -/
def classFragments (payload : Payload) (shared : AgentSettings) (className : String)
    (friends bases : List String) : List Fragment :=
  let base := if bases.isEmpty then [.written payload.frameworkClass]
    else joined ", " (lines .given bases)
  joined "\n" ([[.written "class ", .given className, .written "("] ++ base ++ [.written "):"],
    [.written (memberIndent ++ "async def setup(self):")]] ++
  payload.preparationFragments shared friends bases ++ setupFragments shared.setupCode ++
  lines .given payload.functionLines)

@[simp] theorem render_beliefsFragments (payload : Payload) :
    payload.beliefsFragments.map render = payload.beliefLines := by
  cases payload with
  | reasoning special => exact AgentGraph.render_beliefsFragments special.beliefs
  | agent | prompted | behaviour | template | message | note => rfl

@[simp] theorem render_promptFragments (payload : Payload) :
    payload.promptFragments.map render = payload.promptLines := by
  cases payload with
  | prompted special => exact AgentGraph.render_promptFragments special.prompt
  | agent | reasoning | behaviour | template | message | note => rfl

@[simp] theorem render_preparationFragments (payload : Payload) (shared : AgentSettings)
    (friends bases : List String) :
    (payload.preparationFragments shared friends bases).map render =
      payload.preparationLines shared friends bases := by
  rw [preparationFragments, preparationLines]
  split <;> simp [Function.comp_def]

theorem render_classFragments (payload : Payload) (shared : AgentSettings) (className : String)
    (friends bases : List String) :
    render (payload.classFragments shared className friends bases) =
      "\n".intercalate (payload.classLines shared className friends bases) := by
  rw [classFragments, classLines]
  by_cases empty : bases.isEmpty
  · simp [empty, String.append_assoc]
  · simp [empty, String.append_assoc]

end Payload

end Classes

namespace Plan

def behaviourFragments (plan : Plan) : List (List Fragment) :=
  plan.nodes.filterMap fun node => do
    let behaviour ← node.payload.behaviour?
    let className ← plan.behaviourClasses.find? node.id
    return behaviour.classFragments className

def agentFragments (plan : Plan) : List (List Fragment) :=
  plan.heirs.filterMap fun heir => do
    let shared ← heir.node.payload.agent?
    let identity ← plan.relations.identity? heir.node.id
    return heir.node.payload.classFragments shared identity.className
      (plan.relations.friendsOf heir.node.id) (plan.classNames heir.parents)

def startupFragments (plan : Plan) : List Fragment :=
  joined "\n" ([.written "async def main():"] ::
    plan.statements.map fun statement => .written memberIndent :: statement.fragments)

def callFragments : List Fragment :=
  [.written "if __name__ == \"__main__\":\n    spade.run(main())"]

/-- All that follows the imports, section by section. -/
def sectionFragments (plan : Plan) : List (List Fragment) :=
  plan.behaviourFragments ++ plan.agentFragments ++ [plan.startupFragments, callFragments]

/-- Whether a text is put together from the fragments; a blank end may be cut off. -/
def IsRendered (fragments : List Fragment) (text : String) : Prop :=
  text = render fragments ∨ text = Text.trimEnd (render fragments)

theorem behaviourFragments_rendered (plan : Plan) :
    List.Forall₂ IsRendered plan.behaviourFragments plan.behaviourClassTexts := by
  have texts : plan.behaviourClassTexts = plan.behaviourFragments.map render := by
    unfold behaviourClassTexts behaviourFragments
    rw [List.map_filterMap]
    apply List.filterMap_congr
    intro node _
    cases node.payload.behaviour? with
    | none => rfl
    | some behaviour =>
        cases plan.behaviourClasses.find? node.id with
        | none => rfl
        | some className => exact congrArg some (behaviour.render_classFragments className).symm
  rw [texts, List.forall₂_map_right_iff]
  exact List.forall₂_same.mpr fun _ _ => .inl rfl

theorem agentFragments_rendered (plan : Plan) :
    List.Forall₂ IsRendered plan.agentFragments plan.agentClassTexts := by
  have texts : plan.agentClassTexts =
      plan.agentFragments.map fun fragments => Text.trimEnd (render fragments) := by
    unfold agentClassTexts agentFragments
    rw [List.map_filterMap]
    apply List.filterMap_congr
    intro heir inside
    obtain ⟨shared, isAgent⟩ := Option.isSome_iff_exists.mp (mem_of_heirs inside).2
    rw [isAgent]
    cases plan.relations.identity? heir.node.id with
    | none => rfl
    | some identity =>
        have rendered := heir.node.payload.render_classFragments shared identity.className
          (plan.relations.friendsOf heir.node.id) (plan.classNames heir.parents)
        simp only [Option.bind_eq_bind, Option.bind_some, Option.map_some, Option.pure_def,
          Payload.classText, isAgent, rendered]
  rw [texts, List.forall₂_map_right_iff]
  exact List.forall₂_same.mpr fun _ _ => .inr rfl

theorem startupFragments_rendered (plan : Plan) :
    IsRendered plan.startupFragments plan.startupText := by
  have lines : (plan.statements.map fun statement =>
      Fragment.written memberIndent :: statement.fragments).map render =
        plan.statements.map Statement.line := by
    rw [List.map_map]
    apply List.map_congr_left
    intro statement _
    simp [Statement.line]
  refine .inl ?_
  rw [startupText, startupFragments, render_joined, List.map_cons, lines]
  simp

/-- What follows the imports in the program's text is put together from the fragments. -/
theorem sectionFragments_rendered (plan : Plan) :
    ∃ texts, plan.sections = plan.importText :: texts ∧
      List.Forall₂ IsRendered plan.sectionFragments texts := by
  refine ⟨plan.behaviourClassTexts ++ plan.agentClassTexts ++
    [plan.startupText, "if __name__ == \"__main__\":\n    spade.run(main())"], ?_, ?_⟩
  · simp [sections]
  · refine List.rel_append
      (List.rel_append plan.behaviourFragments_rendered plan.agentFragments_rendered) ?_
    exact .cons plan.startupFragments_rendered (.cons (.inl rfl) .nil)

end Plan

end AgentGraph
