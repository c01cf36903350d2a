import AgentGraph.Program.Basic
import AgentGraph.Proofs.Literal.Whole
import AgentGraph.Proofs.Naming.Words

/-!
The lines of a program, each with its literals whole. What was typed as data stands in
literals; names and numbers have none.
-/

namespace AgentGraph

open Literal

theorem Naming.IsWord.plain {name : String} (word : IsWord name) : Plain name := by
  intro quote
  have isNameChar := word '"' quote
  contradiction

namespace Literal

theorem Alike.prepend {first second another : String} (whole : Whole first)
    (alike : Alike second another) : Alike (first ++ second) (first ++ another) :=
  whole.alike.append alike

theorem forall₂_of_whole {texts : List String} (wholes : ∀ text ∈ texts, Whole text) :
    List.Forall₂ Alike texts texts :=
  List.forall₂_same.mpr fun text inside => (wholes text inside).alike

end Literal

theorem plain_repr (number : Nat) : Plain number.repr := (IsNumeralText.repr number).plain

namespace StartTime

theorem momentFields_isNumeralText (moment : Calendar.Moment) :
    ∀ field ∈ momentFields moment, IsNumeralText field := by
  intro field inside
  simp only [momentFields, List.mem_append, List.mem_cons, List.not_mem_nil, or_false]
    at inside
  rcases inside with (rfl | rfl | rfl | rfl | rfl | rfl) | inside
  · exact .of_toString _
  · exact .repr _
  · exact .repr _
  · exact .repr _
  · exact .repr _
  · exact .repr _
  · split at inside
    · contradiction
    · rw [List.mem_singleton.mp inside]
      exact .repr _

theorem momentText_plain (moment : Calendar.Moment) : Plain (momentText moment) := by
  apply Plain.intercalate (by decide)
  intro field inside
  exact (momentFields_isNumeralText moment field inside).plain

theorem expression_plain (start : StartTime) : Plain start.expression := by
  cases start with
  | wallClock moment =>
      exact (Plain.append (by decide) (momentText_plain moment)).append (by decide)
  | instant moment =>
      exact (Plain.append (by decide) (momentText_plain moment)).append (by decide)
  | delay seconds =>
      exact (Plain.append (by decide) (number_plain seconds)).append (by decide)

end StartTime

theorem BehaviourKind.plain_className (kind : BehaviourKind) : Plain kind.className := by
  cases kind <;> decide

namespace Behaviour

theorem stubLines_whole (kind : BehaviourKind) : ∀ line ∈ stubLines kind, Whole line := by
  cases kind <;> decide

theorem classText_whole {behaviour : Behaviour} (codeless : behaviour.userCode? = none)
    {className : String} (plain : Plain className) :
    Whole (behaviour.classText className) := by
  have newline : Whole "\n" := by decide
  have header : Whole ("class " ++ className ++ "(" ++ behaviour.kind.className ++ "):") := by
    have opened : Whole ("class " ++ className ++ "(") :=
      (Whole.append (by decide) plain.whole).append (by decide)
    exact (opened.append behaviour.kind.plain_className.whole).append (by decide)
  simp only [classText, codeless]
  apply newline.intercalate
  intro line inside
  rcases List.mem_cons.mp inside with rfl | stub
  · exact header
  · exact stubLines_whole behaviour.kind line stub

theorem arguments_plain (behaviour : Behaviour) {template : Option String}
    (plain : ∀ name ∈ template, Plain name) :
    ∀ argument ∈ behaviour.arguments template, Plain argument.text := by
  have period (seconds : Binary64) : Plain (Argument.period seconds).text :=
    Plain.append (by decide) (number_plain seconds)
  have startAt (start : StartTime) : Plain (Argument.startAt start).text :=
    Plain.append (by decide) start.expression_plain
  have timing : ∀ argument ∈ behaviour.timing, Plain argument.text := by
    intro argument inside
    cases kind : behaviour.kind with
    | cyclic | oneShot | fsm => simp [Behaviour.timing, kind] at inside
    | timeout =>
        simp only [Behaviour.timing, kind, Option.mem_toList, Option.map_eq_some_iff] at inside
        obtain ⟨start, _, rfl⟩ := inside
        exact startAt start
    | periodic =>
        simp only [Behaviour.timing, kind, List.mem_append, Option.mem_toList,
          Option.map_eq_some_iff] at inside
        rcases inside with ⟨seconds, _, rfl⟩ | ⟨start, _, rfl⟩
        · exact period seconds
        · exact startAt start
  intro argument inside
  rcases List.mem_append.mp inside with timed | tied
  · exact timing argument timed
  · obtain ⟨name, isTemplate, rfl⟩ := Option.map_eq_some_iff.mp (Option.mem_toList.mp tied)
    exact Plain.append (by decide) (plain name isTemplate)

end Behaviour

theorem Import.text_whole (imported : Import) : Whole imported.text := by
  cases imported with
  | behaviours kinds =>
      refine Whole.append (by decide) (comma_whole.intercalate fun name inside => ?_)
      obtain ⟨kind, _, rfl⟩ := List.mem_map.mp inside
      exact kind.plain_className.whole
  | waiting | agent | message | template | reasoningAgent | datetime | framework => decide

namespace Statement

def LineAlike (first second : Statement) : Prop := Alike first.line second.line

theorem LineAlike.of_text {first second : Statement} (alike : Alike first.text second.text) :
    LineAlike first second := by
  have indent : Whole memberIndent := by decide
  exact alike.prepend indent

theorem call_alike {function : String} (plain : Plain function) {arguments others : List String}
    (alike : List.Forall₂ Alike arguments others) :
    Alike (call function arguments) (call function others) := by
  have opened : Whole (function ++ "(") := plain.whole.append (by decide)
  have closed : Whole ")" := by decide
  exact ((Alike.intercalate comma_whole alike).prepend opened).append closed.alike

theorem call_whole {function : String} (plain : Plain function) {arguments : List String}
    (wholes : ∀ argument ∈ arguments, Whole argument) : Whole (call function arguments) :=
  (call_alike plain (forall₂_of_whole wholes)).left

theorem call_plain {function : String} (plain : Plain function) {arguments : List String}
    (plains : ∀ argument ∈ arguments, Plain argument) : Plain (call function arguments) :=
  ((plain.append (by decide)).append (Plain.intercalate (by decide) plains)).append (by decide)

/-- An agent is created in the same way whatever its address and its password. -/
theorem createAgent_alike {identity : Identity} (named : Plain identity.instanceName)
    (classed : Plain identity.className) (jid password other : String)
    (program : Option String) (port : UInt16) (verifySecurity : Bool) :
    LineAlike (.createAgent identity password program port verifySecurity)
      (.createAgent { identity with jid } other program port verifySecurity) := by
  have opened : Whole (identity.instanceName ++ " = ") := named.whole.append (by decide)
  have portWhole : Whole ("port=" ++ port.toNat.repr) :=
    Whole.append (by decide) (plain_repr _).whole
  have verifyWhole : Whole ("verify_security=" ++ Literal.bool verifySecurity) :=
    Whole.append (by decide) (bool_plain _).whole
  have programWhole : ∀ text ∈ (program.map Literal.string).toList, Whole text := by
    intro text inside
    obtain ⟨file, _, rfl⟩ := Option.map_eq_some_iff.mp (Option.mem_toList.mp inside)
    exact string_whole file
  have arguments : List.Forall₂ Alike
      ([Literal.string identity.jid, Literal.string password] ++
        (program.map Literal.string).toList ++
        ["port=" ++ port.toNat.repr, "verify_security=" ++ Literal.bool verifySecurity])
      ([Literal.string jid, Literal.string other] ++ (program.map Literal.string).toList ++
        ["port=" ++ port.toNat.repr, "verify_security=" ++ Literal.bool verifySecurity]) := by
    refine List.rel_append (List.rel_append ?_ (forall₂_of_whole programWhole)) ?_
    · exact .cons (string_alike _ _) (.cons (string_alike _ _) .nil)
    · exact .cons portWhole.alike (.cons verifyWhole.alike .nil)
  exact .of_text ((call_alike classed arguments).prepend opened)

theorem setField_alike {envelope : String} (plain : Plain envelope) (field : EnvelopeField)
    (value other : String) :
    LineAlike (.setField envelope field value) (.setField envelope field other) := by
  have fieldName : Whole field.name := by cases field <;> decide
  have opened : Whole (envelope ++ "." ++ field.name ++ " = ") :=
    ((plain.whole.append (by decide)).append fieldName).append (by decide)
  exact .of_text ((string_alike value other).prepend opened)

section Whole

variable {agent behaviour className name : String}

theorem createEnvelope_plain (plain : Plain name) (kind : EnvelopeKind) :
    Plain (createEnvelope kind name).text := by
  have kindName : Plain kind.className := by cases kind <;> decide
  have opened : Plain (name ++ " = ") := plain.append (by decide)
  exact opened.append (call_plain kindName (List.forall_mem_nil _))

theorem createEnvelope_alike (plain : Plain name) (kind : EnvelopeKind) :
    LineAlike (.createEnvelope kind name) (.createEnvelope kind name) :=
  .of_text (createEnvelope_plain plain kind).whole.alike

theorem setMetadata_alike (plain : Plain name) (key : String) (value : Json) :
    LineAlike (.setMetadata name key value) (.setMetadata name key value) := by
  have function : Plain (name ++ ".set_metadata") := plain.append (by decide)
  refine .of_text (call_whole function fun argument inside => ?_).alike
  rcases List.mem_cons.mp inside with rfl | later
  · exact string_whole key
  · rw [List.mem_singleton.mp later]
    exact typedValue_whole value

theorem createBehaviour_plain (plain : Plain name) (classed : Plain className)
    {arguments : List Argument} (plains : ∀ argument ∈ arguments, Plain argument.text) :
    Plain (createBehaviour name className arguments).text := by
  have opened : Plain (name ++ " = ") := plain.append (by decide)
  refine opened.append (call_plain classed fun text inside => ?_)
  obtain ⟨argument, held, rfl⟩ := List.mem_map.mp inside
  exact plains argument held

theorem createBehaviour_alike (plain : Plain name) (classed : Plain className)
    {arguments : List Argument} (plains : ∀ argument ∈ arguments, Plain argument.text) :
    LineAlike (.createBehaviour name className arguments)
      (.createBehaviour name className arguments) :=
  .of_text (createBehaviour_plain plain classed plains).whole.alike

theorem setMessage_alike (plain : Plain behaviour) (named : Plain name) :
    LineAlike (.setMessage behaviour name) (.setMessage behaviour name) :=
  .of_text ((plain.whole.append (by decide)).append named.whole).alike

theorem addBehaviour_alike (plain : Plain agent) (named : Plain name) :
    LineAlike (.addBehaviour agent name) (.addBehaviour agent name) := by
  have function : Plain (agent ++ ".add_behaviour") := plain.append (by decide)
  refine .of_text (call_whole function fun argument inside => ?_).alike
  rw [List.mem_singleton.mp inside]
  exact named.whole

theorem startAgent_plain (plain : Plain agent) : Plain (startAgent agent).text := by
  have function : Plain (agent ++ ".start") := plain.append (by decide)
  have awaits : Plain "await " := by decide
  exact awaits.append (call_plain function (List.forall_mem_nil _))

theorem startAgent_alike (plain : Plain agent) :
    LineAlike (.startAgent agent) (.startAgent agent) :=
  .of_text (startAgent_plain plain).whole.alike

theorem await_plain {agents : List String} (plain : ∀ agent ∈ agents, Plain agent) :
    Plain (await agents).text := by
  have listed : Plain ("[" ++ ", ".intercalate agents ++ "]") :=
    (Plain.append (by decide) (Plain.intercalate (by decide) plain)).append (by decide)
  have awaits : Plain "await " := by decide
  refine awaits.append (call_plain (by decide) fun argument inside => ?_)
  rw [List.mem_singleton.mp inside]
  exact listed

theorem await_alike {agents : List String} (plain : ∀ agent ∈ agents, Plain agent) :
    LineAlike (.await agents) (.await agents) :=
  .of_text (await_plain plain).whole.alike

end Whole

end Statement

end AgentGraph
