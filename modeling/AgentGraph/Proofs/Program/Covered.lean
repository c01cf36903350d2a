import AgentGraph.Proofs.Program.Fragments

/-!
Words that the generator itself writes, and whether imports cover them: each is a word of the
language, an attribute or a name of the program's own, or an import binds it.
-/

namespace AgentGraph

open Naming

/-- The names and keywords in a text, in their order. -/
def Text.words (text : String) : List String :=
  ((text.toList.splitOnP fun c => !isNameChar c).filter fun word => !word.isEmpty).map
    String.ofList

/-- The words that the generator itself writes. -/
def Fragment.words (fragments : List Fragment) : List String :=
  fragments.flatMap fun
    | .written text => Text.words text
    | .given _ => []

theorem Fragment.words_append (first second : List Fragment) :
    words (first ++ second) = words first ++ words second := List.flatMap_append

theorem Fragment.words_written (text : String) (rest : List Fragment) :
    words (.written text :: rest) = Text.words text ++ words rest := rfl

/-- Words that no import has to bind: those of the language, the attributes and arguments of
what is imported, and what the program binds itself. -/
def ownWords : List String :=
  ["class", "async", "def", "await", "for", "in", "if", "is", "else", "pass", "None", "True",
    "False", "super", "self", "setup", "presence", "subscribe", "initial_beliefs", "belief",
    "value", "items", "bdi", "set_belief", "set", "llm_prompt", "run", "on_start", "on_end",
    "port", "verify_security", "sender", "to", "body", "thread", "set_metadata", "message",
    "add_behaviour", "start", "period", "start_at", "template", "now", "timedelta", "seconds",
    "tzinfo", "timezone", "utc", "main", "__name__", "__main__"]

/-- The names that an import binds. -/
def Import.names : Import → List String
  | .waiting => ["wait_until_finished"]
  | .agent => ["Agent"]
  | .behaviours kinds => kinds.map BehaviourKind.className
  | .message => ["Message"]
  | .template => ["Template"]
  | .reasoningAgent => ["BDIAgent"]
  | .datetime => ["datetime"]
  | .framework => ["spade"]

/-- None of the names that an import may bind is among those that need none. -/
theorem Import.not_mem_ownWords {found : Import} {name : String} (inside : name ∈ found.names) :
    name ∉ ownWords := by
  cases found with
  | behaviours kinds =>
      obtain ⟨kind, _, rfl⟩ := List.mem_map.mp inside
      cases kind <;> decide
  | waiting | agent | message | template | reasoningAgent | datetime | framework =>
      obtain rfl := List.mem_singleton.mp inside
      decide

/-- Whether a word needs no import or has one. -/
def Import.Cover (imports : List Import) (word : String) : Prop :=
  word ∈ ownWords ∨ ∃ found ∈ imports, word ∈ found.names

namespace Fragment

variable {imports : List Import}

/-- Whether the imports cover all that the generator writes in the fragments. -/
def IsCovered (imports : List Import) (fragments : List Fragment) : Prop :=
  ∀ word ∈ words fragments, Import.Cover imports word

theorem isCovered_nil : IsCovered imports [] := List.forall_mem_nil _

theorem IsCovered.given {rest : List Fragment} (covered : IsCovered imports rest)
    (text : String) : IsCovered imports (.given text :: rest) := covered

theorem IsCovered.append {first second : List Fragment} (left : IsCovered imports first)
    (right : IsCovered imports second) : IsCovered imports (first ++ second) := by
  intro word inside
  rw [words_append, List.mem_append] at inside
  exact inside.elim (left word) (right word)

theorem IsCovered.written {rest : List Fragment} (covered : IsCovered imports rest)
    {text : String} (covers : ∀ word ∈ Text.words text, Import.Cover imports word) :
    IsCovered imports (.written text :: rest) := by
  intro word inside
  rw [words_written, List.mem_append] at inside
  exact inside.elim (covers word) (covered word)

/-- Text that consists of words of the language and the like. -/
theorem IsCovered.own {rest : List Fragment} (covered : IsCovered imports rest) {text : String}
    (own : ∀ word ∈ Text.words text, word ∈ ownWords) :
    IsCovered imports (.written text :: rest) :=
  covered.written fun word inside => .inl (own word inside)

/-- Text in which one word is bound by an import. -/
theorem IsCovered.bound {rest : List Fragment} (covered : IsCovered imports rest)
    {text name : String} (binds : ∃ found ∈ imports, name ∈ found.names)
    (others : ∀ word ∈ Text.words text, word ∈ ownWords ∨ word = name) :
    IsCovered imports (.written text :: rest) := by
  refine covered.written fun word inside => ?_
  rcases others word inside with own | rfl
  · exact .inl own
  · exact .inr binds

theorem IsCovered.joined {separator : String} {parts : List (List Fragment)}
    (covered : ∀ part ∈ parts, IsCovered imports part)
    (own : ∀ word ∈ Text.words separator, word ∈ ownWords) :
    IsCovered imports (joined separator parts) := by
  induction parts with
  | nil => exact isCovered_nil
  | cons part parts ih =>
      have first := covered part List.mem_cons_self
      cases parts with
      | nil => exact first
      | cons next parts =>
          exact first.append ((ih fun part later => covered part (.tail _ later)).own own)

theorem isCovered_lines_given (texts : List String) :
    ∀ line ∈ lines .given texts, IsCovered imports line := by
  intro line inside
  obtain ⟨text, _, rfl⟩ := List.mem_map.mp inside
  exact isCovered_nil.given text

theorem isCovered_close : IsCovered imports [.written ")"] := isCovered_nil.own (by decide)

theorem IsCovered.called {function : List Fragment} (covered : IsCovered imports function)
    {arguments : List (List Fragment)} (each : ∀ part ∈ arguments, IsCovered imports part) :
    IsCovered imports (called function arguments) := by
  have listed : IsCovered imports (Fragment.joined ", " arguments) := .joined each (by decide)
  have opened : IsCovered imports (.written "(" :: Fragment.joined ", " arguments) :=
    listed.own (by decide)
  exact (covered.append opened).append isCovered_close

end Fragment

open Fragment

section Statements

variable {imports : List Import}

theorem StartTime.fragments_isCovered (start : StartTime)
    (binds : ∃ found ∈ imports, "datetime" ∈ found.names) :
    IsCovered imports start.fragments := by
  cases start with
  | wallClock moment => exact (isCovered_close.given _).bound binds (by decide)
  | instant moment =>
      have zoned : IsCovered imports [.written ", tzinfo=datetime.timezone.utc)"] :=
        isCovered_nil.bound binds (by decide)
      exact (zoned.given _).bound binds (by decide)
  | delay seconds => exact (isCovered_close.given _).bound binds (by decide)

/-- The names that a statement takes from the framework or the library. -/
inductive Statement.Needs : Statement → String → Prop where
  | envelope (kind : EnvelopeKind) (name : String) :
      Needs (.createEnvelope kind name) kind.className
  | start {arguments : List Argument} {start : StartTime}
      (inside : .startAt start ∈ arguments) (name className : String) :
      Needs (.createBehaviour name className arguments) "datetime"
  | await (agents : List String) : Needs (.await agents) "wait_until_finished"

theorem Statement.fragments_isCovered {statement : Statement}
    (binds : ∀ name, statement.Needs name → ∃ found ∈ imports, name ∈ found.names) :
    IsCovered imports statement.fragments := by
  have equals (name : String) : IsCovered imports [.given name, .written " = "] :=
    (isCovered_nil.own (by decide)).given name
  have one (text : String) : IsCovered imports [.given text] := isCovered_nil.given text
  cases statement with
  | createAgent identity password program port verifySecurity =>
      refine (equals _).append ((one _).called ?_)
      intro argument inside
      simp only [List.mem_append, List.mem_cons, List.not_mem_nil, or_false,
        Option.mem_toList, Option.map_eq_some_iff] at inside
      rcases inside with ((rfl | rfl) | ⟨file, _, rfl⟩) | (rfl | rfl)
      · exact one _
      · exact one _
      · exact one _
      · exact (one _).own (by decide)
      · cases verifySecurity with
        | true => exact isCovered_nil.own (by decide)
        | false => exact isCovered_nil.own (by decide)
  | createEnvelope kind name =>
      refine (equals name).append (IsCovered.called ?_ (List.forall_mem_nil _))
      have className := binds _ (.envelope kind name)
      cases kind with
      | template => exact isCovered_nil.bound className (by decide)
      | message => exact isCovered_nil.bound className (by decide)
  | setField envelope field value =>
      cases field <;> exact ((one _).own (by decide)).given _
  | setMetadata envelope key value =>
      refine IsCovered.called ((isCovered_nil.own (by decide)).given _) ?_
      intro argument inside
      simp only [List.mem_cons, List.not_mem_nil, or_false] at inside
      rcases inside with rfl | rfl
      · exact one _
      · exact one _
  | createBehaviour name className arguments =>
      refine (equals _).append ((one _).called ?_)
      intro fragments inside
      obtain ⟨argument, given, rfl⟩ := List.mem_map.mp inside
      cases argument with
      | period seconds => exact (one _).own (by decide)
      | template name => exact (one _).own (by decide)
      | startAt start =>
          exact (start.fragments_isCovered (binds _ (.start given name className))).own (by decide)
  | setMessage behaviour message => exact ((one _).own (by decide)).given _
  | addBehaviour agent behaviour =>
      refine IsCovered.called ((isCovered_nil.own (by decide)).given _) ?_
      intro argument inside
      rw [List.mem_singleton.mp inside]
      exact one _
  | startAgent agent =>
      refine IsCovered.own (IsCovered.called ?_ (List.forall_mem_nil _)) (by decide)
      exact (isCovered_nil.own (by decide)).given _
  | await agents =>
      have waits : IsCovered imports [.written "wait_until_finished"] :=
        isCovered_nil.bound (binds _ (.await agents)) (by decide)
      refine IsCovered.own (waits.called ?_) (by decide)
      intro argument inside
      rw [List.mem_singleton.mp inside]
      have closed : IsCovered imports [.written "]"] := isCovered_nil.own (by decide)
      have listed : IsCovered imports (joined ", " (lines .given agents)) :=
        .joined (isCovered_lines_given agents) (by decide)
      exact (listed.own (by decide)).append closed
  | nothing => exact isCovered_nil.own (by decide)

end Statements

section Classes

variable {imports : List Import}

theorem Behaviour.classFragments_isCovered (behaviour : Behaviour) (className : String)
    (binds : ∃ found ∈ imports, behaviour.kind.className ∈ found.names) :
    IsCovered imports (behaviour.classFragments className) := by
  unfold classFragments
  split
  · exact isCovered_nil.given _
  · refine .joined (List.forall_mem_cons.mpr ⟨?_, ?_⟩) (by decide)
    · have header : IsCovered imports [.written ("(" ++ behaviour.kind.className ++ "):")] := by
        generalize behaviour.kind = kind at binds
        cases kind <;> exact isCovered_nil.bound binds (by decide)
      exact (header.given className).own (by decide)
    · intro line inside
      obtain ⟨text, stub, rfl⟩ := List.mem_map.mp inside
      refine isCovered_nil.own ?_
      have stubs : ∀ kind, ∀ text ∈ stubLines kind, ∀ word ∈ Text.words text, word ∈ ownWords := by
        intro kind
        cases kind <;> decide
      exact stubs _ text stub

theorem beliefsFragments_isCovered (beliefs : Dict (Option String)) :
    ∀ line ∈ beliefsFragments beliefs, IsCovered imports line := by
  have belief : ∀ belief : String × Option String, IsCovered imports (beliefFragments belief) := by
    intro belief
    unfold beliefFragments
    refine (IsCovered.own ?_ (by decide)).given _
    split
    · exact isCovered_nil.given _
    · exact isCovered_nil.own (by decide)
  have entries : IsCovered imports (joined ", " (beliefs.entries.map beliefFragments)) := by
    refine .joined (fun part inside => ?_) (by decide)
    obtain ⟨entry, _, rfl⟩ := List.mem_map.mp inside
    exact belief entry
  have closed : IsCovered imports [.written "\x7d"] := isCovered_nil.own (by decide)
  unfold beliefsFragments
  split
  · exact List.forall_mem_nil _
  · intro line inside
    simp only [List.mem_cons, List.not_mem_nil, or_false] at inside
    rcases inside with rfl | rfl | rfl | rfl | rfl | rfl
    · exact (entries.own (by decide)).append closed
    all_goals exact isCovered_nil.own (by decide)

theorem knowledgeFragments_isCovered (entry : String × Json) :
    IsCovered imports (knowledgeFragments entry) := by
  exact (((isCovered_close.given _).own (by decide)).given _).own (by decide)

theorem promptFragments_isCovered (prompt : String) :
    ∀ line ∈ promptFragments prompt, IsCovered imports line := by
  unfold promptFragments
  split
  · exact List.forall_mem_nil _
  · exact List.forall_mem_singleton.mpr ((isCovered_close.given _).own (by decide))

theorem setupFragments_isCovered (code : String) :
    ∀ line ∈ setupFragments code, IsCovered imports line := by
  unfold setupFragments
  split
  · exact List.forall_mem_singleton.mpr (isCovered_nil.own (by decide))
  · exact isCovered_lines_given _

namespace Payload

theorem preparationFragments_isCovered (payload : Payload) (shared : AgentSettings)
    (friends bases : List String) :
    ∀ line ∈ payload.preparationFragments shared friends bases, IsCovered imports line := by
  intro line inside
  simp only [preparationFragments, List.mem_append, List.mem_map] at inside
  rcases inside with (((inherited | ⟨jid, _, rfl⟩) | beliefs) | ⟨entry, _, rfl⟩) | prompt
  · split at inherited
    · exact absurd inherited List.not_mem_nil
    · rw [List.mem_singleton.mp inherited]
      exact isCovered_nil.own (by decide)
  · exact (isCovered_close.given _).own (by decide)
  · cases payload with
    | reasoning special => exact AgentGraph.beliefsFragments_isCovered special.beliefs line beliefs
    | agent | prompted | behaviour | template | message | note =>
        exact absurd beliefs List.not_mem_nil
  · exact knowledgeFragments_isCovered entry
  · cases payload with
    | prompted special => exact AgentGraph.promptFragments_isCovered special.prompt line prompt
    | agent | reasoning | behaviour | template | message | note =>
        exact absurd prompt List.not_mem_nil

theorem classFragments_isCovered (payload : Payload) (shared : AgentSettings)
    (className : String) (friends bases : List String)
    (binds : ∃ found ∈ imports, payload.frameworkClass ∈ found.names) :
    IsCovered imports (payload.classFragments shared className friends bases) := by
  have base : IsCovered imports (if bases.isEmpty then [.written payload.frameworkClass]
      else joined ", " (lines .given bases)) := by
    split
    · unfold frameworkClass at binds ⊢
      generalize payload.isReasoning = reasons at binds ⊢
      cases reasons with
      | true => exact isCovered_nil.bound binds (by decide)
      | false => exact isCovered_nil.bound binds (by decide)
    · exact .joined (isCovered_lines_given bases) (by decide)
  have opened : IsCovered imports [.written "class ", .given className, .written "("] :=
    IsCovered.own ((isCovered_nil.own (by decide)).given className) (by decide)
  have closed : IsCovered imports [.written "):"] := isCovered_nil.own (by decide)
  refine .joined (fun line inside => ?_) (by decide)
  simp only [List.mem_append, List.mem_cons, List.not_mem_nil, or_false] at inside
  rcases inside with (((rfl | rfl) | preparation) | setup) | functions
  · exact (opened.append base).append closed
  · exact isCovered_nil.own (by decide)
  · exact payload.preparationFragments_isCovered shared friends bases line preparation
  · exact setupFragments_isCovered shared.setupCode line setup
  · exact isCovered_lines_given _ line functions

end Payload

end Classes

end AgentGraph
