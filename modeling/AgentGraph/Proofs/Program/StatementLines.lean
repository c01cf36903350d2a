import AgentGraph.Proofs.Program.Helpers
import AgentGraph.Proofs.Program.Lines

/-!
The lines of the main function's statements. A line is told by the word that it begins with and by
what follows; from these it can be seen what a line makes, starts or attaches.
-/

namespace AgentGraph

open Naming Literal

/-- Whether the line gives the variable a value. -/
def binds (name line : String) : Bool :=
  ("    " ++ name ++ " = ").toList.isPrefixOf line.toList

/-- The lines that make a template or a message, and fill in what is not blank. -/
def Envelope.lines (envelope : Envelope) (kind : EnvelopeKind) (name : String) : List String :=
  ["    " ++ name ++ " = " ++ match kind with
    | .template => "Template()"
    | .message => "Message()"] ++
  ([("sender", envelope.sender), ("to", envelope.recipient), ("body", envelope.body),
      ("thread", envelope.thread)].filter fun field => !Text.isBlankText field.2).map
    (fun field => "    " ++ name ++ "." ++ field.1 ++ " = " ++ Literal.string field.2) ++
  (envelope.metadata.entries.filter fun entry => !Text.isBlankText entry.1).map fun entry =>
    "    " ++ name ++ ".set_metadata(" ++ Literal.string (Text.trim entry.1) ++ ", " ++
      Literal.typedValue entry.2 ++ ")"

theorem words_eq {first second : String} (isWord : IsWord first) (isOther : IsWord second)
    {c d : Char} {rest other : List Char} (ends : isNameChar c = false)
    (endsOther : isNameChar d = false)
    (same : first.toList ++ c :: rest = second.toList ++ d :: other) :
    first = second ∧ c :: rest = d :: other := by
  have words := congrArg (List.takeWhile isNameChar) same
  have ends := congrArg (List.dropWhile isNameChar) same
  rw [List.takeWhile_append_of_pos isWord, List.takeWhile_append_of_pos isOther] at words
  rw [List.dropWhile_append_of_pos isWord, List.dropWhile_append_of_pos isOther] at ends
  simp_all [String.toList_inj]

theorem binds_iff {name line : String} :
    binds name line = true ↔
      ∃ rest, line.toList = "    ".toList ++ (name.toList ++ ' ' :: '=' :: ' ' :: rest) := by
  rw [binds, List.isPrefixOf_iff_prefix]
  constructor
  · rintro ⟨rest, same⟩
    exact ⟨rest, by simp [← same]⟩
  · rintro ⟨rest, same⟩
    exact ⟨rest, by simp [same]⟩

namespace Statement

/-- The word that the line of a statement begins with. -/
@[simp] def subject : Statement → String
  | .createAgent identity _ _ _ _ => identity.instanceName
  | .createEnvelope _ name | .setField name _ _ | .setMetadata name _ _
  | .createBehaviour name _ _ | .setMessage name _ => name
  | .addBehaviour agent _ => agent
  | .startAgent _ | .await _ => "await"
  | .nothing => "pass"

@[simp] def predicate : Statement → String
  | .createAgent identity password program port verifySecurity =>
      " = " ++ call identity.className ([Literal.string identity.jid, Literal.string password] ++
        (program.map Literal.string).toList ++
        ["port=" ++ port.toNat.repr, "verify_security=" ++ Literal.bool verifySecurity])
  | .createEnvelope kind _ => " = " ++ call kind.className []
  | .setField _ field value => "." ++ field.name ++ " = " ++ Literal.string value
  | .setMetadata _ key value =>
      call ".set_metadata" [Literal.string key, Literal.typedValue value]
  | .createBehaviour _ className arguments =>
      " = " ++ call className (arguments.map Argument.text)
  | .setMessage _ message => ".message = " ++ message
  | .addBehaviour _ behaviour => call ".add_behaviour" [behaviour]
  | .startAgent agent => " " ++ call (agent ++ ".start") []
  | .await agents => " " ++ call "wait_until_finished" ["[" ++ ", ".intercalate agents ++ "]"]
  | .nothing => ""

@[simp] theorem toList_call (function : String) (arguments : List String) :
    (call function arguments).toList =
      function.toList ++ '(' :: ((", ".intercalate arguments).toList ++ [')']) := by
  simp [call]

theorem toList_line (statement : Statement) :
    statement.line.toList =
      "    ".toList ++ (statement.subject.toList ++ statement.predicate.toList) := by
  cases statement <;> simp [line, text, memberIndent]

theorem exists_predicate {statement : Statement} (isSaid : statement ≠ .nothing) :
    ∃ c rest, statement.predicate.toList = c :: rest ∧ isNameChar c = false := by
  cases statement with
  | nothing => exact absurd rfl isSaid
  | createAgent | createEnvelope | setField | setMetadata | createBehaviour | setMessage
  | addBehaviour | startAgent | await =>
      simp only [predicate, toList_call, String.toList_append]
      exact ⟨_, _, rfl, rfl⟩

theorem parts_eq {first second : Statement} (isWord : IsWord first.subject)
    (isOther : IsWord second.subject) (isSaid : first ≠ .nothing) (isOtherSaid : second ≠ .nothing)
    (same : first.line = second.line) :
    first.subject = second.subject ∧ first.predicate = second.predicate := by
  obtain ⟨c, rest, begins, ends⟩ := exists_predicate isSaid
  obtain ⟨d, other, otherBegins, otherEnds⟩ := exists_predicate isOtherSaid
  have chars := congrArg String.toList same
  rw [toList_line, toList_line, List.append_right_inj, begins, otherBegins] at chars
  obtain ⟨subjects, predicates⟩ := words_eq isWord isOther ends otherEnds chars
  rw [← begins, ← otherBegins] at predicates
  exact ⟨subjects, String.toList_inj.mp predicates⟩

theorem line_startAgent (agent : String) :
    (startAgent agent).line = "    await " ++ agent ++ ".start()" := by
  apply String.toList_inj.mp
  simp [toList_line]

theorem line_await (agents : List String) :
    (await agents).line =
      "    await wait_until_finished([" ++ ", ".intercalate agents ++ "])" := by
  apply String.toList_inj.mp
  simp [toList_line]

theorem line_addBehaviour (agent behaviour : String) :
    (addBehaviour agent behaviour).line =
      "    " ++ agent ++ ".add_behaviour(" ++ behaviour ++ ")" := by
  apply String.toList_inj.mp
  simp [toList_line]

def attached? : Statement → Option String
  | .addBehaviour _ behaviour => some behaviour
  | .createAgent .. | .createEnvelope .. | .setField .. | .setMetadata .. | .createBehaviour ..
  | .setMessage .. | .startAgent _ | .await _ | .nothing => none

def created? : Statement → Option String
  | .createAgent identity _ _ _ _ => some identity.instanceName
  | .createEnvelope .. | .setField .. | .setMetadata .. | .createBehaviour .. | .setMessage ..
  | .addBehaviour .. | .startAgent _ | .await _ | .nothing => none

/-- In the section of an agent, only what makes a helper gives the helper's variable a value. -/
theorem helper?_of_binds {statement : Statement} (isWord : IsWord statement.subject)
    (inSection : statement.part ≠ .frame) {name : String} (isName : IsWord name)
    (isHelper : '_' ∈ name.toList) (binding : binds name statement.line = true) :
    statement.helper? = some name := by
  have isSaid : statement ≠ .nothing := by
    rintro rfl
    exact inSection rfl
  obtain ⟨c, rest, begins, ends⟩ := exists_predicate isSaid
  obtain ⟨_, same⟩ := binds_iff.mp binding
  rw [toList_line, List.append_right_inj, begins] at same
  obtain ⟨subjects, predicates⟩ := words_eq isWord isName ends (by decide) same
  rw [← begins] at predicates
  cases statement with
  | createEnvelope | createBehaviour => exact congrArg some subjects
  | setField | setMetadata | setMessage | addBehaviour => simp at predicates
  | startAgent =>
      have plain : '_' ∉ "await".toList := by decide
      rw [← subjects] at isHelper
      exact absurd isHelper plain
  | createAgent | await | nothing => exact absurd rfl inSection

theorem attached?_of_line {statement : Statement} (isWord : IsWord statement.subject)
    (inSection : statement.part ≠ .frame) {agent name : String} (isAgent : IsWord agent)
    (same : statement.line = (addBehaviour agent name).line) :
    statement.attached? = some name := by
  have isSaid : statement ≠ .nothing := by
    rintro rfl
    exact inSection rfl
  have isOther : IsWord (addBehaviour agent name).subject := isAgent
  have predicates := congrArg String.toList (parts_eq isWord isOther isSaid nofun same).2
  cases statement with
  | addBehaviour _ other =>
      obtain rfl : other = name := by simpa [String.toList_inj] using predicates
      rfl
  | setField _ field => cases field <;> simp [EnvelopeField.name] at predicates
  | createEnvelope | setMetadata | createBehaviour | setMessage | startAgent =>
      simp at predicates
  | createAgent | await | nothing => exact absurd rfl inSection

theorem binds_of_helper? {statement : Statement} {name : String}
    (binding : statement.helper? = some name) : binds name statement.line = true := by
  rw [binds_iff, toList_line]
  cases statement with
  | createEnvelope | createBehaviour =>
      obtain rfl := Option.some.inj binding
      simp
  | createAgent | setField | setMetadata | setMessage | addBehaviour | startAgent | await
  | nothing => contradiction

theorem subject_of_helper? {statement : Statement} {name : String}
    (binding : statement.helper? = some name) : statement.subject = name := by
  cases statement with
  | createEnvelope | createBehaviour => exact Option.some.inj binding
  | createAgent | setField | setMetadata | setMessage | addBehaviour | startAgent | await
  | nothing => contradiction

theorem attached?_eq_none {statement : Statement} (isEnvelope : statement.part = .envelope) :
    statement.attached? = none := by
  cases statement with
  | addBehaviour => contradiction
  | createAgent | createEnvelope | setField | setMetadata | createBehaviour | setMessage
  | startAgent | await | nothing => rfl

theorem created?_eq_none {statement : Statement} (inSection : statement.part ≠ .frame) :
    statement.created? = none := by
  cases statement with
  | createAgent => exact absurd rfl inSection
  | createEnvelope | setField | setMetadata | createBehaviour | setMessage | addBehaviour
  | startAgent | await | nothing => rfl

theorem line_ne_createAgent_of_plain {statement : Statement} (plain : Plain statement.text)
    (identity : Identity) (password : String) (program : Option String) (port : UInt16)
    (verifySecurity : Bool) :
    statement.line ≠ (createAgent identity password program port verifySecurity).line := by
  intro same
  have quoted : '"' ∈ (createAgent identity password program port verifySecurity).line.toList := by
    simp [toList_line, Literal.string]
  rw [← same] at quoted
  exact Plain.append (show Plain memberIndent by decide) plain quoted

/-- The lines of a section that bind no variable are on an attribute or a method of one. -/
theorem exists_member {statement : Statement}
    (inSection : statement.part = .envelope ∨ statement.part = .behaviour)
    (bindsNone : statement.helper? = none) : ∃ rest, statement.predicate.toList = '.' :: rest := by
  cases statement with
  | setField | setMetadata | setMessage | addBehaviour => simp
  | createEnvelope | createBehaviour => contradiction
  | createAgent | startAgent | await | nothing => simp [part] at inSection

theorem line_ne_createAgent_of_member {statement : Statement} (isWord : IsWord statement.subject)
    (inSection : statement.part = .envelope ∨ statement.part = .behaviour)
    (bindsNone : statement.helper? = none) {identity : Identity}
    (isAgent : IsWord identity.instanceName) (password : String) (program : Option String)
    (port : UInt16) (verifySecurity : Bool) :
    statement.line ≠ (createAgent identity password program port verifySecurity).line := by
  intro same
  have isSaid : statement ≠ .nothing := by
    rintro rfl
    simp [part] at inSection
  obtain ⟨_, member⟩ := exists_member inSection bindsNone
  have isOther : IsWord
      (createAgent identity password program port verifySecurity).subject := isAgent
  have predicates := congrArg String.toList (parts_eq isWord isOther isSaid nofun same).2
  rw [member] at predicates
  simp at predicates

theorem line_ne_startAgent {statement : Statement} (isWord : IsWord statement.subject)
    (inSection : statement.part = .envelope ∨ statement.part = .behaviour)
    (isHelper : ∀ name ∈ statement.helper?, '_' ∈ name.toList) (agent : String) :
    statement.line ≠ (startAgent agent).line := by
  intro same
  have isSaid : statement ≠ .nothing := by
    rintro rfl
    simp [part] at inSection
  have awaits : IsWord (startAgent agent).subject := by
    show IsWord "await"
    decide
  obtain ⟨subjects, predicates⟩ := parts_eq isWord awaits isSaid nofun same
  cases binding : statement.helper? with
  | none =>
      obtain ⟨_, member⟩ := exists_member inSection binding
      have chars := congrArg String.toList predicates
      rw [member, predicate] at chars
      simp at chars
  | some name =>
      have plain : '_' ∉ "await".toList := by decide
      have named : name = "await" := (subject_of_helper? binding).symm.trans subjects
      exact plain (named ▸ isHelper name binding)

end Statement

theorem EnvelopeKind.line_createEnvelope (kind : EnvelopeKind) (name : String) :
    (Statement.createEnvelope kind name).line =
      "    " ++ name ++ " = " ++ match kind with
        | .template => "Template()"
        | .message => "Message()" := by
  cases kind with
  | template | message =>
      apply String.toList_inj.mp
      simp [Statement.line, Statement.text, Statement.call, memberIndent, className]

theorem Envelope.map_line_statements (envelope : Envelope) (kind : EnvelopeKind) (name : String) :
    (envelope.statements kind name).map Statement.line = envelope.lines kind name := by
  have fields : (EnvelopeField.all.filter fun field =>
        !Text.isBlankText (envelope.field field)).map
          (fun field => (Statement.setField name field (envelope.field field)).line) =
      ([("sender", envelope.sender), ("to", envelope.recipient), ("body", envelope.body),
        ("thread", envelope.thread)].filter fun field => !Text.isBlankText field.2).map
          (fun field => "    " ++ name ++ "." ++ field.1 ++ " = " ++ Literal.string field.2) := by
    rw [show [("sender", envelope.sender), ("to", envelope.recipient), ("body", envelope.body),
      ("thread", envelope.thread)] =
        EnvelopeField.all.map fun field => (field.name, envelope.field field) from rfl,
      List.filter_map, List.map_map]
    apply List.map_congr_left
    intro field _
    apply String.toList_inj.mp
    simp [Statement.line, Statement.text, memberIndent]
  have metadata : (namedEntries envelope.metadata).map
        (fun entry => (Statement.setMetadata name entry.1 entry.2).line) =
      (envelope.metadata.entries.filter fun entry => !Text.isBlankText entry.1).map
        (fun entry => "    " ++ name ++ ".set_metadata(" ++ Literal.string (Text.trim entry.1) ++
          ", " ++ Literal.typedValue entry.2 ++ ")") := by
    rw [namedEntries, List.map_map]
    apply List.map_congr_left
    intro entry _
    apply String.toList_inj.mp
    simp [Statement.line, Statement.text, Statement.call, memberIndent]
  simp only [statements, lines, List.map_append, List.map_map, List.map_cons, List.map_nil,
    kind.line_createEnvelope]
  exact congrArg₂ _ (congrArg₂ _ rfl fields) metadata

end AgentGraph
