import AgentGraph.Proofs.Literal.ReadBack
import AgentGraph.Proofs.Program.ClassLines
import AgentGraph.Proofs.Text.Lines

/-!
Typed code inside an agent's class. Every line of a class but the first one is empty or moved to
the right, and the typed code stands there line by line: first the setup, then the functions.
-/

namespace AgentGraph

open Literal

/-- Whether a line cannot leave the class whose first line precedes it. -/
def IsInside (line : String) : Prop := line = "" ∨ List.replicate 4 ' ' <+: line.toList

/-- A line of the setup that the generator writes. -/
def IsStatement (line : String) : Prop := ∃ text, OneLine text ∧ line = bodyIndent ++ text

theorem not_mem_of_oneLine {text : String} (oneLine : OneLine text) : '\n' ∉ text.toList := by
  intro newline
  exact absurd (oneLine '\n' newline) (by decide)

theorem isInside_of_prefix {indent line : String} (deep : List.replicate 4 ' ' <+: indent.toList) :
    IsInside (indent ++ line) := by
  right
  rw [String.toList_append]
  exact deep.trans (List.prefix_append _ _)

namespace IsStatement

variable {line : String}

theorem isInside (statement : IsStatement line) : IsInside line := by
  obtain ⟨text, _, rfl⟩ := statement
  exact isInside_of_prefix (by decide)

theorem not_mem (statement : IsStatement line) : '\n' ∉ line.toList := by
  obtain ⟨text, oneLine, rfl⟩ := statement
  exact not_mem_of_oneLine (OneLine.append (by decide) oneLine)

end IsStatement

theorem typedText_oneLine (text : String) : OneLine (typedText text) := by
  unfold typedText
  split
  · exact value_oneLine _
  · exact string_oneLine _

theorem typedValue_oneLine (json : Json) : OneLine (typedValue json) := by
  cases json with
  | string text => exact typedText_oneLine text
  | null | bool | number | array | object => exact value_oneLine _

theorem subscriptionLine_isStatement (jid : String) : IsStatement (subscriptionLine jid) := by
  refine ⟨"await self.presence.subscribe(" ++ string jid ++ ")", ?_, ?_⟩
  · exact (OneLine.append (by decide) (string_oneLine jid)).append (by decide)
  · simp only [subscriptionLine, String.append_assoc]

theorem beliefEntry_oneLine (belief : String × Option String) : OneLine (beliefEntry belief) := by
  have named : OneLine (string belief.1 ++ ": ") := (string_oneLine belief.1).append (by decide)
  unfold beliefEntry
  split
  · exact named.append (typedText_oneLine _)
  · exact named.append (value_oneLine .null)

theorem beliefLines_areStatements (beliefs : Dict (Option String)) :
    ∀ line ∈ beliefLines beliefs, IsStatement line := by
  have entries : OneLine (", ".intercalate (beliefs.entries.map beliefEntry)) := by
    refine OneLine.intercalate (by decide) fun text inside => ?_
    obtain ⟨belief, _, rfl⟩ := List.mem_map.mp inside
    exact beliefEntry_oneLine belief
  intro line inside
  unfold beliefLines at inside
  split at inside
  · contradiction
  · simp only [List.mem_cons, List.not_mem_nil, or_false] at inside
    rcases inside with rfl | rfl | rfl | rfl | rfl | rfl
    · refine ⟨"initial_beliefs = \x7b" ++ ", ".intercalate (beliefs.entries.map beliefEntry) ++
        "\x7d", ?_, ?_⟩
      · exact (OneLine.append (by decide) entries).append (by decide)
      · simp only [String.append_assoc]
    all_goals exact ⟨_, by decide, rfl⟩

theorem knowledgeLine_isStatement (entry : String × Json) : IsStatement (knowledgeLine entry) := by
  refine ⟨"self.set(" ++ string entry.1 ++ ", " ++ typedValue entry.2 ++ ")", ?_, ?_⟩
  · have key : OneLine ("self.set(" ++ string entry.1 ++ ", ") :=
      (OneLine.append (by decide) (string_oneLine entry.1)).append (by decide)
    exact (key.append (typedValue_oneLine entry.2)).append (by decide)
  · simp only [knowledgeLine, String.append_assoc]

theorem promptLines_areStatements (prompt : String) :
    ∀ line ∈ promptLines prompt, IsStatement line := by
  intro line inside
  unfold promptLines at inside
  split at inside
  · contradiction
  · obtain rfl := List.mem_singleton.mp inside
    refine ⟨"self.set(\"llm_prompt\", " ++ string prompt ++ ")", ?_, ?_⟩
    · exact (OneLine.append (by decide) (string_oneLine prompt)).append (by decide)
    · simp only [String.append_assoc]

namespace Payload

/-- The functions typed for an agent's class. -/
def functions : Payload → List String
  | .reasoning special => special.functions
  | _ => []

theorem functionLines_eq (payload : Payload) :
    payload.functionLines = AgentGraph.functionLines payload.functions := by
  cases payload <;> rfl

theorem preparationLines_areStatements (payload : Payload) (shared : AgentSettings)
    (friends bases : List String) :
    ∀ line ∈ payload.preparationLines shared friends bases, IsStatement line := by
  intro line inside
  simp only [preparationLines, List.mem_append, List.mem_map] at inside
  rcases inside with (((inherited | ⟨jid, _, rfl⟩) | belief) | ⟨entry, _, rfl⟩) | prompt
  · split at inherited
    · contradiction
    · exact ⟨_, by decide, List.mem_singleton.mp inherited⟩
  · exact subscriptionLine_isStatement jid
  · cases payload with
    | reasoning special => exact beliefLines_areStatements _ line belief
    | agent | prompted | behaviour | template | message | note => contradiction
  · exact knowledgeLine_isStatement entry
  · cases payload with
    | prompted special => exact promptLines_areStatements _ line prompt
    | agent | reasoning | behaviour | template | message | note => contradiction

end Payload

section Placed

variable {width : Nat} {lines placed : List String}

theorem forall_isInside (deep : 4 ≤ width)
    (inPlace : List.Forall₂ (Text.Placed width) lines placed) : ∀ line ∈ placed, IsInside line := by
  induction inPlace with
  | nil => exact List.forall_mem_nil _
  | cons first _ ih =>
      refine List.forall_mem_cons.mpr ⟨?_, ih⟩
      cases first with
      | blank => exact .inl rfl
      | shown _ moved =>
          right
          rw [moved]
          obtain ⟨more, rfl⟩ := Nat.exists_eq_add_of_le deep
          rw [List.replicate_add, List.append_assoc]
          exact List.prefix_append _ _

theorem forall_not_mem (oneLine : ∀ line ∈ lines, '\n' ∉ line.toList)
    (inPlace : List.Forall₂ (Text.Placed width) lines placed) :
    ∀ line ∈ placed, '\n' ∉ line.toList := by
  induction inPlace with
  | nil => exact List.forall_mem_nil _
  | cons first _ ih =>
      obtain ⟨head, tail⟩ := List.forall_mem_cons.mp oneLine
      refine List.forall_mem_cons.mpr ⟨?_, ih tail⟩
      cases first with
      | blank => exact List.not_mem_nil
      | shown _ moved =>
          rw [moved, List.mem_append, not_or]
          exact ⟨fun space => absurd (List.eq_of_mem_replicate space) (by decide), head⟩

end Placed

/-- The lines of typed code, cut at its end. -/
def codeLines (code : String) : List String := Text.lines (Text.trimEnd code)

/-- The lines of all functions that are not blank. -/
def functionCode (functions : List String) : List String :=
  (functions.filter fun code => !Text.isBlankText code).flatMap codeLines

theorem setupLines_placed {code : String} (isShown : Text.isBlankText code = false) :
    List.Forall₂ (Text.Placed 8) (codeLines code) (setupLines code) := by
  rw [setupLines, if_neg (Bool.eq_false_iff.mp isShown)]
  exact Text.placed_indentedLines (by decide) _

theorem codeLines_not_mem (code : String) : ∀ line ∈ codeLines code, '\n' ∉ line.toList :=
  fun _ => Text.not_mem_of_mem_lines

theorem functionCode_not_mem {functions : List String} :
    ∀ line ∈ functionCode functions, '\n' ∉ line.toList := by
  intro line inside
  obtain ⟨code, _, held⟩ := List.mem_flatMap.mp inside
  exact codeLines_not_mem code line held

theorem setupLines_areInside (code : String) :
    ∀ line ∈ setupLines code, IsInside line ∧ '\n' ∉ line.toList := by
  cases isBlank : Text.isBlankText code with
  | true =>
      rw [setupLines, if_pos isBlank]
      have placeholder : IsStatement (bodyIndent ++ "pass") := ⟨"pass", by decide, rfl⟩
      exact List.forall_mem_singleton.mpr ⟨placeholder.isInside, placeholder.not_mem⟩
  | false =>
      have placed := setupLines_placed isBlank
      exact fun line inside => ⟨forall_isInside (by decide) placed line inside,
        forall_not_mem (codeLines_not_mem code) placed line inside⟩

theorem functionLines_placed (functions : List String) :
    ∃ separator code, functionLines functions = separator ++ code ∧
      (∀ line ∈ separator, line = "") ∧
      List.Forall₂ (Text.Placed 4) (functionCode functions) code := by
  unfold functionLines functionCode
  dsimp only
  split
  · next none_typed =>
      rw [List.isEmpty_iff.mp none_typed]
      exact ⟨[], [], rfl, List.forall_mem_nil _, .nil⟩
  · refine ⟨[""], _, rfl, fun line inside => List.mem_singleton.mp inside, ?_⟩
    refine List.rel_flatMap (List.forall₂_same.mpr fun _ _ => rfl) ?_
    rintro code _ rfl
    exact Text.placed_indentedLines (by decide) _

theorem mem_intercalate {separator : String} {texts : List String} {c : Char}
    (inside : c ∈ (separator.intercalate texts).toList) :
    c ∈ separator.toList ∨ ∃ text ∈ texts, c ∈ text.toList := by
  induction texts with
  | nil => contradiction
  | cons first texts ih =>
      cases texts with
      | nil =>
          rw [String.intercalate_singleton] at inside
          exact .inr ⟨first, List.mem_cons_self, inside⟩
      | cons next texts =>
          rw [String.intercalate_cons_cons, String.toList_append, String.toList_append,
            List.mem_append, List.mem_append] at inside
          rcases inside with (here | between) | later
          · exact .inr ⟨first, List.mem_cons_self, here⟩
          · exact .inl between
          · exact (ih later).imp_right fun ⟨text, held, found⟩ =>
              ⟨text, List.mem_cons_of_mem _ held, found⟩

/-- Whether the last of some lines ends with a character that is not white space. -/
def EndShown (lines : List String) : Prop := ∃ last ∈ lines.getLast?, Text.EndsShown last.toList

theorem EndShown.append {lines : List String} (ends : EndShown lines) (before : List String) :
    EndShown (before ++ lines) := by
  obtain ⟨last, found, shown⟩ := ends
  exact ⟨last, List.mem_getLast?_append_of_mem_getLast? found, shown⟩

theorem setupLines_endShown (code : String) : EndShown (setupLines code) := by
  unfold setupLines
  split
  · exact ⟨bodyIndent ++ "pass", rfl, 's', by decide, by decide⟩
  · next isShown => exact Text.indentedLines_endsShown _ (Bool.eq_false_iff.mpr isShown)

theorem functionLines_endShown (functions : List String) :
    functionLines functions = [] ∨ EndShown (functionLines functions) := by
  unfold functionLines
  dsimp only
  rcases List.eq_nil_or_concat (functions.filter fun code => !Text.isBlankText code) with
    none_typed | ⟨others, code, typed⟩
  · left
    rw [none_typed]
    rfl
  · right
    have isShown : Text.isBlankText code = false := by
      have held : code ∈ functions.filter fun code => !Text.isBlankText code := by
        rw [typed, List.concat_eq_append]
        exact List.mem_append_right _ List.mem_cons_self
      simpa using (List.mem_filter.mp held).2
    have last : EndShown (Text.indentedLines memberIndent (Text.trimEnd code)) :=
      Text.indentedLines_endsShown _ isShown
    rw [typed, List.concat_eq_append, if_neg (by simp), List.flatMap_append, List.flatMap_singleton]
    exact (last.append _).append [""]

/-- Cutting white space off the end of joined lines takes nothing where the last one is shown. -/
theorem trimEnd_intercalate {first second : String} {lines : List String}
    (ends : EndShown (first :: second :: lines)) :
    Text.trimEnd ("\n".intercalate (first :: second :: lines)) =
      "\n".intercalate (first :: second :: lines) := by
  obtain ⟨last, found, c, atEnd, shown⟩ := ends
  obtain ⟨others, split⟩ := List.getLast?_eq_some_iff.mp found
  have some_others : others ≠ [] := by
    rintro rfl
    exact absurd (congrArg List.length split) (by simp)
  rw [split, String.intercalate_append_of_ne_nil some_others (List.cons_ne_nil _ _),
    String.intercalate_singleton]
  exact Text.trimEnd_append _ atEnd shown

namespace Payload

variable {payload : Payload} {shared : AgentSettings} {className : String} {bases : List String}

def header (payload : Payload) (className : String) (bases : List String) : String :=
  let base := if bases.isEmpty then payload.frameworkClass else ", ".intercalate bases
  "class " ++ className ++ "(" ++ base ++ "):"

/-- The lines of an agent's class before the typed code. -/
def openingLines (payload : Payload) (shared : AgentSettings) (friends bases : List String) :
    List String :=
  (memberIndent ++ "async def setup(self):") :: payload.preparationLines shared friends bases

theorem classLines_eq (payload : Payload) (shared : AgentSettings) (className : String)
    (friends bases : List String) :
    payload.classLines shared className friends bases =
      payload.header className bases :: (payload.openingLines shared friends bases ++
        setupLines shared.setupCode ++ AgentGraph.functionLines payload.functions) := by
  rw [classLines, functionLines_eq]
  rfl

theorem header_not_mem (payload : Payload) (oneLine : '\n' ∉ className.toList)
    (basesOneLine : ∀ base ∈ bases, '\n' ∉ base.toList) :
    '\n' ∉ (payload.header className bases).toList := by
  have base : '\n' ∉
      (if bases.isEmpty then payload.frameworkClass else ", ".intercalate bases).toList := by
    split
    · unfold frameworkClass
      split <;> decide
    · intro newline
      rcases mem_intercalate newline with comma | ⟨base, inside, held⟩
      · exact absurd comma (by decide)
      · exact basesOneLine base inside held
  simp only [header, String.toList_append, List.mem_append, not_or]
  exact ⟨⟨⟨⟨by decide, oneLine⟩, by decide⟩, base⟩, by decide⟩

theorem openingLines_areInside (payload : Payload) (shared : AgentSettings)
    (friends bases : List String) :
    ∀ line ∈ payload.openingLines shared friends bases, IsInside line ∧ '\n' ∉ line.toList := by
  refine List.forall_mem_cons.mpr ⟨⟨.inr (by decide), by decide⟩, fun line inside => ?_⟩
  have statement := payload.preparationLines_areStatements shared friends bases line inside
  exact ⟨statement.isInside, statement.not_mem⟩

theorem classText_eq_intercalate (isAgent : payload.agent? = some shared) (className : String)
    (friends bases : List String) :
    payload.classText className friends bases =
      "\n".intercalate (payload.classLines shared className friends bases) := by
  have ends : EndShown (payload.classLines shared className friends bases) := by
    rw [classLines_eq]
    have body := ((setupLines_endShown shared.setupCode).append
      (payload.openingLines shared friends bases)).append [payload.header className bases]
    rcases functionLines_endShown payload.functions with none_typed | ends
    · rwa [none_typed, List.append_nil]
    · exact ends.append (payload.header className bases ::
        (payload.openingLines shared friends bases ++ setupLines shared.setupCode))
  rw [classText, isAgent]
  exact trimEnd_intercalate ends

/-- A class is its header and then lines that cannot leave it. The lines of the setup code stand
among them in their order, eight spaces to the right, and after them, four spaces to the right,
those of the functions. -/
theorem keepsCode_classText (isAgent : payload.agent? = some shared)
    (oneLine : '\n' ∉ className.toList) (friends : List String)
    (basesOneLine : ∀ base ∈ bases, '\n' ∉ base.toList) :
    ∃ opening setup separator code : List String,
      (payload.classText className friends bases).toList.splitOn '\n' =
        (payload.header className bases :: (opening ++ setup ++ (separator ++ code))).map
          String.toList ∧
      (∀ line ∈ opening ++ setup ++ (separator ++ code), IsInside line) ∧
      (Text.isBlankText shared.setupCode = false →
        List.Forall₂ (Text.Placed 8) (codeLines shared.setupCode) setup) ∧
      (∀ line ∈ separator, line = "") ∧
      List.Forall₂ (Text.Placed 4) (functionCode payload.functions) code := by
  obtain ⟨separator, code, split, blank, placed⟩ := functionLines_placed payload.functions
  have lines := payload.classLines_eq shared className friends bases
  rw [split] at lines
  have opening := payload.openingLines_areInside shared friends bases
  have setup := setupLines_areInside shared.setupCode
  have functions : ∀ line ∈ code, IsInside line ∧ '\n' ∉ line.toList := fun line inside =>
    ⟨forall_isInside (by decide) placed line inside,
      forall_not_mem functionCode_not_mem placed line inside⟩
  have areInside : ∀ line ∈ payload.openingLines shared friends bases ++
      setupLines shared.setupCode ++ (separator ++ code), IsInside line ∧ '\n' ∉ line.toList := by
    intro line inside
    simp only [List.mem_append] at inside
    rcases inside with (opened | prepared) | apart | typed
    · exact opening line opened
    · exact setup line prepared
    · exact ⟨.inl (blank line apart), blank line apart ▸ List.not_mem_nil⟩
    · exact functions line typed
  refine ⟨_, _, separator, code, ?_, fun line inside => (areInside line inside).1,
    setupLines_placed, blank, placed⟩
  rw [classText_eq_intercalate isAgent, lines, String.toList_intercalate]
  apply List.splitOn_intercalate
  · rintro chars inside
    obtain ⟨line, held, rfl⟩ := List.mem_map.mp inside
    rcases List.mem_cons.mp held with rfl | later
    · exact payload.header_not_mem oneLine basesOneLine
    · exact (areInside line later).2
  · exact List.cons_ne_nil _ _

/-- An agent whose setup mixes the ends of lines and has a blank line, and one of whose functions
is blank. -/
def carefulAgent : ReasoningAgent where
  agent := { setupCode := "if ready:\r\n  begin()\n \t\nfinish()\r\n\n" }
  functions := ["@self.bdi.add", " \n", "def greet():\n\n    pass\n"]

theorem keepsCode_classText_carefulAgent :
    ∃ opening setup separator code : List String,
      ((Payload.reasoning carefulAgent).classText "Careful" ["friend\n@host"] ["Base"]).toList.splitOn
          '\n' =
        ("class Careful(Base):" :: (opening ++ setup ++ (separator ++ code))).map String.toList ∧
      (∀ line ∈ opening ++ setup ++ (separator ++ code), IsInside line) ∧
      List.Forall₂ (Text.Placed 8) ["if ready:", "  begin()", " \t", "finish()"] setup ∧
      (∀ line ∈ separator, line = "") ∧
      List.Forall₂ (Text.Placed 4) ["@self.bdi.add", "def greet():", "", "    pass"] code := by
  have setupCode : codeLines carefulAgent.agent.setupCode =
      ["if ready:", "  begin()", " \t", "finish()"] := by
    decide +kernel
  have functions : functionCode carefulAgent.functions =
      ["@self.bdi.add", "def greet():", "", "    pass"] := by
    decide +kernel
  obtain ⟨opening, setup, separator, code, lines, inside, placed, blank, methods⟩ :=
    @keepsCode_classText (.reasoning carefulAgent) carefulAgent.agent "Careful" ["Base"] rfl
      (by decide) ["friend\n@host"] (by decide)
  rw [setupCode] at placed
  rw [show Payload.functions (.reasoning carefulAgent) = carefulAgent.functions from rfl,
    functions] at methods
  exact ⟨opening, setup, separator, code, lines, inside, placed (by decide), blank, methods⟩

end Payload

end AgentGraph
