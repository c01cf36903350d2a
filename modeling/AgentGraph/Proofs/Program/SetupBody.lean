import AgentGraph.Proofs.Program.TypedCode

/-!
The body of an agent's setup. Whatever the generator writes there is code, and so is its placeholder;
typed code that is all comments leaves the setup without a body where nothing else is written.
-/

namespace AgentGraph

def indentOf (line : List Char) : List Char := line.takeWhile Text.isBlank

/-- Whether a line is neither blank nor, after its indent, a comment. -/
def isCode (line : List Char) : Bool :=
  match line.dropWhile Text.isBlank with
  | [] => false
  | c :: _ => c != '#'

/-- Whether the lines after a header that is `width` deep begin with a body. Blank lines and comments
do not count, so the first line of code decides: it has to be deeper than the header. -/
def HasBody (width : Nat) (lines : List (List Char)) : Prop :=
  ∃ line ∈ lines.find? isCode, width < (indentOf line).length

/-- Whether a line is code that is more than `width` deep. -/
def IsDeepCode (width : Nat) (line : List Char) : Prop :=
  isCode line = true ∧ width < (indentOf line).length

instance (width : Nat) (line : List Char) : Decidable (IsDeepCode width line) :=
  inferInstanceAs (Decidable (_ ∧ _))

theorem IsDeepCode.of_prefix {width : Nat} {opening line : List Char}
    (code : IsDeepCode width opening) (opens : opening <+: line) : IsDeepCode width line := by
  obtain ⟨rest, rfl⟩ := opens
  obtain ⟨isCode_opening, deep⟩ := code
  cases shown : opening.dropWhile Text.isBlank with
  | nil => simp [isCode, shown] at isCode_opening
  | cons c after =>
      have dropped : (opening ++ rest).dropWhile Text.isBlank = c :: (after ++ rest) := by
        rw [List.dropWhile_append, shown]
        rfl
      have indent : indentOf (opening ++ rest) = indentOf opening := by
        have split : indentOf (opening ++ rest) ++ c :: (after ++ rest) =
            indentOf opening ++ c :: (after ++ rest) := by
          rw [indentOf, indentOf, ← dropped, List.takeWhile_append_dropWhile, dropped,
            ← List.cons_append, ← List.append_assoc, ← shown, List.takeWhile_append_dropWhile]
        exact List.append_cancel_right split
      refine ⟨?_, indent ▸ deep⟩
      simpa [isCode, dropped, shown] using isCode_opening

theorem IsDeepCode.append {width : Nat} {text : String} (code : IsDeepCode width text.toList)
    (rest : String) : IsDeepCode width (text ++ rest).toList :=
  code.of_prefix (String.toList_append ▸ List.prefix_append _ _)

/-- Where code is always deep, any of it makes a body. -/
theorem hasBody_append_of_deep {width : Nat} {first : List String}
    (deep : ∀ line ∈ first, isCode line.toList = true → width < (indentOf line.toList).length)
    (second : List String) :
    HasBody width ((first ++ second).map String.toList) ↔
      (∃ line ∈ first, isCode line.toList = true) ∨ HasBody width (second.map String.toList) := by
  unfold HasBody
  rw [List.map_append, List.find?_append]
  cases found : (first.map String.toList).find? isCode with
  | none =>
      have none_code : ¬∃ line ∈ first, isCode line.toList = true := by
        rintro ⟨line, inside, code⟩
        exact List.find?_eq_none.mp found _ (List.mem_map_of_mem inside) code
      rw [Option.none_or, or_iff_right none_code]
  | some chars =>
      obtain ⟨line, inside, rfl⟩ := List.mem_map.mp (List.mem_of_find?_eq_some found)
      have code := List.find?_some found
      rw [Option.some_or]
      exact ⟨fun _ => .inl ⟨line, inside, code⟩, fun _ => ⟨_, rfl, deep line inside code⟩⟩

section Placed

variable {width : Nat}

theorem isCode_placed {line placed : String} (inPlace : Text.Placed width line placed) :
    isCode placed.toList = isCode line.toList ∧
      (isCode line.toList = true →
        (indentOf placed.toList).length = width + (indentOf line.toList).length) := by
  have spaces : ∀ c ∈ List.replicate width ' ', Text.isBlank c = true := by
    intro c inside
    rw [List.eq_of_mem_replicate inside]
    decide
  cases inPlace with
  | blank isBlank =>
      have all : line.toList.dropWhile Text.isBlank = [] :=
        List.dropWhile_eq_nil_iff.mpr (List.all_eq_true.mp isBlank)
      have notCode : isCode line.toList = false := by rw [isCode, all]
      rw [notCode]
      exact ⟨rfl, nofun⟩
  | shown _ moved =>
      rw [moved, isCode, isCode, List.dropWhile_append_of_pos spaces, indentOf, indentOf,
        List.takeWhile_append_of_pos spaces, List.length_append, List.length_replicate]
      exact ⟨rfl, fun _ => rfl⟩

theorem exists_isCode_placed {lines placed : List String}
    (inPlace : List.Forall₂ (Text.Placed width) lines placed) :
    (∃ line ∈ placed, isCode line.toList = true) ↔ ∃ line ∈ lines, isCode line.toList = true := by
  induction inPlace with
  | nil => rfl
  | cons first _ ih =>
      simp only [List.mem_cons, exists_eq_or_imp, ih, (isCode_placed first).1]

theorem deep_placed {depth : Nat} (deeper : depth < width) {lines placed : List String}
    (inPlace : List.Forall₂ (Text.Placed width) lines placed) :
    ∀ line ∈ placed, isCode line.toList = true → depth < (indentOf line.toList).length := by
  induction inPlace with
  | nil => exact List.forall_mem_nil _
  | @cons line moved _ _ first _ ih =>
      obtain ⟨same, indent⟩ := isCode_placed first
      refine List.forall_mem_cons.mpr ⟨fun code => ?_, ih⟩
      rw [indent (same ▸ code)]
      omega

theorem hasBody_placed {depth : Nat} {lines placed : List String}
    (inPlace : List.Forall₂ (Text.Placed width) lines placed) :
    HasBody (width + depth) (placed.map String.toList) ↔
      HasBody depth (lines.map String.toList) := by
  induction inPlace with
  | nil => exact ⟨nofun, nofun⟩
  | @cons line moved lines placed first _ ih =>
      obtain ⟨same, deeper⟩ := isCode_placed first
      unfold HasBody at ih ⊢
      rw [List.map_cons, List.map_cons, List.find?_cons, List.find?_cons, same]
      cases code : isCode line.toList with
      | false => exact ih
      | true => simp [deeper code]

end Placed

namespace Payload

/-- Whether an agent's setup has something to do before the typed code. -/
inductive IsPrepared (payload : Payload) (shared : AgentSettings) (friends bases : List String) :
    Prop
  | inherited (some_base : bases ≠ [])
  | befriended (some_friend : friends ≠ [])
  | believing {special : ReasoningAgent} (isReasoning : payload = .reasoning special)
      (some_belief : special.beliefs.entries ≠ [])
  | knowing {entry : String × Json} (inside : entry ∈ shared.knowledge.entries)
      (named : Text.isBlankText entry.1 = false)
  | prompted {special : PromptedAgent} (isPrompted : payload = .prompted special)
      (isShown : Text.isBlankText special.prompt = false)

variable {payload : Payload} {shared : AgentSettings} {friends bases : List String}

theorem beliefLines_deepCode (beliefs : Dict (Option String)) :
    ∀ line ∈ AgentGraph.beliefLines beliefs, IsDeepCode 4 line.toList := by
  intro line inside
  unfold AgentGraph.beliefLines at inside
  split at inside
  · contradiction
  · have opening : IsDeepCode 4 (bodyIndent ++ "initial_beliefs = \x7b").toList := by decide
    simp only [List.mem_cons, List.not_mem_nil, or_false] at inside
    rcases inside with rfl | rfl | rfl | rfl | rfl | rfl
    · exact (opening.append _).append _
    all_goals decide

theorem promptLines_deepCode (prompt : String) :
    ∀ line ∈ AgentGraph.promptLines prompt, IsDeepCode 4 line.toList := by
  intro line inside
  unfold AgentGraph.promptLines at inside
  split at inside
  · contradiction
  · have opening : IsDeepCode 4 (bodyIndent ++ "self.set(\"llm_prompt\", ").toList := by decide
    rw [List.mem_singleton.mp inside]
    exact (opening.append _).append _

theorem preparationLines_deepCode (payload : Payload) (shared : AgentSettings)
    (friends bases : List String) :
    ∀ line ∈ payload.preparationLines shared friends bases, IsDeepCode 4 line.toList := by
  have subscription : IsDeepCode 4 (bodyIndent ++ "await self.presence.subscribe(").toList := by
    decide
  have setting : IsDeepCode 4 (bodyIndent ++ "self.set(").toList := by decide
  intro line inside
  simp only [preparationLines, List.mem_append, List.mem_map] at inside
  rcases inside with (((inherited | ⟨jid, _, rfl⟩) | belief) | ⟨entry, _, rfl⟩) | prompt
  · split at inherited
    · contradiction
    · rw [List.mem_singleton.mp inherited]
      decide
  · exact (subscription.append _).append _
  · cases payload with
    | reasoning special => exact beliefLines_deepCode _ line belief
    | agent | prompted | behaviour | template | message | note => contradiction
  · exact (((setting.append _).append _).append _).append _
  · cases payload with
    | prompted special => exact promptLines_deepCode _ line prompt
    | agent | reasoning | behaviour | template | message | note => contradiction

theorem beliefLines_eq_nil :
    payload.beliefLines = [] ↔
      ∀ special, payload = .reasoning special → special.beliefs.entries = [] := by
  cases payload with
  | reasoning special =>
      simp only [beliefLines, AgentGraph.beliefLines, Dict.isEmpty, List.isEmpty_iff,
        ite_eq_left_iff, reduceCtorEq, imp_false, not_not, reasoning.injEq, forall_eq']
  | agent | prompted | behaviour | template | message | note => exact ⟨nofun, fun _ => rfl⟩

theorem promptLines_eq_nil :
    payload.promptLines = [] ↔
      ∀ special, payload = .prompted special → Text.isBlankText special.prompt = true := by
  cases payload with
  | prompted special =>
      simp only [promptLines, AgentGraph.promptLines, ite_eq_left_iff, reduceCtorEq, imp_false,
        not_not, prompted.injEq, forall_eq']
  | agent | reasoning | behaviour | template | message | note => exact ⟨nofun, fun _ => rfl⟩

theorem namedEntries_eq_nil {α : Type} (dict : Dict α) :
    namedEntries dict = [] ↔ ∀ entry ∈ dict.entries, Text.isBlankText entry.1 = true := by
  simp [namedEntries]

theorem preparationLines_eq_nil :
    payload.preparationLines shared friends bases = [] ↔
      ¬payload.IsPrepared shared friends bases := by
  simp only [preparationLines, List.append_eq_nil_iff, List.map_eq_nil_iff, beliefLines_eq_nil,
    promptLines_eq_nil, namedEntries_eq_nil, List.isEmpty_iff, ite_eq_left_iff, reduceCtorEq,
    imp_false, not_not]
  constructor
  · rintro ⟨⟨⟨⟨no_base, no_friend⟩, no_belief⟩, no_entry⟩, no_prompt⟩ prepared
    cases prepared with
    | inherited some_base => exact some_base no_base
    | befriended some_friend => exact some_friend no_friend
    | believing isReasoning some_belief => exact some_belief (no_belief _ isReasoning)
    | knowing inside named => exact Bool.false_ne_true (named.symm.trans (no_entry _ inside))
    | prompted isPrompted isShown =>
        exact Bool.false_ne_true (isShown.symm.trans (no_prompt _ isPrompted))
  · intro unprepared
    refine ⟨⟨⟨⟨?_, ?_⟩, ?_⟩, ?_⟩, ?_⟩
    · exact by_contra fun some_base => unprepared (.inherited some_base)
    · exact by_contra fun some_friend => unprepared (.befriended some_friend)
    · exact fun special isReasoning =>
        by_contra fun some_belief => unprepared (.believing isReasoning some_belief)
    · exact fun entry inside =>
        by_contra fun named => unprepared (.knowing inside (Bool.eq_false_iff.mpr named))
    · exact fun special isPrompted =>
        by_contra fun isShown => unprepared (.prompted isPrompted (Bool.eq_false_iff.mpr isShown))

theorem exists_isCode_preparationLines :
    (∃ line ∈ payload.preparationLines shared friends bases, isCode line.toList = true) ↔
      payload.IsPrepared shared friends bases := by
  have areCode := payload.preparationLines_deepCode shared friends bases
  rw [← not_iff_not, ← preparationLines_eq_nil, List.eq_nil_iff_forall_not_mem]
  refine ⟨fun none_code line inside => none_code ⟨line, inside, (areCode line inside).1⟩, ?_⟩
  rintro none ⟨line, inside, _⟩
  exact none line inside

end Payload

/-- Typed code makes a body with its placeholder, or with any line of its own that is code. -/
theorem exists_isCode_setupLines (code : String) :
    (∃ line ∈ setupLines code, isCode line.toList = true) ↔
      Text.isBlankText code = true ∨ ∃ line ∈ codeLines code, isCode line.toList = true := by
  cases isBlank : Text.isBlankText code with
  | true =>
      rw [setupLines, if_pos isBlank]
      exact ⟨fun _ => .inl rfl, fun _ => ⟨_, List.mem_singleton_self _, by decide⟩⟩
  | false =>
      rw [exists_isCode_placed (setupLines_placed isBlank), or_iff_right Bool.false_ne_true]

theorem setupLines_deep (code : String) :
    ∀ line ∈ setupLines code, isCode line.toList = true → 4 < (indentOf line.toList).length := by
  cases isBlank : Text.isBlankText code with
  | true =>
      rw [setupLines, if_pos isBlank]
      exact List.forall_mem_singleton.mpr fun _ => by decide
  | false => exact deep_placed (by decide) (setupLines_placed isBlank)

theorem hasBody_functionLines (functions : List String) :
    HasBody 4 ((functionLines functions).map String.toList) ↔
      HasBody 0 ((functionCode functions).map String.toList) := by
  obtain ⟨separator, code, split, blank, placed⟩ := functionLines_placed functions
  have not_code : ∀ line ∈ separator, isCode line.toList = false := fun line inside =>
    blank line inside ▸ rfl
  have none_code : ¬∃ line ∈ separator, isCode line.toList = true :=
    fun ⟨line, inside, code⟩ => Bool.false_ne_true ((not_code line inside).symm.trans code)
  rw [split, hasBody_append_of_deep fun line inside code => absurd ⟨line, inside, code⟩ none_code,
    or_iff_right none_code]
  exact @hasBody_placed 4 0 _ _ placed

theorem functionLines_not_mem (functions : List String) :
    ∀ line ∈ functionLines functions, '\n' ∉ line.toList := by
  obtain ⟨separator, code, split, blank, placed⟩ := functionLines_placed functions
  rw [split]
  refine List.forall_mem_append.mpr ⟨fun line inside => ?_, ?_⟩
  · exact blank line inside ▸ List.not_mem_nil
  · exact forall_not_mem functionCode_not_mem placed

namespace Payload

variable {payload : Payload} {shared : AgentSettings}

/-- The lines of an agent's class after the header of its setup. -/
def bodyLines (payload : Payload) (shared : AgentSettings) (friends bases : List String) :
    List String :=
  payload.preparationLines shared friends bases ++
    (setupLines shared.setupCode ++ AgentGraph.functionLines payload.functions)

theorem bodyLines_ne_nil (payload : Payload) (shared : AgentSettings)
    (friends bases : List String) : payload.bodyLines shared friends bases ≠ [] := by
  obtain ⟨last, found, _⟩ := setupLines_endShown shared.setupCode
  have inside : last ∈ payload.bodyLines shared friends bases :=
    List.mem_append_right _ (List.mem_append_left _ (List.mem_of_mem_getLast? found))
  exact List.ne_nil_of_mem inside

theorem bodyLines_not_mem (payload : Payload) (shared : AgentSettings)
    (friends bases : List String) :
    ∀ line ∈ payload.bodyLines shared friends bases, '\n' ∉ line.toList := by
  refine List.forall_mem_append.mpr ⟨fun line inside => ?_, List.forall_mem_append.mpr ⟨?_, ?_⟩⟩
  · exact (payload.preparationLines_areStatements shared friends bases line inside).not_mem
  · exact fun line inside => (setupLines_areInside shared.setupCode line inside).2
  · exact functionLines_not_mem payload.functions

theorem hasBody_bodyLines (payload : Payload) (shared : AgentSettings)
    (friends bases : List String) :
    HasBody 4 ((payload.bodyLines shared friends bases).map String.toList) ↔
      payload.IsPrepared shared friends bases ∨ Text.isBlankText shared.setupCode = true ∨
        (∃ line ∈ codeLines shared.setupCode, isCode line.toList = true) ∨
        HasBody 0 ((functionCode payload.functions).map String.toList) := by
  have prepared := payload.preparationLines_deepCode shared friends bases
  rw [bodyLines, hasBody_append_of_deep fun line inside _ => (prepared line inside).2,
    hasBody_append_of_deep (setupLines_deep shared.setupCode), exists_isCode_preparationLines,
    exists_isCode_setupLines, hasBody_functionLines, or_assoc]

theorem classText_eq_body (isAgent : payload.agent? = some shared) (className : String)
    (friends bases : List String) :
    payload.classText className friends bases =
      payload.header className bases ++ "\n" ++ (memberIndent ++ "async def setup(self):") ++
        "\n" ++ "\n".intercalate (payload.bodyLines shared friends bases) := by
  have lines : payload.classLines shared className friends bases =
      [payload.header className bases, memberIndent ++ "async def setup(self):"] ++
        payload.bodyLines shared friends bases := by
    rw [classLines_eq, openingLines, bodyLines]
    simp only [List.cons_append, List.nil_append, List.append_assoc]
  rw [classText_eq_intercalate isAgent, lines, String.intercalate_append_of_ne_nil
    (List.cons_ne_nil _ _) (payload.bodyLines_ne_nil shared friends bases),
    String.intercalate_cons_cons, String.intercalate_singleton]

/-- The setup of an agent's class has a body if and only if something is written before the
typed code, the typed code is blank or has a line of code, or else the functions begin with
code that is indented itself. Typed code that is comments alone is no body, and as it is not
blank, no placeholder stands in for it. -/
theorem hasBody_classText_iff (isAgent : payload.agent? = some shared) (className : String)
    (friends bases : List String) :
    ∃ rest, payload.classText className friends bases =
        payload.header className bases ++ "\n" ++ (memberIndent ++ "async def setup(self):") ++
          "\n" ++ rest ∧
      (HasBody 4 (rest.toList.splitOn '\n') ↔
        payload.IsPrepared shared friends bases ∨ Text.isBlankText shared.setupCode = true ∨
          (∃ line ∈ codeLines shared.setupCode, isCode line.toList = true) ∨
          HasBody 0 ((functionCode payload.functions).map String.toList)) := by
  have split : ("\n".intercalate (payload.bodyLines shared friends bases)).toList.splitOn '\n' =
      (payload.bodyLines shared friends bases).map String.toList := by
    rw [String.toList_intercalate]
    apply List.splitOn_intercalate
    · intro chars inside
      obtain ⟨line, held, rfl⟩ := List.mem_map.mp inside
      exact payload.bodyLines_not_mem shared friends bases line held
    · exact mt List.map_eq_nil_iff.mp (payload.bodyLines_ne_nil shared friends bases)
  refine ⟨_, classText_eq_body isAgent className friends bases, ?_⟩
  rw [split, hasBody_bodyLines]

def hesitantAgent : ReasoningAgent where
  agent := { setupCode := "# first\r\n\n\t# second\n" }
  beliefTexts := [" : unnamed"]
  functions := ["\n# greets\ndef greet():\n    pass"]

theorem hasBody_classText_iff_hesitantAgent :
    (∃ rest, (Payload.reasoning hesitantAgent).classText "Hesitant" [] [] =
        "class Hesitant(BDIAgent):\n    async def setup(self):\n" ++ rest ∧
      ¬HasBody 4 (rest.toList.splitOn '\n')) ∧
    ∃ rest, (Payload.reasoning hesitantAgent).classText "Hesitant" ["friend@host"] [] =
        "class Hesitant(BDIAgent):\n    async def setup(self):\n" ++ rest ∧
      HasBody 4 (rest.toList.splitOn '\n') := by
  have isAgent : (Payload.reasoning hesitantAgent).agent? = some hesitantAgent.agent := rfl
  constructor
  · obtain ⟨rest, text, body⟩ := hasBody_classText_iff isAgent "Hesitant" [] []
    refine ⟨rest, text, ?_⟩
    rw [body, not_or, not_or, not_or]
    refine ⟨preparationLines_eq_nil.mp (by decide +kernel), by decide +kernel, ?_, ?_⟩
    · decide +kernel
    · unfold HasBody
      decide +kernel
  · obtain ⟨rest, text, body⟩ := hasBody_classText_iff isAgent "Hesitant" ["friend@host"] []
    exact ⟨rest, text, body.mpr (.inl (.befriended (List.cons_ne_nil _ _)))⟩

def unwrittenAgent : AgentSettings := { setupCode := "# nothing to set up yet" }

theorem unwrittenAgent_noBody :
    (Payload.agent unwrittenAgent).classText "MyAgent1" [] [] =
      "class MyAgent1(Agent):\n    async def setup(self):\n        # nothing to set up yet" ∧
    ∀ line ∈ "        # nothing to set up yet".toList.splitOn '\n', isCode line = false := by
  constructor
  · decide +kernel
  · decide +kernel

end Payload

end AgentGraph
