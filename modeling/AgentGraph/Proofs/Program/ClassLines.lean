import AgentGraph.Proofs.Program.Erasure
import AgentGraph.Proofs.Program.Lines

/-!
The class of an agent without typed code: erasing data changes nothing in it but the
contents of literals.
-/

namespace AgentGraph

open Literal

theorem Text.trimEnd_append {last : String} {c : Char} (first : String)
    (ends : last.toList.getLast? = some c) (shown : isBlank c = false) :
    trimEnd (first ++ last) = first ++ last := by
  have head : (first ++ last).toList.reverse.head? = some c := by
    rw [List.head?_reverse, String.toList_append, List.getLast?_append, ends]
    rfl
  have kept : dropBlank (first ++ last).toList.reverse = (first ++ last).toList.reverse := by
    cases reversed : (first ++ last).toList.reverse with
    | nil => rfl
    | cons other rest =>
        rw [reversed] at head
        injection head with same
        rw [dropBlank, List.dropWhile_cons_of_neg (by simp [same, shown])]
  rw [trimEnd, dropBlankEnd, kept, List.reverse_reverse, String.ofList_toList]

/-- Whether no code was typed into the payload's form. -/
def Payload.isCodeless : Payload → Bool
  | .agent shared => Text.isBlankText shared.setupCode
  | .reasoning special =>
      Text.isBlankText special.agent.setupCode && special.functions.all Text.isBlankText
  | .prompted special => Text.isBlankText special.agent.setupCode
  | .behaviour settings => settings.userCode?.isNone
  | .template _ | .message _ | .note _ => true

theorem subscriptionLine_alike (jid other : String) :
    Alike (subscriptionLine jid) (subscriptionLine other) := by
  have opened : Whole (bodyIndent ++ "await self.presence.subscribe(") := by decide
  have closed : Whole ")" := by decide
  exact ((string_alike jid other).prepend opened).append closed.alike

theorem subscriptionLines_alike {friends others : List String}
    (lengths : friends.length = others.length) :
    List.Forall₂ Alike (friends.map subscriptionLine) (others.map subscriptionLine) := by
  rw [List.forall₂_map_left_iff, List.forall₂_map_right_iff]
  exact List.forall₂_iff_get.mpr ⟨lengths, fun _ _ _ => subscriptionLine_alike _ _⟩

theorem beliefLines_whole (beliefs : Dict (Option String)) :
    ∀ line ∈ beliefLines beliefs, Whole line := by
  have entry (belief : String × Option String) : Whole (beliefEntry belief) := by
    have named : Whole (Literal.string belief.1 ++ ": ") :=
      (string_whole belief.1).append (by decide)
    unfold beliefEntry
    split
    · exact named.append (typedText_whole _)
    · exact named.append (value_whole .null)
  have entries : Whole (", ".intercalate (beliefs.entries.map beliefEntry)) := by
    apply comma_whole.intercalate
    intro text inside
    obtain ⟨belief, _, rfl⟩ := List.mem_map.mp inside
    exact entry belief
  unfold beliefLines
  split
  · exact List.forall_mem_nil _
  · intro line inside
    simp only [List.mem_cons, List.not_mem_nil, or_false] at inside
    rcases inside with rfl | rfl | rfl | rfl | rfl | rfl
    · exact (Whole.append (by decide) entries).append (by decide)
    all_goals decide

theorem knowledgeLine_whole (entry : String × Json) : Whole (knowledgeLine entry) := by
  have opened : Whole (bodyIndent ++ "self.set(") := by decide
  have key : Whole (bodyIndent ++ "self.set(" ++ Literal.string entry.1 ++ ", ") :=
    (opened.append (string_whole entry.1)).append (by decide)
  exact (key.append (typedValue_whole entry.2)).append (by decide)

theorem promptLines_erased (prompt : String) :
    List.Forall₂ Alike (promptLines prompt) (promptLines (erasedField prompt)) := by
  have opened : Whole (bodyIndent ++ "self.set(\"llm_prompt\", ") := by decide
  have closed : Whole ")" := by decide
  unfold promptLines
  rw [isBlankText_erasedField]
  split
  · exact .nil
  · exact .cons (((string_alike _ _).prepend opened).append closed.alike) .nil

namespace Payload

theorem beliefLines_erased (payload : Payload) :
    List.Forall₂ Alike payload.beliefLines payload.erased.beliefLines := by
  cases payload with
  | reasoning special => exact forall₂_of_whole (beliefLines_whole special.beliefs)
  | agent | prompted | behaviour | template | message | note => exact .nil

theorem promptLines_erased (payload : Payload) :
    List.Forall₂ Alike payload.promptLines payload.erased.promptLines := by
  cases payload with
  | prompted special => exact AgentGraph.promptLines_erased special.prompt
  | agent | reasoning | behaviour | template | message | note => exact .nil

theorem preparationLines_erased (payload : Payload) (shared : AgentSettings)
    {friends others : List String} (lengths : friends.length = others.length)
    (bases : List String) :
    List.Forall₂ Alike (payload.preparationLines shared friends bases)
      (payload.erased.preparationLines shared.erased others bases) := by
  have inherited : ∀ line ∈ (if bases.isEmpty then []
      else [bodyIndent ++ "await super().setup()"]), Whole line := by
    split
    · exact List.forall_mem_nil _
    · decide
  have knowledge : ∀ line ∈ (namedEntries shared.knowledge).map knowledgeLine, Whole line := by
    intro line inside
    obtain ⟨entry, _, rfl⟩ := List.mem_map.mp inside
    exact knowledgeLine_whole entry
  unfold preparationLines
  refine List.rel_append (List.rel_append (List.rel_append (List.rel_append ?_ ?_) ?_) ?_) ?_
  · exact forall₂_of_whole inherited
  · exact subscriptionLines_alike lengths
  · exact payload.beliefLines_erased
  · exact forall₂_of_whole knowledge
  · exact payload.promptLines_erased

theorem functionLines_codeless {payload : Payload} (codeless : payload.isCodeless = true) :
    payload.functionLines = [] := by
  cases payload with
  | reasoning special =>
      obtain ⟨_, functions⟩ := Bool.and_eq_true_iff.mp codeless
      have typed : special.functions.filter (fun code => !Text.isBlankText code) = [] := by
        rw [List.filter_eq_nil_iff]
        intro code inside
        rw [List.all_eq_true.mp functions code inside]
        decide
      simp only [functionLines, AgentGraph.functionLines, typed]
      rfl
  | agent | prompted | behaviour | template | message | note => rfl

theorem setupLines_codeless {payload : Payload} (codeless : payload.isCodeless = true)
    {shared : AgentSettings} (isAgent : payload.agent? = some shared) :
    setupLines shared.setupCode = [bodyIndent ++ "pass"] := by
  have blank : Text.isBlankText shared.setupCode = true := by
    cases payload with
    | reasoning special =>
        injection isAgent with same
        exact same ▸ (Bool.and_eq_true_iff.mp codeless).1
    | agent | prompted =>
        injection isAgent with same
        exact same ▸ codeless
    | behaviour | template | message | note => contradiction
  rw [setupLines, if_pos blank]

theorem isCodeless_erased (payload : Payload) :
    payload.erased.isCodeless = payload.isCodeless := by
  cases payload <;> rfl

/-- The lines of a class without typed code before its last one. -/
def headLines (payload : Payload) (shared : AgentSettings) (className : String)
    (friends bases : List String) : List String :=
  let base := if bases.isEmpty then payload.frameworkClass else ", ".intercalate bases
  ["class " ++ className ++ "(" ++ base ++ "):", memberIndent ++ "async def setup(self):"] ++
    payload.preparationLines shared friends bases

theorem classText_codeless {payload : Payload} (codeless : payload.isCodeless = true)
    {shared : AgentSettings} (isAgent : payload.agent? = some shared) (className : String)
    (friends bases : List String) :
    payload.classText className friends bases =
      "\n".intercalate (payload.headLines shared className friends bases) ++ "\n" ++
        (bodyIndent ++ "pass") := by
  have lines : payload.classLines shared className friends bases =
      payload.headLines shared className friends bases ++ [bodyIndent ++ "pass"] := by
    rw [classLines, functionLines_codeless codeless, setupLines_codeless codeless isAgent,
      List.append_nil]
    rfl
  have some_lines : payload.headLines shared className friends bases ≠ [] :=
    List.cons_ne_nil _ _
  rw [classText, isAgent]
  simp only [lines]
  rw [String.intercalate_append_of_ne_nil some_lines (List.cons_ne_nil _ _),
    String.intercalate_singleton, Text.trimEnd_append _ rfl (by decide)]

theorem headLines_erased (payload : Payload) (shared : AgentSettings) {className : String}
    (plain : Plain className) {friends others : List String}
    (lengths : friends.length = others.length) {bases : List String}
    (plains : ∀ base ∈ bases, Plain base) :
    List.Forall₂ Alike (payload.headLines shared className friends bases)
      (payload.erased.headLines shared.erased className others bases) := by
  have framework : payload.erased.frameworkClass = payload.frameworkClass := by
    rw [frameworkClass, frameworkClass, isReasoning_erased]
  have base : Whole (if bases.isEmpty then payload.frameworkClass else ", ".intercalate bases) := by
    split
    · unfold frameworkClass
      split <;> decide
    · exact comma_whole.intercalate fun name inside => (plains name inside).whole
  have header : Whole ("class " ++ className ++ "(" ++
      (if bases.isEmpty then payload.frameworkClass else ", ".intercalate bases) ++ "):") := by
    have opened : Whole ("class " ++ className ++ "(") :=
      (Whole.append (by decide) plain.whole).append (by decide)
    exact (opened.append base).append (by decide)
  have setup : Whole (memberIndent ++ "async def setup(self):") := by decide
  unfold headLines
  rw [framework]
  refine List.rel_append ?_ (payload.preparationLines_erased shared lengths bases)
  exact .cons header.alike (.cons setup.alike .nil)

theorem classText_erased {payload : Payload} (codeless : payload.isCodeless = true)
    {shared : AgentSettings} (isAgent : payload.agent? = some shared) {className : String}
    (plain : Plain className) {friends others : List String}
    (lengths : friends.length = others.length) {bases : List String}
    (plains : ∀ base ∈ bases, Plain base) :
    Alike (payload.classText className friends bases)
      (payload.erased.classText className others bases) := by
  have codeless' : payload.erased.isCodeless = true := by rwa [isCodeless_erased]
  have isAgent' : payload.erased.agent? = some shared.erased := by
    rw [agent?_erased, isAgent]
    rfl
  have newline : Whole "\n" := by decide
  have last : Whole (bodyIndent ++ "pass") := by decide
  rw [classText_codeless codeless isAgent, classText_codeless codeless' isAgent']
  have heads := payload.headLines_erased shared plain lengths plains
  exact ((Alike.intercalate newline heads).append newline.alike).append last.alike

end Payload

end AgentGraph
