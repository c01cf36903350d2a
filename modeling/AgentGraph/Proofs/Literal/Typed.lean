import AgentGraph.Proofs.Json.Compact
import AgentGraph.Proofs.Literal.ReadBack
import AgentGraph.Proofs.Text.Lines

/-!
Typed texts. A text that spells an array or an object, whatever white space stands around it, has
the literal of that value, whose strings stay strings; any other text has its own.
-/

namespace AgentGraph

namespace Json

def isStructure : Json → Bool
  | .array _ | .object _ => true
  | _ => false

theorem isBlank_of_isSpace {c : Char} (space : isSpace c = true) : Text.isBlank c = true := by
  simp only [isSpace, Bool.or_eq_true, beq_iff_eq] at space
  rcases space with ((rfl | rfl) | rfl) | rfl
  all_goals decide

theorem IsGap.all_isBlank {gap : List Char} (spaces : IsGap gap) : gap.all Text.isBlank = true :=
  List.all_eq_true.mpr fun c inside => isBlank_of_isSpace (spaces c inside)

/-- Whether a text is a spelling between brackets, with white space of JSON around them. -/
def IsCored (depth : Nat) (value : Json) (text : List Char) : Prop :=
  ∃ before core after, IsGap before ∧ IsGap after ∧ text = before ++ core ++ after ∧
    Spells depth value core ∧ (∃ c ∈ core.head?, Text.isBlank c = false) ∧ Text.EndsShown core

theorem isCored_of_brackets {depth : Nat} {value : Json} {opening closing : Char}
    {inner : List Char} (spelled : Spells depth value (opening :: (inner ++ [closing])))
    (opens : Text.isBlank opening = false) (closes : Text.isBlank closing = false) :
    IsCored depth value (opening :: (inner ++ [closing])) := by
  refine ⟨[], _, [], .nil, .nil, (List.append_nil _).symm, spelled, ⟨opening, rfl, opens⟩,
    ⟨closing, ?_, closes⟩⟩
  rw [← List.cons_append, List.getLast?_concat]
  rfl

theorem Spells.isCored {depth : Nat} {value : Json} {text : List Char}
    (spelled : Spells depth value text) (isStructure : value.isStructure = true) :
    IsCored depth value text := by
  induction spelled with
  | null | yes | no | number | string => contradiction
  | emptyArray spaces => exact isCored_of_brackets (.emptyArray spaces) rfl rfl
  | array some_part spelled => exact isCored_of_brackets (.array some_part spelled) rfl rfl
  | emptyObject spaces => exact isCored_of_brackets (.emptyObject spaces) rfl rfl
  | object some_part keys spelled =>
      exact isCored_of_brackets (.object some_part keys spelled) rfl rfl
  | @spaced depth value before text after gap gapAfter _ ih =>
      obtain ⟨first, core, last, spaces, spacesAfter, rfl, rest⟩ := ih isStructure
      refine ⟨before ++ first, core, last ++ after, List.forall_mem_append.mpr ⟨gap, spaces⟩,
        List.forall_mem_append.mpr ⟨spacesAfter, gapAfter⟩, ?_, rest⟩
      simp only [List.append_assoc]

end Json

namespace Text

theorem trim_of_core {before core after : List Char} (blank : before.all isBlank = true)
    (blankAfter : after.all isBlank = true) (opens : ∃ c ∈ core.head?, isBlank c = false)
    (ends : EndsShown core) {text : String} (split : text.toList = before ++ core ++ after) :
    (trim text).toList = core := by
  obtain ⟨first, head, firstShown⟩ := opens
  obtain ⟨last, atEnd, lastShown⟩ := ends
  obtain ⟨tail, opened⟩ := List.head?_eq_some_iff.mp head
  have start : dropBlank (core ++ after) = core ++ after := by
    rw [opened, List.cons_append, dropBlank, List.dropWhile_cons_of_neg (by simp [firstShown])]
  have stop : dropBlankEnd core = core := by
    have reversed : core.reverse.head? = some last := by
      rw [List.head?_reverse]
      exact atEnd
    obtain ⟨others, closed⟩ := List.head?_eq_some_iff.mp reversed
    rw [dropBlankEnd, closed, dropBlank, List.dropWhile_cons_of_neg (by simp [lastShown]),
      ← closed, List.reverse_reverse]
  rw [trim, String.toList_ofList, split, List.append_assoc, dropBlank_append blank, start,
    dropBlankEnd_append blankAfter, stop]

end Text

namespace Literal

open Json

variable {text : String} {json : Json}

theorem structure?_eq_filter (text : String) :
    structure? text = (parse? (Text.trim text)).filter isStructure := by
  unfold structure?
  cases parse? (Text.trim text) with
  | none => rfl
  | some parsed =>
      cases parsed with
      | array | object | null | bool | number | string => rfl

theorem structure?_eq_some_iff :
    structure? text = some json ↔
      json.isStructure = true ∧ Spells maxDepth json (Text.trim text).toList := by
  rw [structure?_eq_filter, Option.filter_eq_some_iff, parse?_eq_some_iff, and_comm]

/-- White space around a spelling is no part of it, whether JSON has it or only Unicode. -/
theorem spelled_trim {spelling : String} (isStructure : json.isStructure = true)
    (spelled : Spells maxDepth json spelling.toList) (padded : Text.Padded spelling text) :
    Spells maxDepth json (Text.trim text).toList := by
  obtain ⟨before, core, after, spaces, spacesAfter, split, coreSpelled, opens, ends⟩ :=
    spelled.isCored isStructure
  rw [padded.trim,
    Text.trim_of_core spaces.all_isBlank spacesAfter.all_isBlank opens ends split]
  exact coreSpelled

theorem typedText_of_spelled {spelling : String} (isStructure : json.isStructure = true)
    (spelled : Spells maxDepth json spelling.toList) (padded : Text.Padded spelling text) :
    typedText text = value json := by
  rw [typedText, structure?_eq_some_iff.mpr ⟨isStructure, spelled_trim isStructure spelled padded⟩]

theorem typedText_of_unspelled
    (unspelled : ∀ json : Json, json.isStructure = true →
      ¬Spells maxDepth json (Text.trim text).toList) :
    typedText text = string text := by
  cases written : structure? text with
  | none => rw [typedText, written]
  | some json =>
      obtain ⟨isStructure, spelled⟩ := structure?_eq_some_iff.mp written
      exact absurd spelled (unspelled json isStructure)

theorem typedValue_of_isStructure (isStructure : json.isStructure = true) :
    typedValue json = value json := by
  cases json with
  | array | object => rfl
  | null | bool | number | string => contradiction

/-- A printed array or object whose doubles are read back is a spelling of itself. -/
theorem spelled_printed (regular : Regular Number.IsWord maxDepth json)
    (doubles : ∀ double, Number.real double ∈ json.numbers → (Number.real double).IsReadBack) :
    Spells maxDepth json json.text.toList := by
  have spelled := spelled_text (regular.nested.isReadBack doubles)
  rwa [regular.sorted_eq] at spelled

/-- A text that spells an array or an object in any way, its printed text among them, gives the
literal that the value itself gives, and that denotes the value with its strings as they are. A
text that spells none gives a literal that denotes the text. -/
theorem typedText_denotes (text : String) :
    (∀ json : Json, json.isStructure = true → ∀ spelling, Text.Padded spelling text →
      (Spells maxDepth json spelling.toList ∨
        (spelling = json.text ∧ Regular Number.IsWord maxDepth json ∧
          ∀ double, Number.real double ∈ json.numbers → (Number.real double).IsReadBack)) →
      typedText text = value json ∧ typedValue (.string text) = typedValue json ∧
        typedValue json = value json ∧
        ∀ rest, EndsNumber rest →
          read ((typedText text).toList ++ rest) = some (meaning json, rest)) ∧
    ((∀ json : Json, json.isStructure = true → ¬Spells maxDepth json (Text.trim text).toList) →
      typedText text = string text ∧ typedValue (.string text) = string text ∧
        ∀ rest, read ((typedText text).toList ++ rest) = some (.string text, rest)) := by
  constructor
  · intro json isStructure spelling padded written
    have spelled : Spells maxDepth json spelling.toList := by
      rcases written with spelled | ⟨rfl, regular, doubles⟩
      · exact spelled
      · exact spelled_printed regular doubles
    have typed := typedText_of_spelled isStructure spelled padded
    have whole := typedValue_of_isStructure isStructure
    refine ⟨typed, typed.trans whole.symm, whole, fun rest ends => ?_⟩
    rw [typed]
    exact (read_value json ends).1
  · intro unspelled
    have typed := typedText_of_unspelled unspelled
    refine ⟨typed, typed, fun rest => ?_⟩
    rw [typed]
    obtain ⟨chars, read_string⟩ := readString_string text rest
    rw [read, chars, readMeaning, read_string]
    rfl

/-- Wide white space around a list of a text that looks like one, and a list that is none. -/
theorem typedText_denotes_nested :
    typedText "\u2003[\"[1]\",\t2.50 ]\n" = "[\"[1]\", 2.5]" ∧
      typedText " [1,]" = "\" [1,]\"" ∧
      read "\" [1,]\"".toList = some (.string " [1,]", []) := by
  have parsed : (parse? "[\"[1]\",\t2.50 ]").map (fun json => (json.isStructure, value json)) =
      some (true, "[\"[1]\", 2.5]") := by
    decide +kernel
  obtain ⟨json, found, same⟩ := Option.map_eq_some_iff.mp parsed
  injection same with isStructure literal
  have padded : Text.Padded "[\"[1]\",\t2.50 ]" "\u2003[\"[1]\",\t2.50 ]\n" :=
    ⟨"\u2003", "\n", by decide, by decide, by decide⟩
  have unspelled : ∀ json : Json, json.isStructure = true →
      ¬Spells maxDepth json (Text.trim " [1,]").toList := by
    intro json _ spelled
    have none_parsed : parse? (Text.trim " [1,]") = none := by decide +kernel
    rw [← parse?_eq_some_iff, none_parsed] at spelled
    exact nomatch spelled
  have text : string " [1,]" = "\" [1,]\"" := by decide
  obtain ⟨typed, -⟩ := (typedText_denotes "\u2003[\"[1]\",\t2.50 ]\n").1 json isStructure _ padded
    (.inl (parse?_eq_some_iff.mp found))
  obtain ⟨other, -, denoted⟩ := (typedText_denotes " [1,]").2 unspelled
  have readBack := denoted []
  rw [List.append_nil, other, text] at readBack
  exact ⟨typed.trans literal, other.trans text, readBack⟩

end Literal

end AgentGraph
