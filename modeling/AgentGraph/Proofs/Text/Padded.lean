import AgentGraph.Naming.Basic
import Mathlib.Data.List.TakeWhile

/-!
Texts with white space around them. Trimming takes off what padding put on, so that a
padded field counts as typed exactly as it did before.
-/

namespace AgentGraph.Text

/-- Whether `padded` is `text` with nothing but white space put before and after it. -/
def Padded (text padded : String) : Prop :=
  ∃ before after, isBlankText before = true ∧ isBlankText after = true ∧
    padded = before ++ text ++ after

theorem dropBlank_append {blank : List Char} (isBlank : blank.all isBlank = true)
    (text : List Char) : dropBlank (blank ++ text) = dropBlank text :=
  List.dropWhile_append_of_pos (List.all_eq_true.mp isBlank)

theorem dropBlankEnd_append {blank : List Char} (isBlank : blank.all isBlank = true)
    (text : List Char) : dropBlankEnd (text ++ blank) = dropBlankEnd text := by
  rw [dropBlankEnd, List.reverse_append, dropBlank_append, dropBlankEnd]
  rwa [List.all_reverse]

theorem dropBlankEnd_dropBlank_append {blank : List Char} (isBlank : blank.all isBlank = true)
    (text : List Char) :
    dropBlankEnd (dropBlank (text ++ blank)) = dropBlankEnd (dropBlank text) := by
  rw [dropBlank, List.dropWhile_append]
  split
  · next empty =>
      have alone := dropBlank_append isBlank []
      rw [List.append_nil] at alone
      rw [dropBlank, List.isEmpty_iff.mp empty]
      exact congrArg dropBlankEnd alone
  · exact dropBlankEnd_append isBlank _

variable {text padded : String}

theorem Padded.trim (isPadded : Padded text padded) : trim padded = trim text := by
  obtain ⟨before, after, blankBefore, blankAfter, rfl⟩ := isPadded
  rw [Text.trim, Text.trim, String.toList_append, String.toList_append, List.append_assoc,
    dropBlank_append blankBefore, dropBlankEnd_dropBlank_append blankAfter]

theorem Padded.isBlankText (isPadded : Padded text padded) :
    isBlankText padded = isBlankText text := by
  obtain ⟨before, after, blankBefore, blankAfter, rfl⟩ := isPadded
  unfold Text.isBlankText at blankBefore blankAfter ⊢
  rw [String.toList_append, String.toList_append, List.all_append, List.all_append, blankBefore,
    blankAfter, Bool.true_and, Bool.and_true]

theorem Padded.typed? (isPadded : Padded text padded) :
    Naming.typed? padded = Naming.typed? text := by
  rw [Naming.typed?, Naming.typed?, isPadded.isBlankText, isPadded.trim]

theorem exists_dropBlank (text : List Char) :
    ∃ blank, blank.all isBlank = true ∧ text = blank ++ dropBlank text :=
  ⟨text.takeWhile isBlank, List.all_takeWhile, List.takeWhile_append_dropWhile.symm⟩

theorem exists_dropBlankEnd (text : List Char) :
    ∃ blank, blank.all isBlank = true ∧ text = dropBlankEnd text ++ blank := by
  obtain ⟨blank, isBlank, split⟩ := exists_dropBlank text.reverse
  refine ⟨blank.reverse, ?_, ?_⟩
  · rwa [List.all_reverse]
  · rw [dropBlankEnd, ← List.reverse_append, ← split, List.reverse_reverse]

/-- Every text is a trimmed one that was padded. -/
theorem padded_trim (text : String) : Padded (Text.trim text) text := by
  obtain ⟨before, blankBefore, split⟩ := exists_dropBlank text.toList
  obtain ⟨after, blankAfter, inner⟩ := exists_dropBlankEnd (dropBlank text.toList)
  refine ⟨String.ofList before, String.ofList after, ?_, ?_, ?_⟩
  · rwa [Text.isBlankText, String.toList_ofList]
  · rwa [Text.isBlankText, String.toList_ofList]
  · rw [← String.toList_inj, String.toList_append, String.toList_append, String.toList_ofList,
      String.toList_ofList, Text.trim, String.toList_ofList, List.append_assoc, ← inner]
    exact split

@[simp] theorem trim_trim (text : String) : trim (trim text) = trim text :=
  (padded_trim text).trim.symm

/-- Nothing but white space is left of a text if and only if the text is blank. -/
theorem trim_eq_empty_iff {text : String} : trim text = "" ↔ isBlankText text = true := by
  constructor
  · intro empty
    rw [(padded_trim text).isBlankText, empty]
    rfl
  · intro blank
    rw [trim, dropBlank, List.dropWhile_eq_nil_iff.mpr (List.all_eq_true.mp blank)]
    rfl

theorem typed?_trim (text : String) : Naming.typed? (Text.trim text) = Naming.typed? text :=
  (padded_trim text).typed?.symm

theorem typed?_congr {text other : String} (same : Text.trim other = Text.trim text) :
    Naming.typed? other = Naming.typed? text := by
  rw [← typed?_trim, same, typed?_trim]

theorem trimmedOr_trim (text fallback : String) :
    trimmedOr (Text.trim text) fallback = trimmedOr text fallback := by
  rw [trimmedOr, trimmedOr, ← (padded_trim text).isBlankText, ← (padded_trim text).trim]

end AgentGraph.Text
