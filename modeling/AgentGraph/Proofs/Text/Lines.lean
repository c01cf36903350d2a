import AgentGraph.Proofs.Text.Padded
import Mathlib.Data.List.Forall2
import Mathlib.Data.List.TakeWhile

/-!
Lines of typed code. No line holds a line feed, code that is cut at its end ends with a line that is
not blank, and indenting keeps every line in its place.
-/

namespace AgentGraph.Text

/-- Whether a text ends with a character that is not white space. -/
def EndsShown (text : List Char) : Prop := ∃ c ∈ text.getLast?, isBlank c = false

/-- How a line stands among those of a class: a blank one is empty, any other one begins with
`width` spaces more. -/
inductive Placed (width : Nat) (line : String) : String → Prop
  | blank (isBlank : isBlankText line = true) : Placed width line ""
  | shown {placed : String} (isShown : isBlankText line = false)
      (moved : placed.toList = List.replicate width ' ' ++ line.toList) : Placed width line placed

theorem EndsShown.append {text : List Char} (ends : EndsShown text) (before : List Char) :
    EndsShown (before ++ text) := by
  obtain ⟨c, last, shown⟩ := ends
  exact ⟨c, List.mem_getLast?_append_of_mem_getLast? last, shown⟩

theorem endsShown_trimEnd {text : String} (isShown : isBlankText text = false) :
    EndsShown (trimEnd text).toList := by
  obtain ⟨c, inside, shown⟩ : ∃ c ∈ text.toList.reverse, isBlank c = false := by
    simpa [isBlankText] using isShown
  have kept : text.toList.reverse.dropWhile isBlank ≠ [] := by
    intro none_kept
    rw [List.dropWhile_eq_nil_iff.mp none_kept c inside] at shown
    contradiction
  obtain ⟨first, rest, opens⟩ := List.exists_cons_of_ne_nil kept
  have notDropped := List.head?_dropWhile_not isBlank text.toList.reverse
  rw [opens] at notDropped
  refine ⟨first, ?_, by simpa using notDropped⟩
  rw [trimEnd, String.toList_ofList, dropBlankEnd, List.getLast?_reverse, dropBlank, opens]
  rfl

theorem linesAfter_newline (line rest : List Char) :
    linesAfter line ('\n' :: rest) =
      String.ofList (dropReturn line).reverse :: linesAfter [] rest := rfl

theorem linesAfter_cons {c : Char} (inLine : c ≠ '\n') (line rest : List Char) :
    linesAfter line (c :: rest) = linesAfter (c :: line) rest := by
  rw [linesAfter]
  exact inLine

theorem dropReturn_subset (line : List Char) : dropReturn line ⊆ line := by
  unfold dropReturn
  split
  · exact List.subset_cons_self _ _
  · exact List.Subset.refl _

theorem not_mem_of_mem_linesAfter {line text : List Char} (none_yet : '\n' ∉ line)
    {found : String} (inside : found ∈ linesAfter line text) : '\n' ∉ found.toList := by
  have closed {line : List Char} (none_yet : '\n' ∉ line) :
      '\n' ∉ (String.ofList line.reverse).toList := by
    rwa [String.toList_ofList, List.mem_reverse]
  induction text generalizing line with
  | nil =>
      unfold linesAfter at inside
      split at inside
      · contradiction
      · exact List.mem_singleton.mp inside ▸ closed none_yet
  | cons c rest ih =>
      by_cases newline : c = '\n'
      · rw [newline, linesAfter_newline] at inside
        rcases List.mem_cons.mp inside with rfl | later
        · exact closed fun held => none_yet (dropReturn_subset line held)
        · exact ih List.not_mem_nil later
      · rw [linesAfter_cons newline] at inside
        refine ih (fun held => ?_) inside
        rcases List.mem_cons.mp held with here | earlier
        · exact newline here.symm
        · exact none_yet earlier

theorem not_mem_of_mem_lines {text line : String} (inside : line ∈ lines text) :
    '\n' ∉ line.toList :=
  not_mem_of_mem_linesAfter List.not_mem_nil inside

/-- The last line of a text ends as the text does. -/
theorem linesAfter_endsShown (line : List Char) {text : List Char} (ends : EndsShown text) :
    ∃ last ∈ (linesAfter line text).getLast?, EndsShown last.toList := by
  induction text generalizing line with
  | nil =>
      obtain ⟨c, last, _⟩ := ends
      contradiction
  | cons c rest ih =>
      cases rest with
      | nil =>
          obtain ⟨last, atEnd, shown⟩ := ends
          obtain rfl : c = last := Option.some.inj atEnd
          have inLine : c ≠ '\n' := by
            rintro rfl
            contradiction
          rw [linesAfter_cons inLine]
          refine ⟨String.ofList (c :: line).reverse, rfl, c, ?_, shown⟩
          rw [String.toList_ofList, List.getLast?_reverse]
          rfl
      | cons next rest =>
          have later : EndsShown (next :: rest) := by
            obtain ⟨last, ends, shown⟩ := ends
            exact ⟨last, by rwa [List.getLast?_cons_cons] at ends, shown⟩
          by_cases newline : c = '\n'
          · obtain ⟨last, found, shown⟩ := ih [] later
            rw [newline, linesAfter_newline]
            exact ⟨last, by rw [List.getLast?_cons, Option.mem_def.mp found]; rfl, shown⟩
          · rw [linesAfter_cons newline]
            exact ih (c :: line) later

section Indented

variable {indent : String} {width : Nat}

theorem placed_indentedLines (spaces : indent.toList = List.replicate width ' ') (text : String) :
    List.Forall₂ (Placed width) (lines text) (indentedLines indent text) := by
  rw [indentedLines, List.forall₂_map_right_iff, List.forall₂_same]
  intro line _
  split
  · next isBlank => exact .blank isBlank
  · next isShown =>
      refine .shown (Bool.eq_false_iff.mpr isShown) ?_
      rw [String.toList_append, spaces]

theorem indentedLines_endsShown (indent : String) {code : String}
    (isShown : isBlankText code = false) :
    ∃ last ∈ (indentedLines indent (trimEnd code)).getLast?, EndsShown last.toList := by
  obtain ⟨last, found, ends⟩ := linesAfter_endsShown [] (endsShown_trimEnd isShown)
  have notBlank : isBlankText last = false := by
    obtain ⟨c, atEnd, shown⟩ := ends
    rw [isBlankText, List.all_eq_false]
    exact ⟨c, List.mem_of_getLast? atEnd, by simp [shown]⟩
  refine ⟨indent ++ last, ?_, ?_⟩
  · rw [indentedLines, lines, List.getLast?_map, Option.mem_def.mp found]
    simp [notBlank]
  · rw [String.toList_append]
    exact ends.append _

end Indented

end AgentGraph.Text
