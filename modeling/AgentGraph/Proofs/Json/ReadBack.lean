import AgentGraph.Json.Printer
import AgentGraph.Proofs.Json.Regular
import AgentGraph.Proofs.Json.Strings
import Mathlib.Data.List.DropRight

/-!
Reading back what is printed. A value that nests no deeper than the reader goes, and
whose numbers are read back from their text, is read back from its indented text with
the members of its objects in the order of their keys.
-/

namespace AgentGraph

namespace Json

mutual

/-- The value with the members of its objects in the order of their keys. -/
def sorted : Json → Json
  | .array items => .array (sortedItems items)
  | .object members => .ofDict (Dict.ofList (sortedMembers members))
  | .null => .null
  | .bool value => .bool value
  | .number value => .number value
  | .string value => .string value

def sortedItems : List Json → List Json
  | [] => []
  | item :: rest => item.sorted :: sortedItems rest

def sortedMembers : List (String × Json) → List (String × Json)
  | [] => []
  | (key, value) :: rest => (key, value.sorted) :: sortedMembers rest

end

theorem sortedItems_eq_map (items : List Json) : sortedItems items = items.map sorted := by
  induction items with
  | nil => rfl
  | cons item rest ih => rw [sortedItems, ih, List.map_cons]

theorem sortedMembers_eq_map (members : List (String × Json)) :
    sortedMembers members = members.map fun member => (member.1, member.2.sorted) := by
  induction members with
  | nil => rfl
  | cons member rest ih =>
      obtain ⟨key, value⟩ := member
      rw [sortedMembers, ih, List.map_cons]

@[simp] theorem sorted_array (items : List Json) :
    (array items).sorted = .array (items.map sorted) := by
  rw [sorted, sortedItems_eq_map]

@[simp] theorem sorted_object (members : List (String × Json)) :
    (object members).sorted =
      .ofDict (Dict.ofList (members.map fun member => (member.1, member.2.sorted))) := by
  rw [sorted, sortedMembers_eq_map]

@[simp] theorem sorted_null : null.sorted = .null := rfl

@[simp] theorem sorted_bool (value : Bool) : (bool value).sorted = .bool value := rfl

@[simp] theorem sorted_number (value : Number) : (number value).sorted = .number value := rfl

@[simp] theorem sorted_string (value : String) : (string value).sorted = .string value := rfl

theorem Regular.sorted_eq {numbers : Number → Prop} {depth : Nat} {value : Json}
    (regular : Regular numbers depth value) : value.sorted = value := by
  induction regular with
  | null => exact sorted_null
  | bool value => exact sorted_bool value
  | number _ => exact sorted_number _
  | string value => exact sorted_string value
  | array _ ih => rw [sorted_array, List.map_congr_left ih, List.map_id']
  | @object depth members inOrder _ ih =>
      have same : members.map (fun member => (member.1, member.2.sorted)) = members := by
        rw [List.map_congr_left fun member inside => by rw [ih member inside],
          List.map_id']
      rw [sorted_object, same, ofDict, Dict.entries_ofList_of_sorted inOrder]

/-- Values of at most `depth` nested arrays and objects whose numbers all satisfy
`numbers`, the members of objects in any order. -/
inductive Nested (numbers : Number → Prop) : Nat → Json → Prop
  | null {depth : Nat} : Nested numbers depth .null
  | bool {depth : Nat} (value : Bool) : Nested numbers depth (.bool value)
  | number {depth : Nat} {value : Number} (holds : numbers value) :
      Nested numbers depth (.number value)
  | string {depth : Nat} (value : String) : Nested numbers depth (.string value)
  | array {depth : Nat} {items : List Json}
      (nested : ∀ item ∈ items, Nested numbers depth item) :
      Nested numbers (depth + 1) (.array items)
  | object {depth : Nat} {members : List (String × Json)}
      (nested : ∀ member ∈ members, Nested numbers depth member.2) :
      Nested numbers (depth + 1) (.object members)

theorem Regular.nested {numbers : Number → Prop} {depth : Nat} {value : Json}
    (regular : Regular numbers depth value) : Nested numbers depth value := by
  induction regular with
  | null => exact .null
  | bool value => exact .bool value
  | number holds => exact .number holds
  | string value => exact .string value
  | array _ ih => exact .array ih
  | object _ _ ih => exact .object ih

mutual

/-- The numbers that stand anywhere in a value. -/
def numbers : Json → List Number
  | .number value => [value]
  | .array items => itemNumbers items
  | .object members => memberNumbers members
  | .null | .bool _ | .string _ => []

def itemNumbers : List Json → List Number
  | [] => []
  | item :: rest => item.numbers ++ itemNumbers rest

def memberNumbers : List (String × Json) → List Number
  | [] => []
  | (_, value) :: rest => value.numbers ++ memberNumbers rest

end

theorem numbers_array (items : List Json) :
    (array items).numbers = items.flatMap numbers := by
  rw [numbers]
  induction items with
  | nil => rfl
  | cons item rest ih => rw [itemNumbers, ih, List.flatMap_cons]

theorem numbers_object (members : List (String × Json)) :
    (object members).numbers = members.flatMap fun member => member.2.numbers := by
  rw [numbers]
  induction members with
  | nil => rfl
  | cons member rest ih =>
      obtain ⟨key, value⟩ := member
      rw [memberNumbers, ih, List.flatMap_cons]

/-- Integers of 64 bits are always read back, so only the doubles matter. -/
theorem Nested.isReadBack {depth : Nat} {value : Json}
    (nested : Nested Number.IsWord depth value)
    (doubles : ∀ double, Number.real double ∈ value.numbers →
      (Number.real double).IsReadBack) :
    Nested Number.IsReadBack depth value := by
  induction nested with
  | null => exact .null
  | bool value => exact .bool value
  | string value => exact .string value
  | @number depth value word =>
      apply Nested.number
      cases value with
      | integer value => exact isReadBack_integer word
      | real value => exact doubles value (by simp [numbers])
  | array _ ih =>
      refine .array fun item inside => ih item inside fun double found => doubles double ?_
      rw [numbers_array]
      exact List.mem_flatMap.mpr ⟨item, inside, found⟩
  | object _ ih =>
      refine .object fun member inside => ih member inside fun double found => doubles double ?_
      rw [numbers_object]
      exact List.mem_flatMap.mpr ⟨member, inside, found⟩

theorem prettyItems_eq_map (margin : String) (items : List Json) :
    prettyItems margin items = items.map (pretty margin) := by
  induction items with
  | nil => rfl
  | cons item rest ih => rw [prettyItems, ih, List.map_cons]

theorem prettyMembers_eq_map (margin : String) (members : List (String × Json)) :
    prettyMembers margin members =
      members.map fun member => quoted member.1 ++ ": " ++ member.2.pretty margin := by
  induction members with
  | nil => rfl
  | cons member rest ih =>
      obtain ⟨key, value⟩ := member
      rw [prettyMembers, ih, List.map_cons]

theorem skipSpace_append {gap : List Char} (spaces : ∀ c ∈ gap, isSpace c = true)
    (text : List Char) : skipSpace (gap ++ text) = skipSpace text :=
  List.dropWhile_append_of_pos spaces

theorem skipSpace_cons {c : Char} (shown : isSpace c = false) (text : List Char) :
    skipSpace (c :: text) = c :: text := by
  rw [skipSpace, List.dropWhile_cons_of_neg (by simp [shown])]

/-- Whether `item` reads `value` off a text that begins with `text`. -/
structure Reads {α : Type} (item : Reader α) (value : α) (text : List Char) : Prop where
  read : ∀ rest, EndsNumber rest → item (text ++ rest) = some (value, rest)
  opens : ∃ c ∈ text.head?, isSpace c = false ∧ c ≠ ']' ∧ c ≠ '\x7d'

/-- What stands between the last item and the end: white space and a closing bracket. -/
theorem endsNumber_closing {gap : List Char} (spaces : ∀ c ∈ gap, isSpace c = true)
    {closing : Char} (closes : closing = ']' ∨ closing = '\x7d') (rest : List Char) :
    EndsNumber (gap ++ closing :: rest) := by
  intro c first
  cases gap with
  | nil =>
      simp only [List.nil_append, List.head?_cons, Option.mem_def, Option.some.injEq] at first
      subst first
      rcases closes with rfl | rfl
      · decide
      · decide
  | cons space gap =>
      simp only [List.cons_append, List.head?_cons, Option.mem_def, Option.some.injEq] at first
      subst first
      have blank := spaces space List.mem_cons_self
      simp only [isSpace, Bool.or_eq_true, beq_iff_eq] at blank
      rcases blank with ((rfl | rfl) | rfl) | rfl
      all_goals decide

section Sequences

variable {α : Type} {item : Reader α} {closing : Char} {gap last : List Char}

theorem readItems_skipSpace (fuel : Nat) (text : List Char) :
    readItems item closing fuel (skipSpace text) = readItems item closing fuel text := by
  have skipped : skipSpace (skipSpace text) = skipSpace text :=
    List.dropWhile_idempotent ..
  cases fuel with
  | zero => rfl
  | succ fuel => rw [readItems, readItems, skipped]

/-- Items parted by commas, with white space after each comma and after the last item. -/
theorem readItems_intercalate (spaces : ∀ c ∈ gap, isSpace c = true)
    (lastSpaces : ∀ c ∈ last, isSpace c = true)
    (closes : closing = ']' ∨ closing = '\x7d') (rest : List Char)
    {parts : List (α × List Char)} (reads : ∀ part ∈ parts, Reads item part.1 part.2)
    (some_part : parts ≠ []) (fuel : Nat) (enough : parts.length ≤ fuel) :
    readItems item closing fuel
        (List.intercalate (',' :: gap) (parts.map Prod.snd) ++ (last ++ closing :: rest)) =
      some (parts.map Prod.fst, rest) := by
  induction parts generalizing fuel with
  | nil => contradiction
  | cons part others ih =>
      obtain ⟨value, text⟩ := part
      have first : Reads item value text := reads (value, text) List.mem_cons_self
      obtain ⟨c, head, shown, -, -⟩ := first.opens
      have skip : ∀ after, skipSpace (text ++ after) = text ++ after := by
        intro after
        obtain ⟨tail, rfl⟩ := List.head?_eq_some_iff.mp head
        exact skipSpace_cons shown _
      cases fuel with
      | zero => simp at enough
      | succ fuel =>
          cases others with
          | nil =>
              have notSpace : isSpace closing = false := by
                rcases closes with rfl | rfl
                · decide
                · decide
              simp only [List.map_cons, List.map_nil, List.intercalate_singleton]
              rw [readItems, skip, first.read _ (endsNumber_closing lastSpaces closes rest)]
              simp only [Option.bind_eq_bind, Option.bind_some]
              rw [skipSpace_append lastSpaces, skipSpace_cons notSpace]
              simp only [↓reduceIte]
          | cons other others =>
              have comma : EndsNumber (',' :: gap ++
                  (List.intercalate (',' :: gap) ((other :: others).map Prod.snd) ++
                    (last ++ closing :: rest))) := by
                intro c first
                simp only [List.cons_append, List.head?_cons, Option.mem_def,
                  Option.some.injEq] at first
                subst first
                decide
              have different : ',' ≠ closing := by
                rcases closes with rfl | rfl
                · decide
                · decide
              have tail := ih (fun part inside => reads part (List.mem_cons_of_mem _ inside))
                (by simp) fuel (by simpa using enough)
              simp only [List.map_cons, List.intercalate_cons_cons] at tail comma ⊢
              rw [readItems, List.append_assoc, List.append_assoc, skip, first.read _ comma]
              simp only [Option.bind_eq_bind, Option.bind_some]
              rw [List.cons_append, skipSpace_cons (by decide)]
              simp only [if_neg different, ↓reduceIte]
              rw [← readItems_skipSpace, skipSpace_append spaces, readItems_skipSpace, tail]
              rfl

theorem readSequence_empty (item : Reader α) (closes : closing = ']' ∨ closing = '\x7d')
    (rest : List Char) :
    readSequence item closing (closing :: rest) = some ([], rest) := by
  have notSpace : isSpace closing = false := by
    rcases closes with rfl | rfl
    · decide
    · decide
  rw [readSequence, skipSpace_cons notSpace]
  simp only [↓reduceIte]

theorem length_le_intercalate (gap : List Char) {parts : List (α × List Char)}
    (reads : ∀ part ∈ parts, Reads item part.1 part.2) :
    parts.length ≤ (List.intercalate (',' :: gap) (parts.map Prod.snd)).length := by
  induction parts with
  | nil => simp
  | cons part others ih =>
      obtain ⟨c, head, -⟩ := (reads part List.mem_cons_self).opens
      obtain ⟨tail, text⟩ := List.head?_eq_some_iff.mp head
      have longer := ih fun part inside => reads part (List.mem_cons_of_mem _ inside)
      cases others with
      | nil => simp [text]
      | cons other others =>
          simp only [List.map_cons, List.intercalate_cons_cons, List.length_append,
            List.length_cons, text] at longer ⊢
          omega

theorem readSequence_intercalate (spaces : ∀ c ∈ gap, isSpace c = true)
    (lastSpaces : ∀ c ∈ last, isSpace c = true)
    (closes : closing = ']' ∨ closing = '\x7d') (rest : List Char)
    {parts : List (α × List Char)} (reads : ∀ part ∈ parts, Reads item part.1 part.2)
    (some_part : parts ≠ []) :
    readSequence item closing
        (gap ++ List.intercalate (',' :: gap) (parts.map Prod.snd) ++
          (last ++ closing :: rest)) =
      some (parts.map Prod.fst, rest) := by
  have enough : parts.length ≤ (gap ++ List.intercalate (',' :: gap) (parts.map Prod.snd) ++
      (last ++ closing :: rest)).length := by
    have longer := length_le_intercalate gap reads
    simp only [List.length_append]
    omega
  have items := readItems_intercalate spaces lastSpaces closes rest reads some_part _ enough
  unfold readSequence
  generalize List.length _ = fuel at items ⊢
  cases parts with
  | nil => contradiction
  | cons part others =>
      obtain ⟨c, head, shown, notBracket, notBrace⟩ := (reads part List.mem_cons_self).opens
      obtain ⟨tail, text⟩ := List.head?_eq_some_iff.mp head
      have notClosing : c ≠ closing := by
        rcases closes with rfl | rfl
        · exact notBracket
        · exact notBrace
      obtain ⟨after, opened⟩ : ∃ after,
          List.intercalate (',' :: gap) ((part :: others).map Prod.snd) = c :: after := by
        cases others with
        | nil => exact ⟨tail, by simp [text]⟩
        | cons other others => exact ⟨_, by simp [text]; rfl⟩
      rw [opened] at items ⊢
      rw [List.append_assoc, skipSpace_append spaces, List.cons_append, skipSpace_cons shown]
      simp only [if_neg notClosing]
      exact items

end Sequences

/-- The text between two items of a block, and before the first one. -/
private def lineGap (margin : String) : List Char := '\n' :: margin.toList

private theorem lineGap_isSpace {margin : String}
    (spaces : ∀ c ∈ margin.toList, isSpace c = true) :
    ∀ c ∈ lineGap margin, isSpace c = true := by
  intro c inside
  rcases List.mem_cons.mp inside with rfl | inside
  · decide
  · exact spaces c inside

private theorem append_isSpace {margin : String}
    (spaces : ∀ c ∈ margin.toList, isSpace c = true) :
    ∀ c ∈ (margin ++ "  ").toList, isSpace c = true := by
  simp only [String.toList_append, List.mem_append]
  rintro c (inside | inside)
  · exact spaces c inside
  · exact List.all_eq_true.mp (show "  ".toList.all isSpace = true by decide) c inside

/-- What a block holds between its brackets is read as its parts. -/
private theorem readSequence_block {α : Type} {item : Reader α} {margin : String}
    (spaces : ∀ c ∈ margin.toList, isSpace c = true) {closing : Char}
    (closes : closing = ']' ∨ closing = '\x7d') {parts : List (α × String)}
    (reads : ∀ part ∈ parts, Reads item part.1 part.2.toList) (some_part : parts ≠ [])
    (opening : String) :
    ∃ inside, (block opening (String.singleton closing) margin
          (parts.map Prod.snd)).toList = opening.toList ++ inside ∧
      ∀ rest, readSequence item closing (inside ++ rest) =
        some (parts.map Prod.fst, rest) := by
  let listed := parts.map fun part => (part.1, part.2.toList)
  have listedReads : ∀ part ∈ listed, Reads item part.1 part.2 := by
    intro part inside
    obtain ⟨part, member, rfl⟩ := List.mem_map.mp inside
    exact reads part member
  refine ⟨lineGap (margin ++ "  ") ++
    List.intercalate (',' :: lineGap (margin ++ "  ")) (listed.map Prod.snd) ++
      (lineGap margin ++ [closing]), ?_, ?_⟩
  · simp [block, lineGap, listed, Function.comp_def]
  · intro rest
    have read := readSequence_intercalate (lineGap_isSpace (append_isSpace spaces)) (lineGap_isSpace spaces)
      closes rest listedReads (by simpa [listed] using some_part)
    simpa [listed, Function.comp_def] using read

theorem reads_number {number : Number} (readBack : number.IsReadBack) (depth : Nat) :
    Reads (readValue depth) (.number number) number.text.toList where
  read rest ends := readValue_number depth readBack ends
  opens := by
    have whole := readValue_number 0 readBack .nil
    have numeral := number.text_isNumeralText
    unfold IsNumeralText at numeral
    generalize number.text.toList = text at whole numeral
    cases text with
    | nil => simp [readValue] at whole
    | cons c rest =>
        have head := numeral c List.mem_cons_self
        refine ⟨c, rfl, ?_, ?_, ?_⟩
        · cases space : isSpace c with
          | false => rfl
          | true =>
              simp only [isSpace, Bool.or_eq_true, beq_iff_eq] at space
              rcases space with ((rfl | rfl) | rfl) | rfl
              all_goals exact absurd head (by decide)
        · rintro rfl
          exact absurd head (by decide)
        · rintro rfl
          exact absurd head (by decide)

theorem reads_string (text : String) (depth : Nat) :
    Reads (readValue depth) (.string text) (quoted text).toList where
  read rest _ := by
    rw [toList_quoted, List.cons_append, List.append_assoc, readValue]
    simp [readString_escaped]
  opens := ⟨'"', by simp [toList_quoted], by decide, by decide, by decide⟩

theorem reads_member {value : Json} {depth : Nat} {text : List Char}
    (reads : Reads (readValue depth) value text) (key : String) :
    Reads (readMember (readValue depth)) (key, value)
      ((quoted key).toList ++ (':' :: ' ' :: text)) where
  read rest ends := by
    obtain ⟨c, head, shown, -, -⟩ := reads.opens
    obtain ⟨tail, opened⟩ := List.head?_eq_some_iff.mp head
    have skipped : skipSpace (' ' :: (text ++ rest)) = text ++ rest := by
      rw [opened]
      have space : ∀ c ∈ [' '], isSpace c = true :=
        List.all_eq_true.mp (show [' '].all isSpace = true by decide)
      exact (skipSpace_append space _).trans (skipSpace_cons shown _)
    rw [toList_quoted]
    simp only [List.cons_append, List.append_assoc, List.nil_append, readMember,
      readString_escaped, Option.bind_eq_bind, Option.bind_some]
    rw [skipSpace_cons (by decide)]
    simp only [skipped, reads.read rest ends]
    rfl
  opens := ⟨'"', by simp [toList_quoted], by decide, by decide, by decide⟩

/-- A value is read off its indented text, whatever follows that cannot be a part of
a number. -/
theorem reads_pretty {depth : Nat} {value : Json}
    (nested : Nested Number.IsReadBack depth value) (margin : String)
    (spaces : ∀ c ∈ margin.toList, isSpace c = true) :
    Reads (readValue depth) value.sorted (value.pretty margin).toList := by
  induction nested generalizing margin with
  | null =>
      rw [sorted_null, pretty]
      exact ⟨fun rest _ => by simp [readValue, literal?], 'n', by simp, by decide⟩
  | bool value =>
      rw [sorted_bool, pretty]
      cases value with
      | false => exact ⟨fun rest _ => by simp [readValue, literal?], 'f', by simp, by decide⟩
      | true => exact ⟨fun rest _ => by simp [readValue, literal?], 't', by simp, by decide⟩
  | number readBack =>
      rw [sorted_number, pretty]
      exact reads_number readBack _
  | string value =>
      rw [sorted_string, pretty]
      exact reads_string value _
  | @array depth items _ ih =>
      rw [sorted_array]
      cases items with
      | nil =>
          rw [pretty]
          refine ⟨fun rest _ => ?_, '[', by simp, by decide⟩
          simp [readValue, readSequence_empty (readValue depth) (.inl rfl) rest]
      | cons item items =>
          let parts := (item :: items).map fun item =>
            (item.sorted, item.pretty (margin ++ "  "))
          have reads : ∀ part ∈ parts, Reads (readValue depth) part.1 part.2.toList := by
            intro part inside
            obtain ⟨item, member, rfl⟩ := List.mem_map.mp inside
            exact ih item member _ (append_isSpace spaces)
          obtain ⟨inside, chars, read⟩ := readSequence_block spaces (.inl rfl) reads
            (by simp [parts]) "["
          have printed : (array (item :: items)).pretty margin =
              block "[" (String.singleton ']') margin (parts.map Prod.snd) := by
            rw [pretty, prettyItems_eq_map]
            · simp [parts, Function.comp_def]
            · simp
          rw [printed, chars]
          refine ⟨fun rest _ => ?_, '[', by simp, by decide⟩
          simp [readValue, read rest, parts, Function.comp_def]
  | @object depth members _ ih =>
      rw [sorted_object]
      cases members with
      | nil =>
          rw [pretty]
          refine ⟨fun rest _ => ?_, '\x7b', by simp, by decide⟩
          simp [readValue, readSequence_empty (readMember (readValue depth)) (.inr rfl) rest]
      | cons member members =>
          let parts := (member :: members).map fun member =>
            ((member.1, member.2.sorted),
              quoted member.1 ++ ": " ++ member.2.pretty (margin ++ "  "))
          have reads : ∀ part ∈ parts,
              Reads (readMember (readValue depth)) part.1 part.2.toList := by
            intro part inside
            obtain ⟨member, held, rfl⟩ := List.mem_map.mp inside
            have value := ih member held _ (append_isSpace spaces)
            simpa using reads_member value member.1
          obtain ⟨inside, chars, read⟩ := readSequence_block spaces (.inr rfl) reads
            (by simp [parts]) "\x7b"
          have printed : (object (member :: members)).pretty margin =
              block "\x7b" (String.singleton '\x7d') margin (parts.map Prod.snd) := by
            rw [pretty, prettyMembers_eq_map]
            · simp [parts, Function.comp_def]
            · simp
          rw [printed, chars]
          refine ⟨fun rest _ => ?_, '\x7b', by simp, by decide⟩
          simp [readValue, read rest, parts, Function.comp_def]

/-- A value nested no deeper than the reader goes is read back from its document. -/
theorem parse?_pretty {value : Json} (nested : Nested Number.IsReadBack maxDepth value) :
    parse? (value.pretty "") = some value.sorted := by
  have reads := reads_pretty nested "" (by simp)
  obtain ⟨c, head, shown, -⟩ := reads.opens
  obtain ⟨tail, opened⟩ := List.head?_eq_some_iff.mp head
  have read := reads.read [] .nil
  rw [List.append_nil] at read
  unfold parse?
  rw [opened, skipSpace_cons shown, ← opened, read]
  simp [skipSpace]

end Json

end AgentGraph
