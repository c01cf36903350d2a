import AgentGraph.Proofs.Json.ReadBack
import AgentGraph.Proofs.Json.SpelledNumbers
import AgentGraph.Proofs.Json.SpelledStrings

/-!
The spellings of a value, with white space around it and around its parts. The reader takes every
spelling that nests no deeper than it goes, and nothing else.
-/

namespace AgentGraph.Json

def IsGap (text : List Char) : Prop := ∀ c ∈ text, isSpace c = true

theorem IsGap.nil : IsGap [] := List.forall_mem_nil _

inductive SpellsNumber (number : Number) : (text : List Char) → Prop
  | positive {text : List Char} (spelled : SpellsUnsigned false number text) :
      SpellsNumber number text
  | negative {text : List Char} (spelled : SpellsUnsigned true number text) :
      SpellsNumber number ('-' :: text)

/-- Whether a text spells a key, with white space around it. -/
def SpellsKey (key : String) (text : List Char) : Prop :=
  ∃ before characters after, IsGap before ∧ IsGap after ∧
    SpellsCharacters key.toList characters ∧ text = before ++ '"' :: (characters ++ '"' :: after)

/-- A member of an object and the texts of its two sides. -/
structure SpelledMember where
  key : String
  value : Json
  keyText : List Char
  valueText : List Char

namespace SpelledMember

def member (part : SpelledMember) : String × Json := (part.key, part.value)

def text (part : SpelledMember) : List Char := part.keyText ++ ':' :: part.valueText

end SpelledMember

/-- Whether a text spells a value of at most `depth` nested arrays and objects. A repeated key
has its last value. -/
inductive Spells : (depth : Nat) → (value : Json) → (text : List Char) → Prop
  | null {depth : Nat} : Spells depth Json.null ['n', 'u', 'l', 'l']
  | yes {depth : Nat} : Spells depth (.bool true) ['t', 'r', 'u', 'e']
  | no {depth : Nat} : Spells depth (.bool false) ['f', 'a', 'l', 's', 'e']
  | number {depth : Nat} {number : Number} {text : List Char}
      (spelled : SpellsNumber number text) : Spells depth (.number number) text
  | string {depth : Nat} {value : String} {text : List Char}
      (spelled : SpellsCharacters value.toList text) :
      Spells depth (.string value) ('"' :: (text ++ ['"']))
  | emptyArray {depth : Nat} {gap : List Char} (spaces : IsGap gap) :
      Spells (depth + 1) (.array []) ('[' :: (gap ++ [']']))
  | array {depth : Nat} {parts : List (Json × List Char)} (some_part : parts ≠ [])
      (spelled : ∀ part ∈ parts, Spells depth part.1 part.2) :
      Spells (depth + 1) (.array (parts.map Prod.fst))
        ('[' :: (List.intercalate [','] (parts.map Prod.snd) ++ [']']))
  | emptyObject {depth : Nat} {gap : List Char} (spaces : IsGap gap) :
      Spells (depth + 1) (.object []) ('\x7b' :: (gap ++ ['\x7d']))
  | object {depth : Nat} {parts : List SpelledMember} (some_part : parts ≠ [])
      (keys : ∀ part ∈ parts, SpellsKey part.key part.keyText)
      (spelled : ∀ part ∈ parts, Spells depth part.value part.valueText) :
      Spells (depth + 1) (.ofDict (Dict.ofList (parts.map SpelledMember.member)))
        ('\x7b' :: (List.intercalate [','] (parts.map SpelledMember.text) ++ ['\x7d']))
  | spaced {depth : Nat} {value : Json} {before text after : List Char} (gap : IsGap before)
      (gapAfter : IsGap after) (spelled : Spells depth value text) :
      Spells depth value (before ++ text ++ after)

/-- Whether `item` takes `value` off the head of a text that begins with `text` and goes on with
what cannot be a part of a number. It may leave white space at the end of `text`. -/
def Takes {α : Type} (item : Reader α) (value : α) (text : List Char) : Prop :=
  ∀ rest, EndsNumber rest → ∃ left, item (skipSpace (text ++ rest)) = some (value, left) ∧
    skipSpace left = skipSpace rest

theorem endsNumber_cons {c : Char} (rest : List Char)
    (ends : c.isDigit = false ∧ c ≠ '.' ∧ c ≠ 'e' ∧ c ≠ 'E') : EndsNumber (c :: rest) := by
  intro other head
  obtain rfl : c = other := Option.some.inj head
  exact ends

theorem endsNumber_gap {gap rest : List Char} (spaces : IsGap gap) (ends : EndsNumber rest) :
    EndsNumber (gap ++ rest) := by
  cases gap with
  | nil => exact ends
  | cons space gap =>
      refine endsNumber_cons _ ?_
      have blank := spaces space List.mem_cons_self
      simp only [isSpace, Bool.or_eq_true, beq_iff_eq] at blank
      rcases blank with ((rfl | rfl) | rfl) | rfl
      all_goals decide

theorem Takes.spaced {α : Type} {item : Reader α} {value : α} {before text after : List Char}
    (takes : Takes item value text) (gap : IsGap before) (gapAfter : IsGap after) :
    Takes item value (before ++ text ++ after) := by
  intro rest ends
  obtain ⟨left, read, skipped⟩ := takes (after ++ rest) (endsNumber_gap gapAfter ends)
  rw [skipSpace_append gapAfter] at skipped
  rw [List.append_assoc, List.append_assoc, skipSpace_append gap]
  exact ⟨left, read, skipped⟩

theorem takes_of_read {α : Type} {item : Reader α} {value : α} {c : Char} {text : List Char}
    (shown : isSpace c = false)
    (read : ∀ rest, EndsNumber rest → item (c :: (text ++ rest)) = some (value, rest)) :
    Takes item value (c :: text) := by
  intro rest ends
  rw [List.cons_append, skipSpace_cons shown]
  exact ⟨rest, read rest ends, rfl⟩

section Sequences

variable {α : Type} {item : Reader α} {closing : Char}

/-- What closes an array or an object. -/
def Closes (closing : Char) : Prop := closing = ']' ∨ closing = '\x7d'

theorem Closes.ends (closes : Closes closing) (rest : List Char) :
    EndsNumber (closing :: rest) := by
  apply endsNumber_cons
  rcases closes with rfl | rfl
  all_goals decide

theorem Closes.not_space (closes : Closes closing) : isSpace closing = false := by
  rcases closes with rfl | rfl
  all_goals decide

theorem Closes.ne_comma (closes : Closes closing) : ',' ≠ closing := by
  rcases closes with rfl | rfl
  all_goals decide

theorem readItems_spelled (closes : Closes closing) (rest : List Char)
    {parts : List (α × List Char)} (takes : ∀ part ∈ parts, Takes item part.1 part.2)
    (some_part : parts ≠ []) (fuel : Nat) (enough : parts.length ≤ fuel) :
    readItems item closing fuel
        (List.intercalate [','] (parts.map Prod.snd) ++ closing :: rest) =
      some (parts.map Prod.fst, rest) := by
  induction parts generalizing fuel with
  | nil => contradiction
  | cons part others ih =>
      obtain ⟨value, text⟩ := part
      have first : Takes item value text := takes (value, text) List.mem_cons_self
      cases fuel with
      | zero => simp at enough
      | succ fuel =>
          cases others with
          | nil =>
              obtain ⟨left, read, skipped⟩ := first (closing :: rest) (closes.ends rest)
              rw [skipSpace_cons closes.not_space] at skipped
              simp only [List.map_cons, List.map_nil, List.intercalate_singleton]
              rw [readItems, read]
              simp only [Option.bind_eq_bind, Option.bind_some, skipped, ↓reduceIte]
          | cons other others =>
              have tail := ih (fun part inside => takes part (List.mem_cons_of_mem _ inside))
                (by simp) fuel (by simpa using enough)
              simp only [List.map_cons, List.intercalate_cons_cons, List.append_assoc,
                List.cons_append, List.nil_append] at tail ⊢
              have comma (rest : List Char) : EndsNumber (',' :: rest) :=
                endsNumber_cons rest (by decide)
              have notSpace : isSpace ',' = false := by decide
              obtain ⟨left, read, skipped⟩ := first _ (comma _)
              rw [skipSpace_cons notSpace] at skipped
              rw [readItems, read]
              simp only [Option.bind_eq_bind, Option.bind_some, skipped, if_neg closes.ne_comma,
                ↓reduceIte, tail]
              rfl

theorem length_le_intercalate_comma (texts : List (List Char)) :
    texts.length ≤ (List.intercalate [','] texts).length + 1 := by
  induction texts with
  | nil => exact Nat.zero_le _
  | cons text others ih =>
      cases others with
      | nil => simp
      | cons other others =>
          simp only [List.intercalate_cons_cons, List.length_append, List.length_cons,
            List.length_nil] at ih ⊢
          omega

theorem opens_of_readItems (refuses : ∀ rest, item (closing :: rest) = none)
    (refusesEnd : item [] = none) {fuel : Nat} {text : List Char} {found : List α × List Char}
    (read : readItems item closing fuel text = some found) :
    ∃ c after, skipSpace text = c :: after ∧ c ≠ closing := by
  cases fuel with
  | zero => contradiction
  | succ fuel =>
      obtain ⟨first, itemRead, _⟩ := Option.bind_eq_some_iff.mp read
      cases opened : skipSpace text with
      | nil =>
          rw [opened, refusesEnd] at itemRead
          contradiction
      | cons c after =>
          refine ⟨c, after, rfl, ?_⟩
          rintro rfl
          rw [opened, refuses] at itemRead
          contradiction

theorem readSequence_spelled (closes : Closes closing)
    (refuses : ∀ rest, item (closing :: rest) = none) (refusesEnd : item [] = none)
    (rest : List Char) {parts : List (α × List Char)}
    (takes : ∀ part ∈ parts, Takes item part.1 part.2) (some_part : parts ≠ []) :
    readSequence item closing
        (List.intercalate [','] (parts.map Prod.snd) ++ closing :: rest) =
      some (parts.map Prod.fst, rest) := by
  have enough : parts.length ≤
      (List.intercalate [','] (parts.map Prod.snd) ++ closing :: rest).length := by
    have longer := length_le_intercalate_comma (parts.map Prod.snd)
    rw [List.length_map] at longer
    rw [List.length_append, List.length_cons]
    omega
  have items := readItems_spelled closes rest takes some_part _ enough
  obtain ⟨c, after, opened, notClosing⟩ := opens_of_readItems refuses refusesEnd items
  rw [← readItems_skipSpace] at items
  unfold readSequence
  rw [opened] at items ⊢
  simp only [if_neg notClosing]
  exact items

/-- An empty sequence, with or without white space between its brackets. -/
theorem readSequence_gap (item : Reader α) (closes : Closes closing) {gap : List Char}
    (spaces : IsGap gap) (rest : List Char) :
    readSequence item closing (gap ++ closing :: rest) = some ([], rest) := by
  rw [readSequence, skipSpace_append spaces, skipSpace_cons closes.not_space]
  simp only [↓reduceIte]

end Sequences

section Completeness

variable {depth : Nat}

theorem isSpace_of_isDigit {c : Char} (digit : c.isDigit = true) : isSpace c = false := by
  rw [Bool.eq_false_iff]
  intro space
  simp only [isSpace, Bool.or_eq_true, beq_iff_eq] at space
  rcases space with ((rfl | rfl) | rfl) | rfl
  all_goals contradiction

theorem readValue_nil (depth : Nat) : readValue depth [] = none := by
  rw [readValue]

theorem readValue_closing {closing : Char} (closes : Closes closing) (rest : List Char) :
    readValue depth (closing :: rest) = none := by
  rcases closes with rfl | rfl
  all_goals simp [readValue, readNumber, wholeDigits?, Binary64.digits?]

theorem readMember_closing (item : Reader Json) {closing : Char} (closes : Closes closing)
    (rest : List Char) : readMember item (closing :: rest) = none := by
  rcases closes with rfl | rfl
  all_goals rfl

theorem takes_number {number : Number} {text : List Char} (spelled : SpellsNumber number text) :
    Takes (readValue depth) (.number number) text := by
  cases spelled with
  | negative spelled =>
      refine takes_of_read (by decide) fun rest ends => ?_
      rw [readValue_of_isNumeralChar _ _ (by decide), readNumeral, if_pos rfl,
        readNumber_spelled spelled ends]
      rfl
  | positive spelled =>
      obtain ⟨c, after, rfl, digit⟩ := spelled.opens
      have notMinus : c ≠ '-' := by
        rintro rfl
        contradiction
      refine takes_of_read (isSpace_of_isDigit digit) fun rest ends => ?_
      have read := readNumber_spelled spelled ends
      rw [List.cons_append] at read
      rw [readValue_of_isNumeralChar _ _ (by simp [isNumeralChar, digit]), readNumeral,
        if_neg notMinus, read]
      rfl

theorem takes_string {value : String} {text : List Char}
    (spelled : SpellsCharacters value.toList text) :
    Takes (readValue depth) (.string value) ('"' :: (text ++ ['"'])) := by
  refine takes_of_read (by decide) fun rest _ => ?_
  have read := readCharacters_spelled spelled rest
  rw [List.append_assoc]
  simp [readValue, readString, read]

theorem takes_member {item : Reader Json} {part : SpelledMember}
    (key : SpellsKey part.key part.keyText) (takes : Takes item part.value part.valueText) :
    Takes (readMember item) part.member part.text := by
  obtain ⟨before, characters, after, spaces, spacesAfter, spelled, written⟩ := key
  intro rest ends
  obtain ⟨left, read, skipped⟩ := takes rest ends
  have keyRead := readCharacters_spelled spelled (after ++ ':' :: (part.valueText ++ rest))
  refine ⟨left, ?_, skipped⟩
  simp only [SpelledMember.text, written, List.append_assoc, List.cons_append]
  rw [skipSpace_append spaces, skipSpace_cons (by decide)]
  simp only [readMember, readString, keyRead, Option.map_some, Option.bind_eq_bind,
    Option.bind_some]
  rw [skipSpace_append spacesAfter, skipSpace_cons (by decide)]
  simp only [read, Option.bind_some, String.ofList_toList]
  rfl

theorem takes_spelled {value : Json} {text : List Char} (spelled : Spells depth value text) :
    Takes (readValue depth) value text := by
  induction spelled with
  | null => exact takes_of_read (by decide) fun rest _ => by simp [readValue, literal?]
  | yes => exact takes_of_read (by decide) fun rest _ => by simp [readValue, literal?]
  | no => exact takes_of_read (by decide) fun rest _ => by simp [readValue, literal?]
  | number spelled => exact takes_number spelled
  | string spelled => exact takes_string spelled
  | emptyArray spaces =>
      refine takes_of_read (by decide) fun rest _ => ?_
      rw [List.append_assoc, List.singleton_append, readValue,
        readSequence_gap _ (.inl rfl) spaces]
      rfl
  | array some_part _ takes =>
      refine takes_of_read (by decide) fun rest _ => ?_
      rw [List.append_assoc, List.singleton_append, readValue,
        readSequence_spelled (.inl rfl) (readValue_closing (.inl rfl)) (readValue_nil _) rest takes
          some_part]
      rfl
  | emptyObject spaces =>
      refine takes_of_read (by decide) fun rest _ => ?_
      rw [List.append_assoc, List.singleton_append, readValue,
        readSequence_gap _ (.inr rfl) spaces]
      rfl
  | @object depth parts some_part keys _ takes =>
      refine takes_of_read (by decide) fun rest _ => ?_
      have members : ∀ part ∈ parts.map fun part => (part.member, part.text),
          Takes (readMember (readValue depth)) part.1 part.2 := by
        intro part inside
        obtain ⟨part, held, rfl⟩ := List.mem_map.mp inside
        exact takes_member (keys part held) (takes part held)
      have read := readSequence_spelled (.inr rfl) (readMember_closing _ (.inr rfl)) rfl rest
        members (by simpa using some_part)
      simp only [List.map_map, Function.comp_def] at read
      rw [List.append_assoc, List.singleton_append, readValue, read]
      rfl
  | spaced gap gapAfter _ takes => exact takes.spaced gap gapAfter

end Completeness

section Soundness

variable {α : Type} {item : Reader α} {closing : Char} {holds : α → List Char → Prop}

theorem exists_gap (text : List Char) : ∃ gap, IsGap gap ∧ text = gap ++ skipSpace text :=
  ⟨text.takeWhile isSpace, fun _ inside => List.mem_takeWhile_imp inside,
    List.takeWhile_append_dropWhile.symm⟩

/-- Whether all that `item` reads is spelled as `holds` tells, white space around it aside. -/
structure IsSound (item : Reader α) (holds : α → List Char → Prop) : Prop where
  spelled {text rest : List Char} {value : α} (read : item text = some (value, rest)) :
    ∃ spelling, text = spelling ++ rest ∧ holds value spelling
  spaced {value : α} {before text after : List Char} (gap : IsGap before) (gapAfter : IsGap after)
    (held : holds value text) : holds value (before ++ text ++ after)

/-- What an item of a sequence spelled, with the white space that was passed over around it. -/
theorem spelled_of_item (sound : IsSound item holds)
    {text rest : List Char} {value : α} (read : item (skipSpace text) = some (value, rest)) :
    ∃ spelling, text = spelling ++ skipSpace rest ∧ holds value spelling := by
  obtain ⟨before, gap, textSplit⟩ := exists_gap text
  obtain ⟨after, gapAfter, restSplit⟩ := exists_gap rest
  obtain ⟨spelling, split, held⟩ := sound.spelled read
  refine ⟨before ++ spelling ++ after, ?_, sound.spaced gap gapAfter held⟩
  rw [List.append_assoc, ← restSplit, List.append_assoc, ← split]
  exact textSplit

theorem spelled_of_readItems (sound : IsSound item holds) :
    ∀ (fuel : Nat) {text rest : List Char} {values : List α},
      readItems item closing fuel text = some (values, rest) →
        ∃ parts : List (α × List Char), parts ≠ [] ∧ values = parts.map Prod.fst ∧
          (∀ part ∈ parts, holds part.1 part.2) ∧
          text = List.intercalate [','] (parts.map Prod.snd) ++ closing :: rest := by
  intro fuel
  induction fuel with
  | zero => intro text rest values read; contradiction
  | succ fuel ih =>
      intro text rest values read
      obtain ⟨⟨value, after⟩, itemRead, read⟩ := Option.bind_eq_some_iff.mp read
      obtain ⟨spelling, split, held⟩ := spelled_of_item sound itemRead
      cases skipped : skipSpace after with
      | nil =>
          simp only [skipped] at read
          contradiction
      | cons c others =>
          simp only [skipped] at read
          split at read
          · next closes =>
              injection read with same
              injection same with first second
              refine ⟨[(value, spelling)], List.cons_ne_nil _ _, first.symm,
                List.forall_mem_singleton.mpr held, ?_⟩
              rw [split, skipped, closes, second, List.map_singleton,
                List.intercalate_singleton]
          · split at read
            · next comma =>
                obtain ⟨⟨later, end_⟩, itemsRead, same⟩ := Option.bind_eq_some_iff.mp read
                injection same with same
                injection same with first second
                obtain ⟨parts, some_part, values, areHeld, splitLater⟩ := ih itemsRead
                refine ⟨(value, spelling) :: parts, List.cons_ne_nil _ _, ?_,
                  List.forall_mem_cons.mpr ⟨held, areHeld⟩, ?_⟩
                · rw [← first, values, List.map_cons]
                · obtain ⟨next, parts, rfl⟩ := List.exists_cons_of_ne_nil some_part
                  have ends : end_ = rest := second
                  rw [split, skipped, comma, splitLater, ends]
                  simp only [List.map_cons, List.intercalate_cons_cons, List.append_assoc,
                    List.cons_append, List.nil_append]
            · contradiction

theorem spelled_of_readSequence (sound : IsSound item holds)
    {text rest : List Char} {values : List α}
    (read : readSequence item closing text = some (values, rest)) :
    (values = [] ∧ ∃ gap, IsGap gap ∧ text = gap ++ closing :: rest) ∨
      ∃ parts : List (α × List Char), parts ≠ [] ∧ values = parts.map Prod.fst ∧
        (∀ part ∈ parts, holds part.1 part.2) ∧
        text = List.intercalate [','] (parts.map Prod.snd) ++ closing :: rest := by
  unfold readSequence at read
  split at read
  · next c after skipped =>
      split at read
      · next closes =>
          injection read with same
          injection same with first second
          obtain ⟨gap, spaces, split⟩ := exists_gap text
          exact .inl ⟨first.symm, gap, spaces, by rw [split, skipped, closes, second]⟩
      · rw [← skipped, readItems_skipSpace] at read
        exact .inr (spelled_of_readItems sound _ read)
  · contradiction

variable {depth : Nat}

/-- Whether a text spells a member of an object. -/
def SpellsMember (depth : Nat) (member : String × Json) (text : List Char) : Prop :=
  ∃ keyText valueText, SpellsKey member.1 keyText ∧ Spells depth member.2 valueText ∧
    text = keyText ++ ':' :: valueText

theorem SpellsMember.spaced {member : String × Json} {before text after : List Char}
    (gap : IsGap before) (gapAfter : IsGap after) (spelled : SpellsMember depth member text) :
    SpellsMember depth member (before ++ text ++ after) := by
  obtain ⟨keyText, valueText, ⟨first, characters, last, spaces, spacesAfter, key, rfl⟩, value,
    rfl⟩ := spelled
  refine ⟨before ++ (first ++ '"' :: (characters ++ '"' :: last)), valueText ++ after,
    ⟨before ++ first, characters, last, ?_, spacesAfter, key, ?_⟩, ?_, ?_⟩
  · exact List.forall_mem_append.mpr ⟨gap, spaces⟩
  · rw [List.append_assoc]
  · have spelled := Spells.spaced IsGap.nil gapAfter value
    exact spelled
  · simp only [List.append_assoc, List.cons_append]

theorem exists_members {parts : List ((String × Json) × List Char)}
    (spelled : ∀ part ∈ parts, SpellsMember depth part.1 part.2) :
    ∃ members : List SpelledMember, members.map SpelledMember.member = parts.map Prod.fst ∧
      members.map SpelledMember.text = parts.map Prod.snd ∧
      ∀ part ∈ members,
        SpellsKey part.key part.keyText ∧ Spells depth part.value part.valueText := by
  induction parts with
  | nil => exact ⟨[], rfl, rfl, nofun⟩
  | cons part others ih =>
      obtain ⟨⟨key, value⟩, text⟩ := part
      obtain ⟨first, later⟩ := List.forall_mem_cons.mp spelled
      obtain ⟨keyText, valueText, keySpelled, valueSpelled, rfl⟩ := first
      obtain ⟨members, areMembers, texts, spelled⟩ := ih later
      refine ⟨⟨key, value, keyText, valueText⟩ :: members, ?_, ?_,
        List.forall_mem_cons.mpr ⟨⟨keySpelled, valueSpelled⟩, spelled⟩⟩
      · rw [List.map_cons, areMembers]
        rfl
      · rw [List.map_cons, texts]
        rfl

theorem spelled_of_readMember (sound : IsSound (readValue depth) (Spells depth))
    {text rest : List Char} {member : String × Json}
    (read : readMember (readValue depth) text = some (member, rest)) :
    ∃ spelling, text = spelling ++ rest ∧ SpellsMember depth member spelling := by
  unfold readMember at read
  split at read
  · next after =>
      simp only [Option.bind_eq_bind] at read
      obtain ⟨⟨key, afterKey⟩, keyRead, read⟩ := Option.bind_eq_some_iff.mp read
      obtain ⟨characters, afterSplit, keySpelled⟩ := spelled_of_readString keyRead
      obtain ⟨gap, spaces, gapSplit⟩ := exists_gap afterKey
      split at read
      · next valueText skipped =>
          obtain ⟨⟨value, last⟩, valueRead, same⟩ := Option.bind_eq_some_iff.mp read
          injection same with same
          injection same with memberSame lastSame
          subst memberSame lastSame
          obtain ⟨before, gapBefore, valueSplit⟩ := exists_gap valueText
          obtain ⟨spelling, split, spelled⟩ := sound.spelled valueRead
          have valueSpelled := Spells.spaced gapBefore IsGap.nil spelled
          refine ⟨_, ?_, _, _, ⟨[], characters, gap, IsGap.nil, spaces, keySpelled, rfl⟩,
            valueSpelled, rfl⟩
          rw [afterSplit, gapSplit, skipped, valueSplit, split]
          simp only [List.nil_append, List.append_nil, List.cons_append, List.append_assoc]
      · contradiction
  · contradiction

theorem spelled_of_literal? {word : String} {value found : Json} {text rest : List Char}
    (read : literal? word value text = some (found, rest)) :
    found = value ∧ text = word.toList ++ rest := by
  obtain ⟨left, isPrefix, same⟩ := Option.map_eq_some_iff.mp read
  injection same with first second
  refine ⟨first.symm, ?_⟩
  rw [← second]
  exact (List.append_eq_of_isPrefixOf?_eq_some isPrefix).symm

/-- What was found where a reader's result was made a value. -/
theorem found_of_wrapped (wrap : α → Json) {found : Option (α × List Char)} {value : Json}
    {rest : List Char}
    (read : (found.map fun (inner, rest) => (wrap inner, rest)) = some (value, rest)) :
    ∃ inner, found = some (inner, rest) ∧ value = wrap inner := by
  obtain ⟨⟨inner, left⟩, innerRead, same⟩ := Option.map_eq_some_iff.mp read
  injection same with first second
  exact ⟨inner, second ▸ innerRead, first.symm⟩

theorem cons_append_cons (opening closing : Char) (inner rest : List Char) :
    opening :: (inner ++ closing :: rest) = opening :: (inner ++ [closing]) ++ rest := by
  rw [List.cons_append, List.append_assoc, List.singleton_append]

theorem spelled_of_readArray (sound : IsSound (readValue depth) (Spells depth))
    {text rest : List Char} {items : List Json}
    (read : readSequence (readValue depth) ']' text = some (items, rest)) :
    ∃ spelling, '[' :: text = spelling ++ rest ∧ Spells (depth + 1) (.array items) spelling := by
  rcases spelled_of_readSequence sound read with
    ⟨none_item, gap, spaces, split⟩ | ⟨parts, some_part, values, spelled, split⟩
  · exact ⟨_, split ▸ cons_append_cons .., none_item ▸ .emptyArray spaces⟩
  · exact ⟨_, split ▸ cons_append_cons .., values ▸ .array some_part spelled⟩

theorem spelled_of_readObject (sound : IsSound (readValue depth) (Spells depth))
    {text rest : List Char} {members : List (String × Json)}
    (read : readSequence (readMember (readValue depth)) '\x7d' text = some (members, rest)) :
    ∃ spelling, '\x7b' :: text = spelling ++ rest ∧
      Spells (depth + 1) (.ofDict (Dict.ofList members)) spelling := by
  have members : IsSound (readMember (readValue depth)) (SpellsMember depth) :=
    ⟨spelled_of_readMember sound, .spaced⟩
  rcases spelled_of_readSequence members read with
    ⟨none_member, gap, spaces, split⟩ | ⟨parts, some_part, values, spelled, split⟩
  · exact ⟨_, split ▸ cons_append_cons .., none_member ▸ .emptyObject spaces⟩
  · obtain ⟨members, areMembers, texts, spelled⟩ := exists_members spelled
    have some_member : members ≠ [] := by
      rintro rfl
      exact some_part (List.map_eq_nil_iff.mp areMembers.symm)
    refine ⟨_, split ▸ cons_append_cons .., ?_⟩
    rw [values, ← areMembers, ← texts]
    exact .object some_member (fun part inside => (spelled part inside).1)
      fun part inside => (spelled part inside).2

theorem spelled_of_readValue (depth : Nat) {text rest : List Char} {value : Json}
    (read : readValue depth text = some (value, rest)) :
    ∃ spelling, text = spelling ++ rest ∧ Spells depth value spelling := by
  induction depth using Nat.strongRecOn generalizing text value rest with
  | ind depth ih =>
      have sound (inner : Nat) (less : inner < depth) : IsSound (readValue inner) (Spells inner) :=
        ⟨ih inner less, .spaced⟩
      unfold readValue at read
      split at read
      · contradiction
      · obtain ⟨rfl, rfl⟩ := spelled_of_literal? read
        exact ⟨['n', 'u', 'l', 'l'], by simp, .null⟩
      · obtain ⟨rfl, rfl⟩ := spelled_of_literal? read
        exact ⟨['t', 'r', 'u', 'e'], by simp, .yes⟩
      · obtain ⟨rfl, rfl⟩ := spelled_of_literal? read
        exact ⟨['f', 'a', 'l', 's', 'e'], by simp, .no⟩
      · obtain ⟨found, stringRead, rfl⟩ := found_of_wrapped Json.string read
        obtain ⟨spelling, rfl, spelled⟩ := spelled_of_readString stringRead
        exact ⟨_, cons_append_cons .., .string spelled⟩
      · obtain ⟨items, itemsRead, rfl⟩ := found_of_wrapped Json.array read
        exact spelled_of_readArray (sound _ (Nat.lt_succ_self _)) itemsRead
      · obtain ⟨members, membersRead, rfl⟩ :=
          found_of_wrapped (fun members => .ofDict (Dict.ofList members)) read
        exact spelled_of_readObject (sound _ (Nat.lt_succ_self _)) membersRead
      · obtain ⟨number, numberRead, rfl⟩ := found_of_wrapped Json.number read
        obtain ⟨spelling, rfl, spelled⟩ := spelled_of_readNumber numberRead
        exact ⟨'-' :: spelling, rfl, .number (.negative spelled)⟩
      · obtain ⟨number, numberRead, rfl⟩ := found_of_wrapped Json.number read
        obtain ⟨spelling, rfl, spelled⟩ := spelled_of_readNumber numberRead
        exact ⟨spelling, rfl, .number (.positive spelled)⟩

end Soundness

/-- What is read from a whole text is what it spells, and all that is spelled is read. -/
theorem parse?_eq_some_iff {text : String} {value : Json} :
    parse? text = some value ↔ Spells maxDepth value text.toList := by
  constructor
  · intro parsed
    unfold parse? at parsed
    split at parsed
    · next found rest read =>
        split at parsed
        · next ends =>
            injection parsed with same
            subst same
            obtain ⟨before, gap, opening⟩ := exists_gap text.toList
            obtain ⟨after, gapAfter, closing⟩ := exists_gap rest
            obtain ⟨spelling, split, spelled⟩ := spelled_of_readValue maxDepth read
            rw [List.isEmpty_iff.mp ends, List.append_nil] at closing
            rw [opening, split, closing, ← List.append_assoc]
            exact .spaced gap gapAfter spelled
        · contradiction
    · contradiction
  · intro spelled
    obtain ⟨left, read, skipped⟩ := takes_spelled spelled [] .nil
    rw [List.append_nil] at read
    unfold parse?
    rw [read]
    simp only [skipped]
    rfl

end AgentGraph.Json
