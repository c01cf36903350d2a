import AgentGraph.Literal.Basic
import AgentGraph.Proofs.Literal.Numerals
import Mathlib.Data.List.Forall2

/-!
Literals read back. A reader of the program's text takes a literal from its head and gives
what it denotes; of what is written for a JSON value it takes all, gives the value, and meets
no character that would end the line.
-/

namespace AgentGraph.Literal

open Json (EndsNumber Reader followedBy hexValue?)

/-- What a literal denotes. A number stays as it is written. -/
inductive Meaning where
  | none
  | bool (value : Bool)
  | number (text : String)
  | string (text : String)
  | list (items : List Meaning)
  | dict (entries : List (String × Meaning))

/-- Characters that never stand in a literal as they are. -/
def isControl (c : Char) : Bool := c.toNat < 0x20 || c == '\x7f'

/-- The character for which a letter after a backslash stands. -/
def escape? : Char → Option Char
  | '"' => some '"'
  | '\\' => some '\\'
  | 'n' => some '\n'
  | 'r' => some '\r'
  | 't' => some '\t'
  | _ => none

/-- The character of a code of two hexadecimal digits. -/
def coded? (high low : Char) : Option Char := do
  let high ← hexValue? high
  let low ← hexValue? low
  return Char.ofNat (high * 16 + low)

/-- The characters of a string up to its closing quote, which is dropped. -/
@[simp] def readCharacters : List Char → Option (List Char × List Char)
  | [] => none
  | '"' :: rest => some ([], rest)
  | '\\' :: 'x' :: high :: low :: rest =>
      (coded? high low).bind fun c => followedBy c (readCharacters rest)
  | '\\' :: c :: rest => (escape? c).bind fun c => followedBy c (readCharacters rest)
  | c :: rest => if c = '\\' ∨ isControl c then none else followedBy c (readCharacters rest)

/-- The string whose opening quote was dropped. -/
def readString : Reader String := fun text =>
  (readCharacters text).map fun (characters, rest) => (String.ofList characters, rest)

/-- Items parted by a comma and a space up to `closing`, at least one; `fuel` bounds their
number. -/
def readItems {α : Type} (item : Reader α) (closing : Char) : (fuel : Nat) → Reader (List α)
  | 0, _ => none
  | fuel + 1, text => do
      let (first, rest) ← item text
      match rest with
      | ',' :: ' ' :: rest => do
          let (others, rest) ← readItems item closing fuel rest
          return (first :: others, rest)
      | c :: rest => if c = closing then some ([first], rest) else none
      | [] => none

/-- What stands between an opening bracket, which was dropped, and `closing`. -/
def readSequence {α : Type} (item : Reader α) (closing : Char) : Reader (List α)
  | [] => none
  | c :: rest =>
      if c = closing then some ([], rest)
      else readItems item closing (c :: rest).length (c :: rest)

def readEntry (meaning : Reader Meaning) : Reader (String × Meaning)
  | '"' :: text => do
      let (key, rest) ← readString text
      match rest with
      | ':' :: ' ' :: rest => do
          let (held, rest) ← meaning rest
          return ((key, held), rest)
      | _ => none
  | _ => none

def readWord (word : String) (meaning : Meaning) : Reader Meaning := fun text =>
  (word.toList.isPrefixOf? text).map fun rest => (meaning, rest)

/-- The literal at the head of a text; `depth` counts the lists and dictionaries that may
still be opened. -/
@[simp] def readMeaning : (depth : Nat) → Reader Meaning
  | _, 'N' :: text => readWord "one" .none text
  | _, 'T' :: text => readWord "rue" (.bool true) text
  | _, 'F' :: text => readWord "alse" (.bool false) text
  | _, '"' :: text => (readString text).map fun (value, rest) => (.string value, rest)
  | depth + 1, '[' :: text =>
      (readSequence (readMeaning depth) ']' text).map fun (items, rest) => (.list items, rest)
  | depth + 1, '\x7b' :: text =>
      (readSequence (readEntry (readMeaning depth)) '\x7d' text).map fun (entries, rest) =>
        (.dict entries, rest)
  | _, text => (readNumeral text).map fun (number, rest) => (.number number, rest)

/-- The literal at the head of a text, however deep it nests. -/
def read : Reader Meaning := fun text => readMeaning text.length text

mutual

/-- What the literal of a JSON value is to denote. -/
def meaning : Json → Meaning
  | .null => .none
  | .bool truth => .bool truth
  | .number number => .number number.text
  | .string text => .string text
  | .array items => .list (itemMeanings items)
  | .object members => .dict (memberMeanings members)

def itemMeanings : List Json → List Meaning
  | [] => []
  | item :: rest => meaning item :: itemMeanings rest

def memberMeanings : List (String × Json) → List (String × Meaning)
  | [] => []
  | (key, item) :: rest => (key, meaning item) :: memberMeanings rest

end

section Strings

theorem readCharacters_shown {c : Char} (rest : List Char) (notQuote : c ≠ '"')
    (notBackslash : c ≠ '\\') (shown : isControl c = false) :
    readCharacters (c :: rest) = followedBy c (readCharacters rest) := by
  rw [readCharacters]
  · simp [notBackslash, shown]
  · exact notQuote
  · intro high low rest same
    exact absurd same notBackslash
  · intro letter rest same
    exact absurd same notBackslash

theorem readCharacters_escape {letter c : Char} (rest : List Char)
    (notCode : letter ≠ 'x') (escapes : escape? letter = some c) :
    readCharacters ('\\' :: letter :: rest) = followedBy c (readCharacters rest) := by
  rw [readCharacters]
  · rw [escapes, Option.bind_some]
  · intro high low rest same
    exact absurd same notCode

theorem coded?_isControl {c : Char} (control : isControl c = true) :
    coded? (Nat.digitChar (c.toNat / 16)) (Nat.digitChar (c.toNat % 16)) = some c := by
  have codes : ∀ code : Fin 128, isControl (Char.ofNat code.val) = true →
      coded? (Nat.digitChar (code.val / 16)) (Nat.digitChar (code.val % 16)) =
        some (Char.ofNat code.val) := by
    decide
  have small : c.toNat < 128 := by
    simp only [isControl, Bool.or_eq_true, decide_eq_true_eq, beq_iff_eq] at control
    rcases control with low | rfl
    · omega
    · decide
  simpa [control] using codes ⟨c.toNat, small⟩

theorem readCharacters_escapedChar (c : Char) (rest : List Char) :
    readCharacters (escapedChar c ++ rest) = followedBy c (readCharacters rest) := by
  unfold escapedChar
  split
  · next same =>
      subst same
      exact readCharacters_escape rest (by decide) rfl
  · next notQuote =>
      split
      · next same =>
          subst same
          exact readCharacters_escape rest (by decide) rfl
      · next notBackslash =>
          split
          · next same =>
              subst same
              exact readCharacters_escape rest (by decide) rfl
          · split
            · next same =>
                subst same
                exact readCharacters_escape rest (by decide) rfl
            · split
              · next same =>
                  subst same
                  exact readCharacters_escape rest (by decide) rfl
              · split
                · next control =>
                    have control : isControl c = true := by simpa [isControl] using control
                    simp only [List.cons_append, List.nil_append]
                    rw [readCharacters, coded?_isControl control, Option.bind_some]
                · next shown =>
                    have shown : isControl c = false := by simpa [isControl] using shown
                    exact readCharacters_shown rest notQuote notBackslash shown

theorem readCharacters_escaped (text rest : List Char) :
    readCharacters (text.flatMap escapedChar ++ '"' :: rest) = some (text, rest) := by
  induction text with
  | nil => rw [List.flatMap_nil, List.nil_append, readCharacters]
  | cons c text ih =>
      rw [List.flatMap_cons, List.append_assoc, readCharacters_escapedChar, ih]
      rfl

theorem toList_string (text : String) :
    (string text).toList = '"' :: (text.toList.flatMap escapedChar ++ ['"']) := by
  simp [string]

theorem readString_string (text : String) (rest : List Char) :
    (string text).toList ++ rest = '"' :: (text.toList.flatMap escapedChar ++ '"' :: rest) ∧
      readString (text.toList.flatMap escapedChar ++ '"' :: rest) = some (text, rest) := by
  constructor
  · simp [toList_string]
  · rw [readString, readCharacters_escaped]
    simp

theorem string_injective {first second : String}
    (same : string first = string second) : first = second := by
  have read (text : String) := readString_string text []
  have escaped : first.toList.flatMap escapedChar ++ ['"'] =
      second.toList.flatMap escapedChar ++ ['"'] := by
    have whole := congrArg String.toList same
    rw [toList_string, toList_string] at whole
    exact (List.cons.inj whole).2
  have found := (read first).2
  rw [escaped, (read second).2] at found
  injection found with found
  exact (congrArg Prod.fst found).symm

end Strings

/-- Whether `item` reads `value` off a text that begins with `text`. -/
structure Reads {α : Type} (item : Reader α) (value : α) (text : String) : Prop where
  read : ∀ rest, EndsNumber rest → item (text.toList ++ rest) = some (value, rest)
  opens : ∃ c ∈ text.toList.head?, c ≠ ']' ∧ c ≠ '\x7d'

section Sequences

variable {α : Type} {item : Reader α} {values : List α} {texts : List String} {closing : Char}

theorem endsNumber_comma (rest : List Char) : EndsNumber (',' :: rest) := by
  intro c head
  obtain rfl : ',' = c := Option.some.inj head
  decide

theorem endsNumber_closing (closes : closing = ']' ∨ closing = '\x7d') (rest : List Char) :
    EndsNumber (closing :: rest) := by
  intro c head
  obtain rfl : closing = c := Option.some.inj head
  rcases closes with rfl | rfl
  · decide
  · decide

theorem readItems_intercalate (closes : closing = ']' ∨ closing = '\x7d') (rest : List Char)
    (reads : List.Forall₂ (Reads item) values texts) (some_item : texts ≠ []) (fuel : Nat)
    (enough : texts.length ≤ fuel) :
    readItems item closing fuel ((", ".intercalate texts).toList ++ closing :: rest) =
      some (values, rest) := by
  induction reads generalizing fuel with
  | nil => contradiction
  | @cons value text values texts first others ih =>
      cases fuel with
      | zero => simp at enough
      | succ fuel =>
          cases others with
          | nil =>
              have notComma : closing ≠ ',' := by
                rcases closes with rfl | rfl
                · decide
                · decide
              rw [String.intercalate_singleton, readItems,
                first.read _ (endsNumber_closing closes rest)]
              simp only [Option.bind_eq_bind, Option.bind_some]
              split
              · next same => exact absurd (List.cons.inj same).1 notComma
              · next same =>
                  obtain ⟨rfl, rfl⟩ := List.cons.inj same
                  rw [if_pos rfl]
              · next same => contradiction
          | @cons next text' values texts second others =>
              have tail := ih (by simp) fuel (by simpa using enough)
              have comma : ", ".toList = [',', ' '] := by decide
              rw [String.intercalate_cons_cons, readItems]
              simp only [String.toList_append, comma, List.append_assoc, List.cons_append,
                List.nil_append]
              rw [first.read _ (endsNumber_comma _)]
              simp only [Option.bind_eq_bind, Option.bind_some, tail]
              rfl

theorem length_le_intercalate (reads : List.Forall₂ (Reads item) values texts) :
    texts.length ≤ (", ".intercalate texts).toList.length := by
  induction reads with
  | nil => exact Nat.zero_le _
  | @cons value text values texts first others ih =>
      have shown : 0 < text.toList.length := by
        obtain ⟨c, head, _⟩ := first.opens
        obtain ⟨tail, opened⟩ := List.head?_eq_some_iff.mp head
        rw [opened]
        exact Nat.succ_pos _
      cases others with
      | nil =>
          rw [String.intercalate_singleton]
          exact shown
      | cons second others =>
          rw [String.intercalate_cons_cons, String.toList_append, String.toList_append,
            List.length_append, List.length_append, List.length_cons]
          omega

theorem readSequence_intercalate (closes : closing = ']' ∨ closing = '\x7d') (rest : List Char)
    (reads : List.Forall₂ (Reads item) values texts) :
    readSequence item closing ((", ".intercalate texts).toList ++ closing :: rest) =
      some (values, rest) := by
  cases reads with
  | nil => simp [readSequence]
  | @cons value text values texts first others =>
      have reads := List.Forall₂.cons first others
      have enough := length_le_intercalate reads
      obtain ⟨after, opened⟩ : ∃ after,
          (", ".intercalate (text :: texts)).toList = text.toList ++ after := by
        cases texts with
        | nil => exact ⟨[], by rw [String.intercalate_singleton, List.append_nil]⟩
        | cons next texts =>
            rw [String.intercalate_cons_cons, String.toList_append, String.toList_append,
              List.append_assoc]
            exact ⟨_, rfl⟩
      obtain ⟨c, head, notBracket, notBrace⟩ := first.opens
      obtain ⟨tail, chars⟩ := List.head?_eq_some_iff.mp head
      have notClosing : c ≠ closing := by
        rcases closes with rfl | rfl
        · exact notBracket
        · exact notBrace
      rw [chars, List.cons_append] at opened
      have items := readItems_intercalate closes rest reads (by simp)
        ((", ".intercalate (text :: texts)).toList ++ closing :: rest).length
        (by rw [List.length_append]; omega)
      rw [opened, List.cons_append] at items ⊢
      rw [readSequence, if_neg notClosing]
      exact items

end Sequences

theorem reads_none (depth : Nat) : Reads (readMeaning depth) .none "None" where
  read rest _ := by simp [readMeaning, readWord]
  opens := ⟨'N', by simp, by decide, by decide⟩

theorem reads_bool (truth : Bool) (depth : Nat) :
    Reads (readMeaning depth) (.bool truth) (bool truth) := by
  cases truth with
  | true =>
      refine ⟨fun rest _ => ?_, 'T', by decide⟩
      simp [bool, readMeaning, readWord]
  | false =>
      refine ⟨fun rest _ => ?_, 'F', by decide⟩
      simp [bool, readMeaning, readWord]

theorem reads_string (text : String) (depth : Nat) :
    Reads (readMeaning depth) (.string text) (string text) where
  read rest _ := by
    obtain ⟨chars, read⟩ := readString_string text rest
    rw [chars, readMeaning, read]
    rfl
  opens := ⟨'"', by simp [toList_string], by decide, by decide⟩

theorem reads_entry {depth : Nat} {held : Meaning} {text : String}
    (reads : Reads (readMeaning depth) held text) (key : String) :
    Reads (readEntry (readMeaning depth)) (key, held) (string key ++ ": " ++ text) where
  read rest ends := by
    obtain ⟨chars, read⟩ := readString_string key (':' :: ' ' :: (text.toList ++ rest))
    have colon : ": ".toList = [':', ' '] := by decide
    simp only [String.toList_append, colon, List.append_assoc, List.cons_append, List.nil_append]
    rw [chars, readEntry]
    simp only [read, reads.read rest ends, Option.bind_eq_bind, Option.bind_some, Option.pure_def]
  opens := ⟨'"', by simp [toList_string], by decide, by decide⟩

theorem readMeaning_of_isNumeralChar (depth : Nat) {c : Char} (text : List Char)
    (numeral : isNumeralChar c = true) :
    readMeaning depth (c :: text) =
      (readNumeral (c :: text)).map fun (number, rest) => (.number number, rest) := by
  have excluded : ∀ other ∈ ['N', 'T', 'F', '"', '[', '\x7b'], c ≠ other := by
    intro other member same
    subst same
    simp only [List.mem_cons, List.not_mem_nil, or_false] at member
    rcases member with rfl | rfl | rfl | rfl | rfl | rfl
    all_goals exact absurd numeral (by decide)
  rw [readMeaning]
  all_goals intros; simp_all

theorem reads_number (number : Number) (depth : Nat) :
    Reads (readMeaning depth) (.number number.text) number.text := by
  have numeral := number.text_isNumeralText
  unfold IsNumeralText at numeral
  obtain ⟨c, tail, opened⟩ :=
    List.exists_cons_of_ne_nil fun empty => number.text_ne_empty (String.toList_eq_nil_iff.mp empty)
  have head : isNumeralChar c = true := numeral c (by rw [opened]; exact List.mem_cons_self)
  refine ⟨fun rest ends => ?_, c, by rw [opened]; rfl, ?_, ?_⟩
  · have read := readNumeral_append (numberText_isNumeral number) ends
    rw [opened, List.cons_append] at read ⊢
    rw [readMeaning_of_isNumeralChar depth _ head, read, Option.map_some, ← opened,
      String.ofList_toList]
  · rintro rfl
    exact absurd head (by decide)
  · rintro rfl
    exact absurd head (by decide)

section Nesting

variable {depth : Nat} {texts : List String}

theorem reads_list {items : List Meaning}
    (reads : List.Forall₂ (Reads (readMeaning depth)) items texts) :
    Reads (readMeaning (depth + 1)) (.list items) ("[" ++ ", ".intercalate texts ++ "]") where
  read rest _ := by
    have chars : ("[" ++ ", ".intercalate texts ++ "]").toList ++ rest =
        '[' :: ((", ".intercalate texts).toList ++ ']' :: rest) := by simp
    rw [chars, readMeaning, readSequence_intercalate (.inl rfl) rest reads]
    rfl
  opens := ⟨'[', by simp, by decide, by decide⟩

theorem reads_dict {entries : List (String × Meaning)}
    (reads : List.Forall₂ (Reads (readEntry (readMeaning depth))) entries texts) :
    Reads (readMeaning (depth + 1)) (.dict entries)
      ("\x7b" ++ ", ".intercalate texts ++ "\x7d") where
  read rest _ := by
    have chars : ("\x7b" ++ ", ".intercalate texts ++ "\x7d").toList ++ rest =
        '\x7b' :: ((", ".intercalate texts).toList ++ '\x7d' :: rest) := by simp
    rw [chars, readMeaning, readSequence_intercalate (.inr rfl) rest reads]
    rfl
  opens := ⟨'\x7b', by simp, by decide, by decide⟩

end Nesting

theorem length_le_intercalate_of_mem {separator text : String} {texts : List String}
    (inside : text ∈ texts) : text.length ≤ (separator.intercalate texts).length := by
  induction texts with
  | nil => exact absurd inside List.not_mem_nil
  | cons first texts ih =>
      cases texts with
      | nil => rw [String.intercalate_singleton, List.mem_singleton.mp inside]
      | cons next texts =>
          rw [String.intercalate_cons_cons, String.length_append, String.length_append]
          rcases List.mem_cons.mp inside with rfl | later
          · omega
          · have := ih later
            omega

mutual

theorem reads_value : ∀ (json : Json) (depth : Nat), (value json).length ≤ depth →
    Reads (readMeaning depth) (meaning json) (value json)
  | .null => fun depth _ => reads_none depth
  | .bool truth => fun depth _ => reads_bool truth depth
  | .number number => fun depth _ => reads_number number depth
  | .string text => fun depth _ => reads_string text depth
  | .array items => fun depth enough => by
      simp only [value, String.length_append] at enough
      have bracket : "[".length = 1 := by decide
      cases depth with
      | zero => omega
      | succ depth =>
          refine reads_list (reads_items items depth fun text inside => ?_)
          have shorter := @length_le_intercalate_of_mem ", " _ _ inside
          omega
  | .object members => fun depth enough => by
      simp only [value, String.length_append] at enough
      have brace : "\x7b".length = 1 := by decide
      cases depth with
      | zero => omega
      | succ depth =>
          refine reads_dict (reads_members members depth fun text inside => ?_)
          have shorter := @length_le_intercalate_of_mem ", " _ _ inside
          omega

theorem reads_items : ∀ (items : List Json) (depth : Nat),
    (∀ text ∈ itemValues items, text.length ≤ depth) →
      List.Forall₂ (Reads (readMeaning depth)) (itemMeanings items) (itemValues items)
  | [] => fun _ _ => .nil
  | item :: rest => fun depth enough =>
      .cons (reads_value item depth (enough _ List.mem_cons_self))
        (reads_items rest depth fun text inside => enough text (List.mem_cons_of_mem _ inside))

theorem reads_members : ∀ (members : List (String × Json)) (depth : Nat),
    (∀ text ∈ memberValues members, text.length ≤ depth) →
      List.Forall₂ (Reads (readEntry (readMeaning depth))) (memberMeanings members)
        (memberValues members)
  | [] => fun _ _ => .nil
  | (key, item) :: rest => fun depth enough => by
      have entry := enough _ List.mem_cons_self
      rw [String.length_append] at entry
      exact .cons (reads_entry (reads_value item depth (by omega)) key)
        (reads_members rest depth fun text inside => enough text (List.mem_cons_of_mem _ inside))

end

/-- Whether a text holds none of the characters that would end its line, or hide in it. -/
def OneLine (text : String) : Prop := ∀ c ∈ text.toList, isControl c = false

instance (text : String) : Decidable (OneLine text) :=
  decidable_of_iff (text.toList.all (fun c => !isControl c) = true)
    (by simp [OneLine, List.all_eq_true])

theorem OneLine.append {first second : String} (left : OneLine first) (right : OneLine second) :
    OneLine (first ++ second) := by
  intro c inside
  rw [String.toList_append, List.mem_append] at inside
  exact inside.elim (left c) (right c)

theorem OneLine.intercalate {separator : String} (parts : OneLine separator)
    {texts : List String} (lines : ∀ text ∈ texts, OneLine text) :
    OneLine (separator.intercalate texts) := by
  induction texts with
  | nil =>
      rw [String.intercalate_nil]
      decide
  | cons first texts ih =>
      have head := lines first List.mem_cons_self
      cases texts with
      | nil => rwa [String.intercalate_singleton]
      | cons next texts =>
          rw [String.intercalate_cons_cons]
          exact (head.append parts).append
            (ih fun text inside => lines text (List.mem_cons_of_mem _ inside))

theorem escapedChar_oneLine {c inside : Char} (held : inside ∈ escapedChar c) :
    isControl inside = false := by
  by_cases small : c.toNat < 128
  · have codes : ∀ code : Fin 128,
        (escapedChar (Char.ofNat code.val)).all (fun c => !isControl c) = true := by
      decide
    have shown := codes ⟨c.toNat, small⟩
    rw [Char.ofNat_toNat] at shown
    simpa using List.all_eq_true.mp shown inside held
  · have large (other : Char) (code : other.toNat < 128) : c ≠ other := by
      rintro rfl
      exact small code
    have control : isControl c = false := by
      rw [isControl, Bool.or_eq_false_iff, decide_eq_false_iff_not, beq_eq_false_iff_ne]
      exact ⟨by omega, large _ (by decide)⟩
    have shown : escapedChar c = [c] := by
      have notHidden : ¬(c.toNat < 0x20 ∨ c = '\x7f') := by
        simpa [isControl] using control
      rw [escapedChar, if_neg (large _ (by decide)), if_neg (large _ (by decide)),
        if_neg (large _ (by decide)), if_neg (large _ (by decide)), if_neg (large _ (by decide)),
        if_neg notHidden]
    rw [shown, List.mem_singleton] at held
    rw [held, control]

theorem string_oneLine (text : String) : OneLine (string text) := by
  intro c inside
  rw [toList_string] at inside
  simp only [List.mem_cons, List.mem_append, List.mem_flatMap, List.not_mem_nil, or_false] at inside
  rcases inside with rfl | ⟨_, _, held⟩ | rfl
  · decide
  · exact escapedChar_oneLine held
  · decide

theorem numberText_oneLine (number : Number) : OneLine number.text := by
  intro c inside
  have numeral := number.text_isNumeralText c inside
  simp only [isNumeralChar, Char.isDigit, Bool.or_eq_true, Bool.and_eq_true, decide_eq_true_eq,
    beq_iff_eq] at numeral
  rcases numeral with (((digit | rfl) | rfl) | rfl) | rfl
  · have lower : 48 ≤ c.toNat := digit.1
    have upper : c.toNat ≤ 57 := digit.2
    rw [isControl, Bool.or_eq_false_iff, decide_eq_false_iff_not, beq_eq_false_iff_ne]
    refine ⟨by omega, ?_⟩
    rintro rfl
    exact absurd upper (by decide)
  all_goals decide

mutual

theorem value_oneLine : ∀ json : Json, OneLine (value json)
  | .null => by decide
  | .bool true => by decide
  | .bool false => by decide
  | .number number => numberText_oneLine number
  | .string text => string_oneLine text
  | .array items =>
      (OneLine.append (by decide) (.intercalate (by decide) (itemValues_oneLine items))).append
        (by decide)
  | .object members =>
      (OneLine.append (by decide) (.intercalate (by decide) (memberValues_oneLine members))).append
        (by decide)

theorem itemValues_oneLine : ∀ items : List Json, ∀ text ∈ itemValues items, OneLine text
  | [], _, inside => absurd inside List.not_mem_nil
  | item :: rest, text, inside => by
      rcases List.mem_cons.mp inside with rfl | later
      · exact value_oneLine item
      · exact itemValues_oneLine rest text later

theorem memberValues_oneLine :
    ∀ members : List (String × Json), ∀ text ∈ memberValues members, OneLine text
  | [], _, inside => absurd inside List.not_mem_nil
  | (key, item) :: rest, text, inside => by
      rcases List.mem_cons.mp inside with rfl | later
      · exact ((string_oneLine key).append (by decide)).append (value_oneLine item)
      · exact memberValues_oneLine rest text later

end

/-- The literal of a value is read back whatever follows it, unless that goes on with a
number, and stays on its line. -/
theorem read_value (json : Json) {rest : List Char} (ends : EndsNumber rest) :
    read ((value json).toList ++ rest) = some (meaning json, rest) ∧
      (∀ text rest, read ((string text).toList ++ rest) = some (.string text, rest)) ∧
      OneLine (value json) := by
  refine ⟨?_, ?_, value_oneLine json⟩
  · refine (reads_value json _ ?_).read rest ends
    rw [List.length_append, String.length_toList]
    omega
  · intro text rest
    obtain ⟨chars, read_string⟩ := readString_string text rest
    rw [read, chars, readMeaning, read_string]
    rfl

/-- A value with what a reader could stumble over: quotes and line ends in a key, a word of
the program in a string, control characters, a sign, and brackets that hold nothing. -/
def intricate : Json := .object [("\"a\"\n\\", .array [.string "None", .null, .bool true]),
  ("\x07\x7f", .number (.integer (-5))), ("", .object []), ("\u00e9", .array [])]

theorem read_value_intricate :
    EndsNumber "\n".toList ∧
      read ((value intricate).toList ++ "\n".toList) = some (meaning intricate, "\n".toList) ∧
      (∀ text rest, read ((string text).toList ++ rest) = some (.string text, rest)) ∧
      OneLine (value intricate) := by
  have ends : EndsNumber "\n".toList := by
    intro c head
    obtain rfl : '\n' = c := Option.some.inj head
    decide
  exact ⟨ends, read_value intricate ends⟩

end AgentGraph.Literal
