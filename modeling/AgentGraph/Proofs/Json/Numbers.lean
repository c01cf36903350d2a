import AgentGraph.Json.Parser
import AgentGraph.Proofs.Binary64.Text
import Mathlib.Algebra.Group.Int.Defs
import Mathlib.Data.List.TakeWhile

/-!
Numbers in JSON. A number is read to its end, so what follows it changes nothing
as long as it cannot be a part of a number. Integers of 64 bits are read back from
their text; whether a double is depends on the double.
-/

namespace AgentGraph

open Binary64

/-- Whether a number is a double, or an integer of 64 bits. -/
def Number.IsWord : Number → Prop
  | .integer value => -2 ^ 63 ≤ value ∧ value < 2 ^ 64
  | .real _ => True

namespace Json

/-- Whether a text cannot go on with the number before it. -/
def EndsNumber (rest : List Char) : Prop :=
  ∀ c ∈ rest.head?, c.isDigit = false ∧ c ≠ '.' ∧ c ≠ 'e' ∧ c ≠ 'E'

theorem EndsNumber.nil : EndsNumber [] := by simp [EndsNumber]

private theorem takeWhile_isDigit_append (text : List Char) {rest : List Char}
    (ends : EndsNumber rest) :
    (text ++ rest).takeWhile Char.isDigit = text.takeWhile Char.isDigit ∧
      (text ++ rest).dropWhile Char.isDigit = text.dropWhile Char.isDigit ++ rest := by
  induction text with
  | nil =>
      cases rest with
      | nil => exact ⟨rfl, rfl⟩
      | cons c rest =>
          have notDigit := (ends c (by simp)).1
          simp [notDigit]
  | cons c text ih =>
      by_cases digit : c.isDigit = true
      · simp [digit, ih]
      · simp [digit]

theorem digits?_append {text digits left rest : List Char} (ends : EndsNumber rest)
    (read : digits? text = some (digits, left)) :
    digits? (text ++ rest) = some (digits, left ++ rest) := by
  obtain ⟨taken, dropped⟩ := takeWhile_isDigit_append text ends
  unfold digits? at read ⊢
  rw [taken, dropped]
  split at read
  · contradiction
  · simp only [Option.some.injEq, Prod.mk.injEq] at read
    simp only [Option.some.injEq, Prod.mk.injEq]
    exact ⟨read.1, by rw [read.2]⟩

theorem digits?_suffix {text digits left : List Char}
    (read : digits? text = some (digits, left)) : left <:+ text := by
  unfold digits? at read
  split at read
  · contradiction
  · simp only [Option.some.injEq, Prod.mk.injEq] at read
    rw [← read.2]
    exact List.dropWhile_suffix _

theorem wholeDigits?_append {text digits left rest : List Char} (ends : EndsNumber rest)
    (read : wholeDigits? text = some (digits, left)) :
    wholeDigits? (text ++ rest) = some (digits, left ++ rest) := by
  unfold wholeDigits? at read
  split at read
  · contradiction
  · next noZeros =>
      rw [wholeDigits?, digits?_append ends read]
      split
      · next second third fourth same =>
          simp only [Option.some.injEq, Prod.mk.injEq] at same
          exact absurd (by rw [read, same.1]) (noZeros _ _ _)
      · rfl

private theorem map_digits?_append {text left rest : List Char} {exponent : Int}
    (sign : Nat → Int) (ends : EndsNumber rest)
    (read : ((digits? text).map fun (digits, rest) =>
      (sign (digitsValue digits), rest)) = some (exponent, left)) :
    ((digits? (text ++ rest)).map fun (digits, rest) =>
      (sign (digitsValue digits), rest)) = some (exponent, left ++ rest) := by
  obtain ⟨⟨digits, found⟩, digitsRead, same⟩ := Option.map_eq_some_iff.mp read
  simp only [Prod.mk.injEq] at same
  rw [digits?_append ends digitsRead]
  simp [same.1, same.2]

theorem exponent?_mark {letter : Char} (text : List Char)
    (mark : letter = 'e' ∨ letter = 'E') :
    exponent? (letter :: text) = match text with
      | '-' :: text => (digits? text).map fun (digits, rest) =>
          (-(digitsValue digits : Int), rest)
      | '+' :: text => (digits? text).map fun (digits, rest) =>
          ((digitsValue digits : Int), rest)
      | text => (digits? text).map fun (digits, rest) =>
          ((digitsValue digits : Int), rest) := by
  unfold exponent?
  exact if_pos mark

theorem exponent?_append {text left rest : List Char} {exponent : Int}
    (ends : EndsNumber rest) (read : exponent? text = some (exponent, left)) :
    exponent? (text ++ rest) = some (exponent, left ++ rest) := by
  cases text with
  | nil =>
      simp only [exponent?, Option.some.injEq, Prod.mk.injEq] at read
      obtain ⟨rfl, rfl⟩ := read
      cases rest with
      | nil => rfl
      | cons c rest =>
          have ⟨_, _, notSmall, notLarge⟩ := ends c (by simp)
          simp [exponent?, notSmall, notLarge]
  | cons letter text =>
      by_cases mark : letter = 'e' ∨ letter = 'E'
      · rw [exponent?_mark text mark] at read
        rw [List.cons_append, exponent?_mark _ mark]
        split at read
        · exact map_digits?_append (fun value => -(value : Int)) ends read
        · exact map_digits?_append Nat.cast ends read
        · next notMinus notPlus =>
            have extended := map_digits?_append Nat.cast ends read
            cases text with
            | nil => simp [digits?] at read
            | cons c text =>
                rw [List.cons_append] at extended ⊢
                split
                · next same =>
                    injection same with head
                    exact absurd (by rw [head]) (notMinus text)
                · next same =>
                    injection same with head
                    exact absurd (by rw [head]) (notPlus text)
                · exact extended
      · simp only [exponent?, if_neg mark, Option.some.injEq, Prod.mk.injEq] at read
        obtain ⟨rfl, rfl⟩ := read
        simp only [List.cons_append, exponent?, if_neg mark]

/-- The fraction at the head of a text: none, or digits after a point. -/
def fraction? (text : List Char) : Option (List Char × List Char) :=
  match text with
  | '.' :: text => digits? text
  | _ => some ([], text)

private theorem fraction?_append {text digits left rest : List Char}
    (ends : EndsNumber rest) (read : fraction? text = some (digits, left)) :
    fraction? (text ++ rest) = some (digits, left ++ rest) := by
  unfold fraction? at read
  split at read
  · exact digits?_append ends read
  · next noPoint =>
      simp only [Option.some.injEq, Prod.mk.injEq] at read
      obtain ⟨rfl, rfl⟩ := read
      unfold fraction?
      split
      · next tail same =>
          cases text with
          | nil => exact absurd rfl (ends '.' (by simp_all)).2.1
          | cons c text =>
              injection same with head
              exact absurd (by rw [head]) (noPoint text)
      · rfl

theorem fraction?_none {text : List Char} (noPoint : ∀ rest, text = '.' :: rest → False) :
    fraction? text = some ([], text) := by
  unfold fraction?
  split
  · exact absurd rfl (noPoint _)
  · rfl

theorem readNumber_eq (negative : Bool) (text : List Char) :
    readNumber negative text = (wholeDigits? text).bind fun (whole, rest) =>
      (fraction? rest).bind fun (fraction, rest) =>
        let integral := fraction.isEmpty &&
          !(rest.head?.any fun c => c == 'e' || c == 'E')
        (exponent? rest).bind fun (exponent, rest) =>
          (numberOf? ⟨negative, whole, fraction, exponent⟩ integral).map fun number =>
            (number, rest) := by
  unfold readNumber
  cases wholeDigits? text with
  | none => rfl
  | some read =>
      obtain ⟨whole, rest⟩ := read
      simp only [Option.bind_eq_bind, Option.bind_some, Option.pure_def,
        Option.map_eq_bind, Function.comp_def]
      split
      · rfl
      · next noPoint =>
          rw [fraction?_none noPoint]
          rfl

private theorem head?_append_any {left rest : List Char} (ends : EndsNumber rest) :
    ((left ++ rest).head?.any fun c => c == 'e' || c == 'E') =
      (left.head?.any fun c => c == 'e' || c == 'E') := by
  cases left with
  | cons c left => rfl
  | nil =>
      cases rest with
      | nil => rfl
      | cons c rest =>
          have ⟨_, _, notSmall, notLarge⟩ := ends c (by simp)
          simp [notSmall, notLarge]

theorem readNumber_append {negative : Bool} {text left rest : List Char} {number : Number}
    (ends : EndsNumber rest) (read : readNumber negative text = some (number, left)) :
    readNumber negative (text ++ rest) = some (number, left ++ rest) := by
  rw [readNumber_eq] at read ⊢
  obtain ⟨⟨whole, afterWhole⟩, wholeRead, read⟩ := Option.bind_eq_some_iff.mp read
  obtain ⟨⟨digits, afterPoint⟩, fractionRead, read⟩ := Option.bind_eq_some_iff.mp read
  obtain ⟨⟨exponent, afterExponent⟩, exponentRead, read⟩ :=
    Option.bind_eq_some_iff.mp read
  obtain ⟨value, valueRead, same⟩ := Option.map_eq_some_iff.mp read
  simp only [Prod.mk.injEq] at same
  obtain ⟨rfl, rfl⟩ := same
  simp only [wholeDigits?_append ends wholeRead, fraction?_append ends fractionRead,
    exponent?_append ends exponentRead, head?_append_any ends, valueRead,
    Option.bind_some, Option.map_some]

private theorem exponent?_suffix {text left : List Char} {exponent : Int}
    (read : exponent? text = some (exponent, left)) : left <:+ text := by
  have digits {text : List Char} (sign : Nat → Int)
      (read : ((digits? text).map fun (digits, rest) =>
        (sign (digitsValue digits), rest)) = some (exponent, left)) : left <:+ text := by
    obtain ⟨⟨value, found⟩, digitsRead, same⟩ := Option.map_eq_some_iff.mp read
    simp only [Prod.mk.injEq] at same
    rw [← same.2]
    exact digits?_suffix digitsRead
  cases text with
  | nil =>
      simp only [exponent?, Option.some.injEq, Prod.mk.injEq] at read
      exact read.2 ▸ List.suffix_refl _
  | cons letter text =>
      by_cases mark : letter = 'e' ∨ letter = 'E'
      · rw [exponent?_mark text mark] at read
        apply List.IsSuffix.trans _ (List.suffix_cons letter text)
        split at read
        · exact (digits (fun value => -(value : Int)) read).trans (List.suffix_cons _ _)
        · exact (digits Nat.cast read).trans (List.suffix_cons _ _)
        · exact digits Nat.cast read
      · simp only [exponent?, if_neg mark, Option.some.injEq, Prod.mk.injEq] at read
        exact read.2 ▸ List.suffix_refl _

theorem readNumber_suffix {negative : Bool} {text left : List Char} {number : Number}
    (read : readNumber negative text = some (number, left)) : left <:+ text := by
  rw [readNumber_eq] at read
  obtain ⟨⟨whole, afterWhole⟩, wholeRead, read⟩ := Option.bind_eq_some_iff.mp read
  obtain ⟨⟨digits, afterPoint⟩, fractionRead, read⟩ := Option.bind_eq_some_iff.mp read
  obtain ⟨⟨exponent, afterExponent⟩, exponentRead, read⟩ :=
    Option.bind_eq_some_iff.mp read
  obtain ⟨value, valueRead, same⟩ := Option.map_eq_some_iff.mp read
  simp only [Prod.mk.injEq] at same
  rw [← same.2]
  have wholeSuffix : afterWhole <:+ text := by
    unfold wholeDigits? at wholeRead
    split at wholeRead
    · contradiction
    · exact digits?_suffix wholeRead
  have fractionSuffix : afterPoint <:+ afterWhole := by
    unfold fraction? at fractionRead
    split at fractionRead
    · exact (digits?_suffix fractionRead).trans (List.suffix_cons _ _)
    · simp only [Option.some.injEq, Prod.mk.injEq] at fractionRead
      exact fractionRead.2 ▸ List.suffix_refl _
  exact ((exponent?_suffix exponentRead).trans fractionSuffix).trans wholeSuffix

private theorem numberOf?_isWord {numeral : Binary64.Numeral} {integral : Bool}
    {number : Number} (read : numberOf? numeral integral = some number) :
    number.IsWord := by
  unfold numberOf? at read
  dsimp only at read
  split at read
  · next small =>
      simp only [Bool.and_eq_true, decide_eq_true_eq, UInt64.size] at small
      injection read with same
      rw [← same]
      simp only [Number.IsWord]
      omega
  · split at read
    · next small =>
        simp only [Bool.and_eq_true, decide_eq_true_eq, Nat.pow_eq] at small
        injection read with same
        rw [← same]
        simp only [Number.IsWord]
        omega
    · obtain ⟨value, _, same⟩ := Option.map_eq_some_iff.mp read
      rw [← same]
      trivial

theorem readNumber_isWord {negative : Bool} {text left : List Char} {number : Number}
    (read : readNumber negative text = some (number, left)) : number.IsWord := by
  rw [readNumber_eq] at read
  obtain ⟨⟨whole, afterWhole⟩, _, read⟩ := Option.bind_eq_some_iff.mp read
  obtain ⟨⟨digits, afterPoint⟩, _, read⟩ := Option.bind_eq_some_iff.mp read
  obtain ⟨⟨exponent, afterExponent⟩, _, read⟩ := Option.bind_eq_some_iff.mp read
  obtain ⟨value, valueRead, same⟩ := Option.map_eq_some_iff.mp read
  injection same with same
  exact same ▸ numberOf?_isWord valueRead

def readNumeral (c : Char) (text : List Char) : Option (Number × List Char) :=
  if c = '-' then readNumber true text else readNumber false (c :: text)

private theorem readNumeral_append {c : Char} {text left rest : List Char}
    {number : Number} (ends : EndsNumber rest)
    (read : readNumeral c text = some (number, left)) :
    readNumeral c (text ++ rest) = some (number, left ++ rest) := by
  unfold readNumeral at read ⊢
  split at read
  · next minus =>
      rw [if_pos minus]
      exact readNumber_append ends read
  · next notMinus =>
      rw [if_neg notMinus, ← List.cons_append]
      exact readNumber_append ends read

private theorem readNumeral_suffix {c : Char} {text left : List Char} {number : Number}
    (read : readNumeral c text = some (number, left)) : left <:+ c :: text := by
  unfold readNumeral at read
  split at read
  · exact (readNumber_suffix read).trans (List.suffix_cons c text)
  · exact readNumber_suffix read

theorem readValue_of_isNumeralChar (depth : Nat) {c : Char} (text : List Char)
    (numeral : isNumeralChar c = true) :
    readValue depth (c :: text) =
      (readNumeral c text).map fun (value, rest) => (.number value, rest) := by
  unfold readNumeral
  by_cases minus : c = '-'
  · subst minus
    cases depth with
    | zero => rfl
    | succ depth => rfl
  · have excluded : ∀ other ∈ ['n', 't', 'f', '"', '[', '\x7b'], c ≠ other := by
      intro other member same
      subst same
      simp only [List.mem_cons, List.not_mem_nil, or_false] at member
      rcases member with rfl | rfl | rfl | rfl | rfl | rfl
      all_goals exact absurd numeral (by decide)
    rw [if_neg minus, readValue]
    all_goals intros; simp_all

private theorem skipSpace_of_numeral {text : List Char}
    (numeral : ∀ c ∈ text, isNumeralChar c = true) : skipSpace text = text := by
  cases text with
  | nil => rfl
  | cons c text =>
      have notSpace : isSpace c = false := by
        cases space : isSpace c with
        | false => rfl
        | true =>
            simp only [isSpace, Bool.or_eq_true, beq_iff_eq] at space
            have numeralHead := numeral c (by simp)
            rcases space with ((rfl | rfl) | rfl) | rfl
            all_goals exact absurd numeralHead (by decide)
      simp [skipSpace, notSpace]

end Json

/-- Whether a number is read back from its text. -/
def Number.IsReadBack (number : Number) : Prop :=
  Json.parse? number.text = some (.number number)

namespace Json

theorem readValue_number {number : Number} (depth : Nat) {rest : List Char}
    (readBack : number.IsReadBack) (ends : EndsNumber rest) :
    readValue depth (number.text.toList ++ rest) = some (.number number, rest) := by
  have numeral := number.text_isNumeralText
  unfold IsNumeralText at numeral
  unfold Number.IsReadBack parse? at readBack
  rw [skipSpace_of_numeral numeral] at readBack
  generalize number.text.toList = text at numeral readBack ⊢
  cases text with
  | nil => simp [readValue] at readBack
  | cons c text =>
      have numeralHead := numeral c (by simp)
      rw [readValue_of_isNumeralChar _ text numeralHead] at readBack
      cases read : readNumeral c text with
      | none => simp [read] at readBack
      | some result =>
          obtain ⟨value, left⟩ := result
          have leftNumeral : ∀ c ∈ left, isNumeralChar c = true :=
            fun c member => numeral c ((readNumeral_suffix read).mem member)
          rw [read] at readBack
          simp only [Option.map_some, skipSpace_of_numeral leftNumeral] at readBack
          split at readBack
          · next empty =>
              rw [List.isEmpty_iff] at empty
              injection readBack with same
              injection same with same
              subst empty same
              rw [List.cons_append, readValue_of_isNumeralChar depth _ numeralHead,
                readNumeral_append ends read]
              rfl
          · contradiction

private theorem toDigits_head (number : Nat) (positive : 0 < number) :
    (Nat.toDigits 10 number).head? ≠ some '0' := by
  induction number using Nat.strongRecOn with
  | ind number ih =>
      by_cases small : number < 10
      · rw [Nat.toDigits_of_lt_base small]
        have digits : ∀ digit : Fin 10, 0 < digit.val → digit.val.digitChar ≠ '0' := by
          decide
        simpa using digits ⟨number, small⟩ positive
      · have leading := ih (number / 10) (by omega) (by omega)
        rw [Nat.toDigits_of_base_le (by decide) (Nat.not_lt.mp small)]
        cases digits : Nat.toDigits 10 (number / 10) with
        | nil => exact absurd digits Nat.toDigits_ne_nil
        | cons c rest => simpa [digits] using leading

private theorem wholeDigits?_toDigits (number : Nat) :
    wholeDigits? (Nat.toDigits 10 number) = some (Nat.toDigits 10 number, []) := by
  have allDigits : ∀ c ∈ Nat.toDigits 10 number, c.isDigit = true :=
    fun c member => Nat.isDigit_of_mem_toDigits (by decide) (by decide) member
  have read : digits? (Nat.toDigits 10 number) = some (Nat.toDigits 10 number, []) := by
    unfold digits?
    rw [List.takeWhile_eq_self_iff.mpr allDigits, List.dropWhile_eq_nil_iff.mpr allDigits]
    split
    · next empty => exact absurd empty Nat.toDigits_ne_nil
    · rfl
  unfold wholeDigits?
  rw [read]
  split
  · next second third fourth same =>
      injection same with same
      injection same with same
      cases number with
      | zero => simp at same
      | succ number =>
          exact absurd (by rw [same]; rfl) (toDigits_head (number + 1) (by omega))
  · rfl

private theorem readNumber_toDigits (negative : Bool) (number : Nat) :
    readNumber negative (Nat.toDigits 10 number) =
      (numberOf? ⟨negative, Nat.toDigits 10 number, [], 0⟩ true).map fun value =>
        (value, []) := by
  rw [readNumber_eq, wholeDigits?_toDigits]
  rfl

private theorem parse?_numeral {text : String} {c : Char} {rest : List Char}
    {number : Number} (numeral : IsNumeralText text) (chars : text.toList = c :: rest)
    (read : readNumeral c rest = some (number, [])) :
    parse? text = some (.number number) := by
  unfold IsNumeralText at numeral
  unfold parse?
  rw [skipSpace_of_numeral numeral, chars,
    readValue_of_isNumeralChar _ rest (numeral c (by simp [chars])), read]
  rfl

theorem isReadBack_integer {value : Int} (word : (Number.integer value).IsWord) :
    (Number.integer value).IsReadBack := by
  obtain ⟨lower, upper⟩ : -2 ^ 63 ≤ value ∧ value < 2 ^ 64 := word
  have numeral : IsNumeralText (toString value) := .of_toString value
  unfold Number.IsReadBack
  cases value with
  | ofNat number =>
      have chars : (toString (Int.ofNat number)).toList = Nat.toDigits 10 number :=
        Nat.toList_repr
      cases digits : Nat.toDigits 10 number with
      | nil => exact absurd digits Nat.toDigits_ne_nil
      | cons c rest =>
          apply parse?_numeral numeral (chars.trans digits)
          have notMinus : c ≠ '-' := by
            intro minus
            have digit : c.isDigit = true := Nat.isDigit_of_mem_toDigits (b := 10)
              (n := number) (by decide) (by decide) (by simp [digits])
            rw [minus] at digit
            exact absurd digit (by decide)
          rw [readNumeral, if_neg notMinus, ← digits, readNumber_toDigits]
          have fits : number < 2 ^ 64 := Int.ofNat_lt.mp upper
          simpa [numberOf?, digitsValue] using fits
  | negSucc number =>
      have chars : (toString (Int.negSucc number)).toList =
          '-' :: Nat.toDigits 10 (number + 1) := by
        change ("-" ++ (number + 1).repr).toList = _
        simp
      apply parse?_numeral numeral chars
      rw [readNumeral, if_pos rfl, readNumber_toDigits]
      have fits : number + 1 ≤ 2 ^ 63 := by omega
      simpa [numberOf?, digitsValue, Int.negSucc_eq] using fits

end Json

end AgentGraph
