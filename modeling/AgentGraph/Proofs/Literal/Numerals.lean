import AgentGraph.Proofs.Json.Numbers

/-!
Numbers in the program's text. A reader takes as much of a text as is a number; what JSON
writes for a number is one, so that it is read whole.
-/

namespace AgentGraph.Literal

open Binary64 Json

def IsDigits (digits : List Char) : Prop := digits ≠ [] ∧ ∀ c ∈ digits, c.isDigit = true

instance (digits : List Char) : Decidable (IsDigits digits) :=
  decidable_of_iff (digits ≠ [] ∧ digits.all Char.isDigit = true)
    (and_congr_right fun _ => List.all_eq_true)

def readSign : List Char → List Char × List Char
  | '-' :: rest => (['-'], rest)
  | text => ([], text)

def readFraction : List Char → Option (List Char × List Char)
  | '.' :: text => (digits? text).map fun (digits, rest) => ('.' :: digits, rest)
  | text => some ([], text)

def readExponent : List Char → Option (List Char × List Char)
  | 'e' :: '-' :: text => (digits? text).map fun (digits, rest) => ('e' :: '-' :: digits, rest)
  | 'e' :: '+' :: text => (digits? text).map fun (digits, rest) => ('e' :: '+' :: digits, rest)
  | 'e' :: text => (digits? text).map fun (digits, rest) => ('e' :: digits, rest)
  | text => some ([], text)

/-- The number at the head of a text: digits with a sign in front and a fraction and an
exponent behind where there are any. -/
def readNumeral (text : List Char) : Option (String × List Char) := do
  let (sign, rest) := readSign text
  let (whole, rest) ← digits? rest
  let (fraction, rest) ← readFraction rest
  let (exponent, rest) ← readExponent rest
  return (String.ofList (sign ++ whole ++ fraction ++ exponent), rest)

inductive IsFraction : List Char → Prop
  | none : IsFraction []
  | places {digits : List Char} (isDigits : IsDigits digits) : IsFraction ('.' :: digits)

inductive IsExponent : List Char → Prop
  | none : IsExponent []
  | negative {digits : List Char} (isDigits : IsDigits digits) : IsExponent ('e' :: '-' :: digits)
  | positive {digits : List Char} (isDigits : IsDigits digits) : IsExponent ('e' :: '+' :: digits)

/-- A sign, digits, a fraction and an exponent; only the digits have to be there. -/
inductive IsNumeral : List Char → Prop
  | parts {sign whole fraction exponent : List Char} (isSign : sign = [] ∨ sign = ['-'])
      (isWhole : IsDigits whole) (isFraction : IsFraction fraction)
      (isExponent : IsExponent exponent) :
      IsNumeral (sign ++ whole ++ fraction ++ exponent)

section Reading

variable {rest : List Char}

theorem digits?_isDigits {digits : List Char} (isDigits : IsDigits digits)
    (stops : ∀ c ∈ rest.head?, c.isDigit = false) :
    digits? (digits ++ rest) = some (digits, rest) := by
  have taken : (digits ++ rest).takeWhile Char.isDigit = digits := by
    rw [List.takeWhile_append_of_pos isDigits.2]
    cases rest with
    | nil => simp
    | cons c rest => simp [stops c rfl]
  have dropped : (digits ++ rest).dropWhile Char.isDigit = rest := by
    rw [List.dropWhile_append_of_pos isDigits.2]
    cases rest with
    | nil => rfl
    | cons c rest => simp [stops c rfl]
  rw [digits?, taken, dropped]
  split
  · exact absurd rfl isDigits.1
  · rfl

theorem readExponent_append {exponent : List Char} (isExponent : IsExponent exponent)
    (ends : EndsNumber rest) : readExponent (exponent ++ rest) = some (exponent, rest) := by
  have stops : ∀ c ∈ rest.head?, c.isDigit = false := fun c head => (ends c head).1
  cases isExponent with
  | negative isDigits =>
      simp only [List.cons_append, readExponent, digits?_isDigits isDigits stops, Option.map_some]
  | positive isDigits =>
      simp only [List.cons_append, readExponent, digits?_isDigits isDigits stops, Option.map_some]
  | none =>
      rw [List.nil_append]
      unfold readExponent
      split
      · exact absurd rfl (ends 'e' rfl).2.2.1
      · exact absurd rfl (ends 'e' rfl).2.2.1
      · exact absurd rfl (ends 'e' rfl).2.2.1
      · rfl

theorem readFraction_append {fraction : List Char} (isFraction : IsFraction fraction)
    (stops : ∀ c ∈ rest.head?, c.isDigit = false ∧ c ≠ '.') :
    readFraction (fraction ++ rest) = some (fraction, rest) := by
  cases isFraction with
  | places isDigits =>
      simp only [List.cons_append, readFraction,
        digits?_isDigits isDigits fun c head => (stops c head).1, Option.map_some]
  | none =>
      rw [List.nil_append]
      unfold readFraction
      split
      · exact absurd rfl (stops '.' rfl).2
      · rfl

/-- A number is read to its end where the text after it does not go on with it. -/
theorem readNumeral_append {text : List Char} (isNumeral : IsNumeral text)
    (ends : EndsNumber rest) : readNumeral (text ++ rest) = some (String.ofList text, rest) := by
  cases isNumeral with
  | @parts sign whole fraction exponent isSign isWhole isFraction isExponent =>
      have afterFraction : ∀ c ∈ (exponent ++ rest).head?, c.isDigit = false ∧ c ≠ '.' := by
        intro c head
        cases isExponent with
        | none => exact ⟨(ends c head).1, (ends c head).2.1⟩
        | negative | positive =>
            obtain rfl : 'e' = c := Option.some.inj head
            decide
      have afterWhole : ∀ c ∈ (fraction ++ (exponent ++ rest)).head?, c.isDigit = false := by
        intro c head
        cases isFraction with
        | none => exact (afterFraction c head).1
        | places =>
            obtain rfl : '.' = c := Option.some.inj head
            decide
      have signed : readSign (sign ++ (whole ++ (fraction ++ (exponent ++ rest)))) =
          (sign, whole ++ (fraction ++ (exponent ++ rest))) := by
        rcases isSign with rfl | rfl
        · obtain ⟨some_digit, digits⟩ := isWhole
          cases whole with
          | nil => contradiction
          | cons c whole =>
              rw [List.nil_append, List.cons_append]
              unfold readSign
              split
              · next same =>
                  injection same with head
                  subst head
                  exact absurd (digits '-' List.mem_cons_self) (by decide)
              · rfl
        · rfl
      simp only [List.append_assoc, readNumeral, signed, digits?_isDigits isWhole afterWhole,
        readFraction_append isFraction afterFraction, readExponent_append isExponent ends,
        Option.bind_eq_bind, Option.bind_some, Option.pure_def]

end Reading

theorem isDigits_repr (number : Nat) : IsDigits number.repr.toList := by
  rw [Nat.toList_repr]
  exact ⟨Nat.toDigits_ne_nil, fun c inside =>
    Nat.isDigit_of_mem_toDigits (by decide) (by decide) inside⟩

theorem isDigits_zeros (count : Nat) : ∀ c ∈ (zeros count).toList, c.isDigit = true := by
  intro c inside
  rw [zeros, String.toList_ofList] at inside
  rw [List.eq_of_mem_replicate inside]
  decide

theorem positionalText_isNumeral {sign : List Char} (isSign : sign = [] ∨ sign = ['-'])
    (keepPoint : Bool) (decimal : Decimal) :
    IsNumeral (sign ++ (positionalText keepPoint decimal).toList) := by
  obtain ⟨some_digit, digits⟩ := isDigits_repr decimal.digits
  unfold positionalText
  dsimp only
  split
  · have whole :
        IsDigits (decimal.digits.repr.toList ++ (zeros decimal.exponent.toNat).toList) := by
      refine ⟨List.append_ne_nil_of_left_ne_nil some_digit _, fun c inside => ?_⟩
      rcases List.mem_append.mp inside with inside | inside
      · exact digits c inside
      · exact isDigits_zeros _ c inside
    cases keepPoint with
    | true =>
        have point : IsFraction ['.', '0'] := .places (by decide)
        simpa using IsNumeral.parts isSign whole point .none
    | false => simpa using IsNumeral.parts isSign whole .none .none
  · next below =>
      generalize count_eq : (-decimal.exponent).toNat = count
      have padded : ∀ c ∈ (zeros (count + 1 - decimal.digits.repr.length) ++
          decimal.digits.repr).toList, c.isDigit = true := by
        intro c inside
        rw [String.toList_append] at inside
        rcases List.mem_append.mp inside with inside | inside
        · exact isDigits_zeros _ c inside
        · exact digits c inside
      have length : count < (zeros (count + 1 - decimal.digits.repr.length) ++
          decimal.digits.repr).toList.length := by
        rw [String.toList_append, List.length_append, zeros, String.toList_ofList,
          List.length_replicate, String.length_toList]
        omega
      simp only [String.toList_append, String.toList_ofList, List.splitAt_eq]
      rw [← String.length_toList, ← String.toList_append]
      generalize (zeros (count + 1 - decimal.digits.repr.length) ++ decimal.digits.repr).toList =
        text at padded length
      have whole : IsDigits (text.take (text.length - count)) := by
        refine ⟨?_, fun c inside => padded c (List.mem_of_mem_take inside)⟩
        rw [← List.length_pos_iff, List.length_take]
        omega
      have places : IsDigits (text.drop (text.length - count)) := by
        refine ⟨?_, fun c inside => padded c (List.mem_of_mem_drop inside)⟩
        rw [← List.length_pos_iff, List.length_drop]
        omega
      have parts := IsNumeral.parts isSign whole (.places places) .none
      simpa using parts

theorem exponentText_isNumeral {sign : List Char} (isSign : sign = [] ∨ sign = ['-'])
    (decimal : Decimal) : IsNumeral (sign ++ (exponentText decimal).toList) := by
  have power (leading : Int) : IsExponent
      ("e" ++ (if leading < 0 then "-" else "+") ++ leading.natAbs.repr).toList := by
    split
    · simpa using IsExponent.negative (isDigits_repr leading.natAbs)
    · simpa using IsExponent.positive (isDigits_repr leading.natAbs)
  have isDigits := isDigits_repr decimal.digits
  unfold exponentText
  dsimp only
  generalize decimal.exponent + decimal.digits.repr.length - 1 = leading
  have isExponent := power leading
  split
  · next first second rest chars =>
      rw [chars] at isDigits
      have whole : IsDigits [first] :=
        ⟨by simp, fun c inside => isDigits.2 c (by simp_all)⟩
      have places : IsDigits (second :: rest) :=
        ⟨by simp, fun c inside => isDigits.2 c (List.mem_cons_of_mem _ inside)⟩
      simpa using IsNumeral.parts isSign whole (.places places) isExponent
  · simpa using IsNumeral.parts isSign isDigits .none isExponent

theorem decimalText_isNumeral {sign : List Char} (isSign : sign = [] ∨ sign = ['-'])
    (layout : Layout) (decimal : Decimal) :
    IsNumeral (sign ++ (layout.decimalText decimal).toList) := by
  unfold Layout.decimalText
  dsimp only
  split
  · exact positionalText_isNumeral isSign _ _
  · split
    · exact positionalText_isNumeral isSign _ _
    · exact exponentText_isNumeral isSign _

theorem finiteText_isNumeral (layout : Layout) (value : Finite) :
    IsNumeral (layout.finiteText value).toList := by
  have isSign : (if value.negative then "-" else "").toList = [] ∨
      (if value.negative then "-" else "").toList = ['-'] := by
    cases value.negative with
    | true => exact .inr (by decide)
    | false => exact .inl (by decide)
  unfold Layout.finiteText
  dsimp only
  generalize (if value.negative then "-" else "") = sign at isSign ⊢
  by_cases isZero : value.isZero = true
  · have zero : IsDigits ['0'] := by decide
    rw [if_pos isZero, String.toList_append]
    cases layout.keepPoint with
    | true => simpa using IsNumeral.parts isSign zero (.places zero) .none
    | false => simpa using IsNumeral.parts isSign zero .none .none
  · rw [if_neg isZero, String.toList_append]
    exact decimalText_isNumeral isSign layout _

/-- What JSON writes for a number is a number. -/
theorem numberText_isNumeral (number : Number) : IsNumeral number.text.toList := by
  cases number with
  | real value => exact finiteText_isNumeral Number.layout value
  | integer value =>
      cases value with
      | ofNat number =>
          have parts := IsNumeral.parts (.inl rfl) (isDigits_repr number) .none .none
          rw [List.nil_append, List.append_nil, List.append_nil] at parts
          exact parts
      | negSucc number =>
          have text : (Number.integer (.negSucc number)).text.toList =
              ['-'] ++ (number + 1).repr.toList := String.toList_append ..
          have parts := IsNumeral.parts (.inr rfl) (isDigits_repr (number + 1)) .none .none
          rw [List.append_nil, List.append_nil] at parts
          rw [text]
          exact parts

end AgentGraph.Literal
