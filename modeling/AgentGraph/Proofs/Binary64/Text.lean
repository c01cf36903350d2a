import AgentGraph.Json.Printer
import AgentGraph.Text.Blank

/-!
The characters that numbers are written with.
-/

namespace AgentGraph

/-- A digit, a point, a sign or the mark of an exponent. -/
def isNumeralChar (c : Char) : Bool :=
  c.isDigit || c == '.' || c == 'e' || c == '+' || c == '-'

/-- A text that holds nothing but characters of numbers. -/
def IsNumeralText (text : String) : Prop :=
  ∀ c ∈ text.toList, isNumeralChar c = true

instance (text : String) : Decidable (IsNumeralText text) :=
  decidable_of_iff (text.toList.all isNumeralChar = true) List.all_eq_true

theorem toDigits_injective {first second : Nat}
    (same : Nat.toDigits 10 first = Nat.toDigits 10 second) : first = second := by
  have values := congrArg (fun digits => Nat.ofDigitChars 10 digits 0) same
  simpa using values

namespace IsNumeralText

theorem append {first second : String} (left : IsNumeralText first)
    (right : IsNumeralText second) : IsNumeralText (first ++ second) := by
  intro c member
  rw [String.toList_append, List.mem_append] at member
  cases member with
  | inl member => exact left c member
  | inr member => exact right c member

theorem repr (number : Nat) : IsNumeralText number.repr := by
  intro c member
  rw [Nat.toList_repr] at member
  have digit : c.isDigit = true :=
    Nat.isDigit_of_mem_toDigits (by decide) (by decide) member
  simp [isNumeralChar, digit]

theorem ofList {chars : List Char} {text : String} (numeral : IsNumeralText text)
    (subset : ∀ c ∈ chars, c ∈ text.toList) : IsNumeralText (String.ofList chars) := by
  intro c member
  rw [String.toList_ofList] at member
  exact numeral c (subset c member)

theorem of_toString (value : Int) : IsNumeralText (toString value) := by
  cases value with
  | ofNat number => exact repr number
  | negSucc number =>
      have sign : IsNumeralText "-" := by decide
      exact sign.append (repr (number + 1))

end IsNumeralText

namespace Binary64

theorem zeros_isNumeralText (count : Nat) : IsNumeralText (zeros count) := by
  intro c member
  rw [zeros, String.toList_ofList] at member
  rw [List.eq_of_mem_replicate member]
  decide

theorem positionalText_isNumeralText (keepPoint : Bool) (decimal : Decimal) :
    IsNumeralText (positionalText keepPoint decimal) := by
  have point : IsNumeralText "." := by decide
  have kept : IsNumeralText (if keepPoint then ".0" else "") := by
    cases keepPoint <;> decide
  have padded (count : Nat) : IsNumeralText (zeros count ++ decimal.digits.repr) :=
    (zeros_isNumeralText count).append (.repr _)
  unfold positionalText
  dsimp only
  split
  · exact ((IsNumeralText.repr _).append (zeros_isNumeralText _)).append kept
  · refine (IsNumeralText.append ?_ point).append ?_
    · apply IsNumeralText.ofList (padded _)
      intro c member
      rw [List.splitAt_eq] at member
      exact List.mem_of_mem_take member
    · apply IsNumeralText.ofList (padded _)
      intro c member
      rw [List.splitAt_eq] at member
      exact List.mem_of_mem_drop member

theorem exponentText_isNumeralText (decimal : Decimal) :
    IsNumeralText (exponentText decimal) := by
  have letter : IsNumeralText "e" := by decide
  have sign (leading : Int) : IsNumeralText (if leading < 0 then "-" else "+") := by
    split <;> decide
  unfold exponentText
  refine ((IsNumeralText.append ?_ letter).append (sign _)).append (.repr _)
  split
  · next first second rest digits =>
      intro c member
      rw [String.toList_ofList] at member
      have inDigits := IsNumeralText.repr decimal.digits
      unfold IsNumeralText at inDigits
      rw [digits] at inDigits
      simp only [List.mem_cons] at member
      rcases member with rfl | rfl | rfl | member
      · exact inDigits c (by simp)
      · decide
      · exact inDigits c (by simp)
      · exact inDigits c (by simp [member])
  · exact .repr _

theorem Layout.decimalText_isNumeralText (layout : Layout) (decimal : Decimal) :
    IsNumeralText (layout.decimalText decimal) := by
  unfold Layout.decimalText
  dsimp only
  split
  · exact positionalText_isNumeralText _ _
  · split
    · exact positionalText_isNumeralText _ _
    · exact exponentText_isNumeralText _

theorem Layout.finiteText_isNumeralText (layout : Layout) (value : Finite) :
    IsNumeralText (layout.finiteText value) := by
  have sign : IsNumeralText (if value.negative then "-" else "") := by
    split <;> decide
  have zero : IsNumeralText (if layout.keepPoint then "0.0" else "0") := by
    split <;> decide
  unfold Layout.finiteText
  dsimp only
  split
  · exact sign.append zero
  · exact sign.append (layout.decimalText_isNumeralText _)

theorem Layout.finiteText_ne_empty (layout : Layout) (value : Finite) :
    layout.finiteText value ≠ "" := by
  have digits (number : Nat) : number.repr ≠ "" := by
    intro empty
    have chars := congrArg String.toList empty
    rw [Nat.toList_repr] at chars
    exact Nat.toDigits_ne_nil chars
  have positional (keepPoint : Bool) (decimal : Decimal) :
      positionalText keepPoint decimal ≠ "" := by
    unfold positionalText
    dsimp only
    split
    · simp [digits]
    · simp
  have exponent (decimal : Decimal) : exponentText decimal ≠ "" := by
    simp [exponentText]
  have decimal : layout.decimalText (shortest layout.tie value.rank.val) ≠ "" := by
    unfold Layout.decimalText
    dsimp only
    split
    · exact positional _ _
    · split
      · exact positional _ _
      · exact exponent _
  have zero : (if layout.keepPoint then "0.0" else "0") ≠ "" := by
    split
    · decide
    · decide
  unfold Layout.finiteText
  dsimp only
  split
  · exact fun empty => zero (String.append_eq_empty_iff.mp empty).2
  · exact fun empty => decimal (String.append_eq_empty_iff.mp empty).2

end Binary64

theorem Number.text_isNumeralText (number : Number) : IsNumeralText number.text := by
  cases number with
  | integer value => exact .of_toString value
  | real value => exact Number.layout.finiteText_isNumeralText value

theorem Number.text_ne_empty (number : Number) : number.text ≠ "" := by
  cases number with
  | real value => exact Number.layout.finiteText_ne_empty value
  | integer value =>
      intro empty
      have chars := congrArg String.toList empty
      cases value with
      | ofNat number =>
          rw [show (Number.integer (.ofNat number)).text = number.repr from rfl,
            Nat.toList_repr] at chars
          exact Nat.toDigits_ne_nil chars
      | negSucc number =>
          rw [show (Number.integer (.negSucc number)).text = "-" ++ (number + 1).repr from rfl]
            at chars
          simp at chars

theorem isBlank_of_isNumeralChar {c : Char} (numeral : isNumeralChar c = true) :
    Text.isBlank c = false := by
  simp only [isNumeralChar, Bool.or_eq_true, beq_iff_eq] at numeral
  rcases numeral with (((digit | rfl) | rfl) | rfl) | rfl
  · simp only [Char.isDigit, ge_iff_le, Bool.and_eq_true, decide_eq_true_eq] at digit
    have bounds : 48 ≤ c.toNat ∧ c.toNat ≤ 57 := digit
    unfold Text.isBlank
    simp only [Bool.or_eq_false_iff, Bool.and_eq_false_imp, decide_eq_true_eq,
      decide_eq_false_iff_not, beq_eq_false_iff_ne]
    omega
  all_goals decide

theorem Number.isBlankText_text (number : Number) : Text.isBlankText number.text = false := by
  have numeral := number.text_isNumeralText
  unfold IsNumeralText at numeral
  cases chars : number.text.toList with
  | nil => exact absurd (String.toList_eq_nil_iff.mp chars) number.text_ne_empty
  | cons c rest =>
      have shown := isBlank_of_isNumeralChar (numeral c (by simp [chars]))
      simp [Text.isBlankText, chars, shown]

end AgentGraph
