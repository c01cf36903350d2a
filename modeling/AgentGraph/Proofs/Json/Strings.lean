import AgentGraph.Json.Parser
import AgentGraph.Json.Printer

/-!
Texts in JSON. Reading what `Json.quoted` writes gives the text back, whatever
follows the closing quotation mark.
-/

namespace AgentGraph.Json

theorem readCharacters_plain {c : Char} (rest : List Char)
    (notQuote : c ≠ '"') (notEscape : c ≠ '\\') (visible : 0x20 ≤ c.toNat) :
    readCharacters (c :: rest) = followedBy c (readCharacters rest) := by
  rw [readCharacters]
  · simp [notEscape, Nat.not_lt.mpr visible]
  · exact notQuote
  · intro a b d e tail escape
    exact absurd escape notEscape
  · intro d tail escape
    exact absurd escape notEscape

theorem readCharacters_simple {c escaped : Char} (rest : List Char)
    (notUnit : c ≠ 'u') (simple : simpleEscape? c = some escaped) :
    readCharacters ('\\' :: c :: rest) = followedBy escaped (readCharacters rest) := by
  rw [readCharacters]
  · rw [simple]
  · intro a b d e tail unit
    exact absurd unit notUnit

def unitDigits (c : Char) : Option Nat :=
  match hexDigits 4 c.toNat with
  | [a, b, d, e] => unit? a b d e
  | _ => none

theorem unitDigits_eq {c : Char} (hidden : c.toNat < 0x20) :
    unitDigits c = some c.toNat := by
  have units : ∀ code : Fin 32,
      unitDigits (Char.ofNat code.val) = some (Char.ofNat code.val).toNat := by
    decide
  simpa using units ⟨c.toNat, hidden⟩

/-- A control character without an escape of its own is written as four digits. -/
theorem readCharacters_unit {c : Char} (rest : List Char) (hidden : c.toNat < 0x20) :
    readCharacters ('\\' :: 'u' :: hexDigits 4 c.toNat ++ rest) =
      followedBy c (readCharacters rest) := by
  have value := unitDigits_eq hidden
  unfold unitDigits at value
  split at value
  · next a b d e digits =>
      rw [digits]
      simp only [List.cons_append, List.nil_append]
      rw [readCharacters, value]
      have notHigh : ¬(0xD800 ≤ c.toNat ∧ c.toNat ≤ 0xDBFF) := by omega
      have notLow : ¬(0xDC00 ≤ c.toNat ∧ c.toNat ≤ 0xDFFF) := by omega
      simp only [notHigh, notLow, if_false, Char.ofNat_toNat]
  · contradiction

theorem readCharacters_escapedChar (c : Char) (rest : List Char) :
    readCharacters (escapedChar c ++ rest) = followedBy c (readCharacters rest) := by
  by_cases quote : c = '"'
  · subst quote
    exact readCharacters_simple rest (by decide) rfl
  by_cases escape : c = '\\'
  · subst escape
    exact readCharacters_simple rest (by decide) rfl
  by_cases backspace : c = '\x08'
  · subst backspace
    exact readCharacters_simple rest (by decide) rfl
  by_cases feed : c = '\x0c'
  · subst feed
    exact readCharacters_simple rest (by decide) rfl
  by_cases line : c = '\n'
  · subst line
    exact readCharacters_simple rest (by decide) rfl
  by_cases carriage : c = '\r'
  · subst carriage
    exact readCharacters_simple rest (by decide) rfl
  by_cases tab : c = '\t'
  · subst tab
    exact readCharacters_simple rest (by decide) rfl
  simp only [escapedChar, quote, escape, backspace, feed, line, carriage, tab, if_false]
  split
  · next hidden => exact readCharacters_unit rest hidden
  · next visible =>
      exact readCharacters_plain rest quote escape (Nat.not_lt.mp visible)

theorem readCharacters_flatMap (text rest : List Char) :
    readCharacters (text.flatMap escapedChar ++ '"' :: rest) = some (text, rest) := by
  induction text with
  | nil => rw [List.flatMap_nil, List.nil_append, readCharacters]
  | cons c text ih =>
      rw [List.flatMap_cons, List.append_assoc, readCharacters_escapedChar, ih]
      rfl

theorem readString_escaped (text : String) (rest : List Char) :
    readString (text.toList.flatMap escapedChar ++ '"' :: rest) = some (text, rest) := by
  rw [readString, readCharacters_flatMap]
  simp

theorem toList_quoted (text : String) :
    (quoted text).toList = '"' :: (text.toList.flatMap escapedChar ++ ['"']) := by
  simp [quoted]

end AgentGraph.Json
