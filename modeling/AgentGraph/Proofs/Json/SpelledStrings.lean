import AgentGraph.Proofs.Json.Strings

/-!
The spellings of a string. What stands before the closing quote is told a character at a time:
as itself, behind a backslash, or by its code, in two halves where it has more than sixteen bits.
The reader takes every spelling, and nothing else.
-/

namespace AgentGraph.Json

/-- Whether a text, up to but without the closing quote, spells the characters of a string. -/
inductive SpellsCharacters : (characters text : List Char) → Prop
  | nil : SpellsCharacters [] []
  | plain {c : Char} {characters text : List Char} (notQuote : c ≠ '"') (notBackslash : c ≠ '\\')
      (visible : 0x20 ≤ c.toNat) (spelled : SpellsCharacters characters text) :
      SpellsCharacters (c :: characters) (c :: text)
  | escape {letter c : Char} {characters text : List Char}
      (simple : simpleEscape? letter = some c) (spelled : SpellsCharacters characters text) :
      SpellsCharacters (c :: characters) ('\\' :: letter :: text)
  | unit {a b c d : Char} {unit : Nat} {characters text : List Char}
      (coded : unit? a b c d = some unit) (whole : ¬(0xD800 ≤ unit ∧ unit ≤ 0xDFFF))
      (spelled : SpellsCharacters characters text) :
      SpellsCharacters (Char.ofNat unit :: characters) ('\\' :: 'u' :: a :: b :: c :: d :: text)
  | pair {a b c d e f g h pair : Char} {high low : Nat} {characters text : List Char}
      (coded : unit? a b c d = some high) (isHigh : 0xD800 ≤ high ∧ high ≤ 0xDBFF)
      (lowCoded : unit? e f g h = some low) (paired : surrogatePair? high low = some pair)
      (spelled : SpellsCharacters characters text) :
      SpellsCharacters (pair :: characters)
        ('\\' :: 'u' :: a :: b :: c :: d :: '\\' :: 'u' :: e :: f :: g :: h :: text)

theorem readCharacters_spelled {characters text : List Char}
    (spelled : SpellsCharacters characters text) (rest : List Char) :
    readCharacters (text ++ '"' :: rest) = some (characters, rest) := by
  induction spelled with
  | nil => rw [List.nil_append, readCharacters]
  | plain notQuote notBackslash visible _ ih =>
      rw [List.cons_append, readCharacters_plain _ notQuote notBackslash visible, ih]
      rfl
  | @escape letter c _ _ simple _ ih =>
      have notUnit : letter ≠ 'u' := by
        rintro rfl
        contradiction
      rw [List.cons_append, List.cons_append, readCharacters_simple _ notUnit simple, ih]
      rfl
  | @unit _ _ _ _ unit _ _ coded whole _ ih =>
      have notHigh : ¬(0xD800 ≤ unit ∧ unit ≤ 0xDBFF) := by omega
      have notLow : ¬(0xDC00 ≤ unit ∧ unit ≤ 0xDFFF) := by omega
      simp only [List.cons_append]
      rw [readCharacters, coded]
      simp only [if_neg notHigh, if_neg notLow, ih]
      rfl
  | pair coded isHigh lowCoded paired _ ih =>
      simp only [List.cons_append]
      rw [readCharacters, coded]
      simp only [if_pos isHigh, lowCoded, Option.bind_some, paired, ih]
      rfl

theorem followedBy_eq_some {c : Char} {read : Option (List Char × List Char)}
    {characters rest : List Char} (followed : followedBy c read = some (characters, rest)) :
    ∃ others, characters = c :: others ∧ read = some (others, rest) := by
  cases read with
  | none => contradiction
  | some found =>
      injection followed with same
      injection same with first second
      exact ⟨found.1, first.symm, congrArg some (Prod.ext rfl second)⟩

/-- What is read after the spelling of one character goes on with the spelling of the others. -/
theorem spelled_of_followedBy {c : Char} (head : List Char) {text characters rest : List Char}
    (others : ∀ {characters : List Char}, readCharacters text = some (characters, rest) →
      ∃ spelling, text = spelling ++ '"' :: rest ∧ SpellsCharacters characters spelling)
    (read : followedBy c (readCharacters text) = some (characters, rest))
    (spells : ∀ {characters spelling : List Char}, SpellsCharacters characters spelling →
      SpellsCharacters (c :: characters) (head ++ spelling)) :
    ∃ spelling, head ++ text = spelling ++ '"' :: rest ∧ SpellsCharacters characters spelling := by
  obtain ⟨characters, rfl, after⟩ := followedBy_eq_some read
  obtain ⟨spelling, rfl, spelled⟩ := others after
  exact ⟨head ++ spelling, (List.append_assoc ..).symm, spells spelled⟩

theorem spelled_of_readCharacters {text characters rest : List Char}
    (read : readCharacters text = some (characters, rest)) :
    ∃ spelling, text = spelling ++ '"' :: rest ∧ SpellsCharacters characters spelling := by
  fun_induction readCharacters text generalizing characters with
  | case1 => contradiction
  | case2 after =>
      injection read with same
      injection same with first second
      exact ⟨[], by rw [second, List.nil_append], first ▸ .nil⟩
  | case3 | case4 | case6 | case7 | case9 | case11 => contradiction
  | case5 a b c d high coded isHigh e f g h after pair paired others =>
      obtain ⟨low, lowCoded, paired⟩ := Option.bind_eq_some_iff.mp paired
      exact spelled_of_followedBy ['\\', 'u', a, b, c, d, '\\', 'u', e, f, g, h] others read
        (.pair coded isHigh lowCoded paired ·)
  | case8 a b c d after unit coded notHigh notLow others =>
      exact spelled_of_followedBy ['\\', 'u', a, b, c, d] others read
        (.unit coded (by omega) ·)
  | case10 letter after _ c simple others =>
      exact spelled_of_followedBy ['\\', letter] others read (.escape simple ·)
  | case12 c after notQuote _ _ shown others =>
      rw [not_or] at shown
      exact spelled_of_followedBy [c] others read (.plain notQuote shown.1 (by omega) ·)

theorem spelled_of_readString {text rest : List Char} {value : String}
    (read : readString text = some (value, rest)) :
    ∃ spelling, text = spelling ++ '"' :: rest ∧ SpellsCharacters value.toList spelling := by
  obtain ⟨⟨characters, left⟩, charactersRead, same⟩ := Option.map_eq_some_iff.mp read
  injection same with first second
  subst first second
  rw [String.toList_ofList]
  exact spelled_of_readCharacters charactersRead

end AgentGraph.Json
