import AgentGraph.Literal.Basic
import Mathlib.Data.List.Forall2

/-!
A program's text with every literal emptied. Two texts are alike where they differ in
nothing but the contents of literals, and where literals end within them.
-/

namespace AgentGraph.Literal

/-- Where a reader of a program's text stands. -/
inductive Stand where
  | code
  | literal
  /-- After a backslash in a literal. -/
  | escape
deriving DecidableEq

def Stand.next : Stand → Char → Stand
  | .code, c => if c = '"' then .literal else .code
  | .literal, c => if c = '"' then .code else if c = '\\' then .escape else .literal
  | .escape, _ => .literal

/-- Whether a character stays where the contents of literals are left out. -/
def Stand.keeps : Stand → Char → Bool
  | .code, _ => true
  | .literal, c => c == '"'
  | .escape, _ => false

def Stand.after (stand : Stand) (text : List Char) : Stand := text.foldl Stand.next stand

def masked : Stand → List Char → List Char
  | _, [] => []
  | stand, c :: rest =>
      if stand.keeps c then c :: masked (stand.next c) rest else masked (stand.next c) rest

/-- The text with `""` for every literal. -/
def mask (text : String) : String := String.ofList (masked .code text.toList)

theorem masked_append (first second : List Char) : ∀ stand : Stand,
    masked stand (first ++ second) = masked stand first ++ masked (stand.after first) second := by
  induction first with
  | nil => exact fun _ => rfl
  | cons c rest ih =>
      intro stand
      simp only [List.cons_append, masked, ih]
      split <;> rfl

theorem after_append (stand : Stand) (first second : List Char) :
    stand.after (first ++ second) = (stand.after first).after second :=
  List.foldl_append

/-- Whether every literal of the text ends within it. -/
def Whole (text : String) : Prop := Stand.code.after text.toList = .code

instance (text : String) : Decidable (Whole text) :=
  inferInstanceAs (Decidable (Stand.code.after text.toList = .code))

structure Alike (first second : String) : Prop where
  left : Whole first
  right : Whole second
  same : masked .code first.toList = masked .code second.toList

theorem Alike.mask {first second : String} (alike : Alike first second) :
    mask first = mask second :=
  congrArg String.ofList alike.same

theorem Whole.alike {text : String} (whole : Whole text) : Alike text text :=
  ⟨whole, whole, rfl⟩

theorem Whole.append {first second : String} (left : Whole first) (right : Whole second) :
    Whole (first ++ second) := by
  unfold Whole at left right ⊢
  rw [String.toList_append, after_append, left, right]

theorem Whole.mask_append {first : String} (whole : Whole first) (second : String) :
    masked .code (first ++ second).toList =
      masked .code first.toList ++ masked .code second.toList := by
  unfold Whole at whole
  rw [String.toList_append, masked_append, whole]

theorem Alike.append {first second other another : String} (alike : Alike first other)
    (later : Alike second another) : Alike (first ++ second) (other ++ another) where
  left := alike.left.append later.left
  right := alike.right.append later.right
  same := by
    rw [alike.left.mask_append, alike.right.mask_append, alike.same, later.same]

theorem Alike.intercalate {separator : String} (whole : Whole separator)
    {texts others : List String} (alike : List.Forall₂ Alike texts others) :
    Alike (separator.intercalate texts) (separator.intercalate others) := by
  induction alike with
  | nil =>
      rw [String.intercalate_nil]
      exact Whole.alike (by decide)
  | @cons text other texts others head tail ih =>
      cases tail with
      | nil =>
          rw [String.intercalate_singleton, String.intercalate_singleton]
          exact head
      | @cons second another texts others next tail =>
          rw [String.intercalate_cons_cons, String.intercalate_cons_cons]
          exact (head.append whole.alike).append ih

theorem Whole.intercalate {separator : String} (whole : Whole separator) {texts : List String}
    (wholes : ∀ text ∈ texts, Whole text) : Whole (separator.intercalate texts) := by
  have same : List.Forall₂ Alike texts texts :=
    List.forall₂_same.mpr fun text inside => (wholes text inside).alike
  exact (Alike.intercalate whole same).left

/-- Whether no literal begins in the text. -/
def Plain (text : String) : Prop := '"' ∉ text.toList

instance (text : String) : Decidable (Plain text) :=
  inferInstanceAs (Decidable ('"' ∉ text.toList))

theorem Plain.whole {text : String} (plain : Plain text) : Whole text := by
  have stays : ∀ chars : List Char, '"' ∉ chars → Stand.code.after chars = .code := by
    intro chars
    induction chars with
    | nil => exact fun _ => rfl
    | cons c rest ih =>
        intro plain
        rw [List.mem_cons, not_or] at plain
        have next : Stand.code.next c = .code := if_neg fun same => plain.1 same.symm
        rw [Stand.after, List.foldl_cons, next]
        exact ih plain.2
  exact stays text.toList plain

theorem Plain.append {first second : String} (left : Plain first) (right : Plain second) :
    Plain (first ++ second) := by
  unfold Plain at left right ⊢
  rw [String.toList_append, List.mem_append]
  exact fun inside => inside.elim left right

theorem Plain.intercalate {separator : String} (plain : Plain separator) {texts : List String}
    (plains : ∀ text ∈ texts, Plain text) : Plain (separator.intercalate texts) := by
  induction texts with
  | nil => exact List.not_mem_nil
  | cons text texts ih =>
      obtain ⟨head, tail⟩ := List.forall_mem_cons.mp plains
      cases texts with
      | nil =>
          rw [String.intercalate_singleton]
          exact head
      | cons next texts =>
          rw [String.intercalate_cons_cons]
          exact (head.append plain).append (ih tail)

private theorem digitChar_ne (digit : Nat) :
    Nat.digitChar digit ≠ '"' ∧ Nat.digitChar digit ≠ '\\' := by
  by_cases small : digit < 16
  · have all : ∀ digit < 16, Nat.digitChar digit ≠ '"' ∧ Nat.digitChar digit ≠ '\\' := by
      decide
    exact all digit small
  · have star : Nat.digitChar digit = '*' := by
      unfold Nat.digitChar
      repeat rw [if_neg (by omega)]
    rw [star]
    decide

/-- An escaped character neither ends the literal nor shows where its contents are left out. -/
theorem escapedChar_inside (c : Char) :
    Stand.literal.after (escapedChar c) = .literal ∧ masked .literal (escapedChar c) = [] := by
  unfold escapedChar
  split
  · decide
  · next notQuote =>
      split
      · decide
      · next notBackslash =>
          split
          · decide
          · split
            · decide
            · split
              · decide
              · split
                · simp [Stand.after, Stand.next, masked, Stand.keeps, digitChar_ne]
                · simp [Stand.after, Stand.next, masked, Stand.keeps, notQuote, notBackslash]

theorem escaped_inside (text : List Char) :
    Stand.literal.after (text.flatMap escapedChar) = .literal ∧
      masked .literal (text.flatMap escapedChar) = [] := by
  induction text with
  | nil => exact ⟨rfl, rfl⟩
  | cons c rest ih =>
      obtain ⟨after, hidden⟩ := escapedChar_inside c
      rw [List.flatMap_cons, after_append, masked_append, after, hidden]
      exact ih

/-- Whatever the text, its literal ends where it should, and nothing of it shows. -/
theorem string_masked (text : String) :
    Whole (string text) ∧ masked .code (string text).toList = ['"', '"'] := by
  obtain ⟨after, hidden⟩ := escaped_inside text.toList
  have chars : (string text).toList = ['"'] ++ (text.toList.flatMap escapedChar ++ ['"']) := by
    simp [string]
  have opened : Stand.code.after ['"'] = .literal := rfl
  unfold Whole
  rw [chars]
  constructor
  · rw [after_append, after_append, opened, after]
    rfl
  · rw [masked_append, masked_append, opened, after, hidden]
    rfl

theorem string_whole (text : String) : Whole (string text) := (string_masked text).1

theorem string_alike (first second : String) : Alike (string first) (string second) where
  left := string_whole first
  right := string_whole second
  same := by rw [(string_masked first).2, (string_masked second).2]

end AgentGraph.Literal
