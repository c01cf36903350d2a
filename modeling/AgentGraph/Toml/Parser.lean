import AgentGraph.Toml.Lexical

/-!
Reading TOML documents line by line. Keys go to the table of the last header; a key
that is bound twice, and a table that is opened twice, are refused.
-/

namespace AgentGraph.Toml

/-- Items parted by commas and line ends, up to the closing bracket, which is dropped.
A comma may follow the last one. `fuel` bounds their number. -/
def readItems (item : Reader Item) : (fuel : Nat) → Reader (List Item)
  | 0, _ => none
  | fuel + 1, text =>
      match skipSpace text with
      | ']' :: rest => some ([], rest)
      | text => do
          let (value, rest) ← item text
          match skipSpace rest with
          | ']' :: rest => some ([value], rest)
          | ',' :: rest => do
              let (values, rest) ← readItems item fuel rest
              return (value :: values, rest)
          | _ => none

def readBinding (item : Reader Item) (text : List Char) :
    Option (((List String × String) × Item) × List Char) := do
  let (key, rest) ← readKey text
  let (value, rest) ← item (skipBlank (← drop? '=' rest))
  return ((key, value), skipBlank rest)

/-- The entries of an inline table on one line, up to the closing brace, which is
dropped. No comma follows the last one. -/
def readBindings (item : Reader Item) : (fuel : Nat) → Entries → Reader Entries
  | 0, _, _ => none
  | fuel + 1, entries, text => do
      let (((path, key), value), rest) ← readBinding item text
      let entries ← addDotted? path key value entries
      match rest with
      | '\x7d' :: rest => some (entries, rest)
      | ',' :: rest => readBindings item fuel entries rest
      | _ => none

/-- A value; `depth` counts the arrays and inline tables that may still be opened. -/
def readItem : (depth : Nat) → Reader Item
  | depth + 1, '[' :: text =>
      (readItems (readItem depth) text.length text).map fun (items, rest) =>
        (.array items, rest)
  | depth + 1, '\x7b' :: text =>
      match skipBlank text with
      | '\x7d' :: rest => some (.inlineTable [], rest)
      | text =>
          (readBindings (readItem depth) text.length [] text).map fun (entries, rest) =>
            (.inlineTable entries, rest)
  | _, text => (readScalar text).map fun (value, rest) => (.scalar value, rest)

structure Draft where
  entries : Entries
  header : List String

def Draft.bind? (draft : Draft) (path : List String) (key : String) (item : Item) :
    Option Draft := do
  let entries ← alter? false (fun _ entries => addDotted? path key item entries)
    draft.header false draft.entries
  return { draft with entries }

def Draft.openTable? (draft : Draft) (parents : List String) (key : String) :
    Option Draft := do
  return ⟨← Toml.openTable? parents key draft.entries, parents ++ [key]⟩

def Draft.openTables? (draft : Draft) (parents : List String) (key : String) :
    Option Draft := do
  return ⟨← Toml.openTables? parents key draft.entries, parents ++ [key]⟩

/-- What a line says that is neither blank nor a comment, and what follows it. -/
def readLine (draft : Draft) : List Char → Option (Draft × List Char)
  | '[' :: '[' :: text => do
      let ((parents, key), rest) ← readKey text
      let rest ← drop? ']' (← drop? ']' rest)
      return (← draft.openTables? parents key, ← dropLineEnd? rest)
  | '[' :: text => do
      let ((parents, key), rest) ← readKey text
      return (← draft.openTable? parents key, ← dropLineEnd? (← drop? ']' rest))
  | text => do
      let (((path, key), item), rest) ← readBinding (readItem maxDepth) text
      return (← draft.bind? path key item, ← dropLineEnd? rest)

def readLines : (fuel : Nat) → Draft → List Char → Option Draft
  | 0, _, _ => none
  | fuel + 1, draft, text =>
      match skipSpace text with
      | [] => some draft
      | '#' :: rest => if rest.all isVisible then some draft else none
      | text => do
          let (draft, rest) ← readLine draft text
          readLines fuel draft rest

/-- The entries of a document. A byte order mark at its start is skipped. -/
def parse? (text : String) : Option Entries :=
  let text := match text.toList with
    | '\ufeff' :: rest => rest
    | text => text
  (readLines (text.length + 1) ⟨[], []⟩ text).map Draft.entries

end AgentGraph.Toml
