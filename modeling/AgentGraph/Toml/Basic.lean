import AgentGraph.Binary64.Basic

/-!
TOML documents as tables of items. A table remembers how it came into being: by a
header of its own, as a step on the way to another table, or by a dotted key.
-/

namespace AgentGraph.Toml

inductive Scalar where
  | string (value : String)
  | integer (value : Int)
  | float (value : Binary64)
  | boolean (value : Bool)
  | datetime (text : String)
deriving DecidableEq

inductive Item where
  | scalar (value : Scalar)
  | array (items : List Item)
  /-- A table written as a value, which nothing can be added to. -/
  | inlineTable (entries : List (String × Item))
  /-- A table without a header of its own is implicit. -/
  | table (isImplicit isDotted : Bool) (entries : List (String × Item))
  /-- An array of tables by headers; entries go to the last one. -/
  | tables (earlier : List (List (String × Item))) (last : List (String × Item))

abbrev Entries := List (String × Item)

def put (key : String) (item : Item) : Entries → Entries
  | [] => [(key, item)]
  | (other, held) :: rest =>
      if other = key then (key, item) :: rest else (other, held) :: put key item rest

def add? (key : String) (item : Item) (entries : Entries) : Option Entries :=
  if (entries.lookup key).isSome then none else some (entries ++ [(key, item)])

/-- The table at a path changed; `change` is told whether it came from a dotted key.
Tables on the way that are not there are made. By a dotted key one does not enter a
table that has a header. -/
def alter? (dotted : Bool) (change : Bool → Entries → Option Entries) :
    (path : List String) → (isDotted : Bool) → Entries → Option Entries
  | [], isDotted, entries => change isDotted entries
  | key :: path, _, entries =>
      match entries.lookup key with
      | none => do
          let inner ← alter? dotted change path dotted []
          return entries ++ [(key, .table true dotted inner)]
      | some (.table isImplicit isDotted inner) =>
          if dotted && !isImplicit then none
          else do
            let inner ← alter? dotted change path isDotted inner
            return put key (.table isImplicit isDotted inner) entries
      | some (.tables earlier last) => do
          let last ← alter? dotted change path false last
          return put key (.tables earlier last) entries
      | some _ => none

/-- The entry of a dotted key, whose last part is `key`. Tables that did not come
from dotted keys are not added to by one. -/
def addDotted? (path : List String) (key : String) (item : Item) (entries : Entries) :
    Option Entries :=
  alter? true (fun isDotted entries =>
    if isDotted == path.isEmpty then none else add? key item entries) path false entries

/-- The table of a header: a new one, or one that was only implied so far. -/
def openTable? (parents : List String) (key : String) (entries : Entries) :
    Option Entries :=
  alter? false (fun _ entries =>
    match entries.lookup key with
    | none => some (entries ++ [(key, .table false false [])])
    | some (.table true false inner) => some (put key (.table false false inner) entries)
    | some _ => none) parents false entries

def openTables? (parents : List String) (key : String) (entries : Entries) :
    Option Entries :=
  alter? false (fun _ entries =>
    match entries.lookup key with
    | none => some (entries ++ [(key, .tables [] [])])
    | some (.tables earlier last) => some (put key (.tables (earlier ++ [last]) []) entries)
    | some _ => none) parents false entries

end AgentGraph.Toml
