import AgentGraph.Decode.Basic

/-!
Records. A record is described by its fields in declared order, each with a reader
that puts a value into the record. Objects are read member by member in the order
of their keys, members without a field are passed over, and the fields that have to
be there are looked for at the end. An array is read as the fields in declared order.
-/

namespace AgentGraph

structure Field (α : Type) where
  name : String
  /-- A second name under which the field may stand. -/
  otherName : Option String
  isRequired : Bool
  read : Json → α → Decoded α

structure Record (α : Type) where
  name : String
  fields : List (Field α)

namespace Field

variable {α β : Type}

/-- A field that keeps the value it starts with where it is left out. -/
def optional (name : String) (decode : Json → Decoded β) (put : β → α → α) : Field α :=
  ⟨name, none, false, fun value record => return put (← decode value) record⟩

def required (name : String) (decode : Json → Decoded β) (put : β → α → α) : Field α :=
  { optional name decode put with isRequired := true }

def lenient (name : String) (decode : Json → β) (put : β → α → α) : Field α :=
  optional name (fun value => .ok (decode value)) put

def orNamed (field : Field α) (name : String) : Field α :=
  { field with otherName := some name }

def isNamed (field : Field α) (key : String) : Bool :=
  field.name == key || field.otherName == some key

/-- The field of a part of a record, read inside the whole. -/
def within (field : Field α) (get : β → α) (put : α → β → β) : Field β :=
  { field with
    read := fun value whole => return put (← field.read value (get whole)) whole }

end Field

namespace Record

variable {α : Type}

/-- A record under construction, and the names of the fields it has got. -/
structure Draft (α : Type) where
  value : α
  seen : List String

def Draft.readField (draft : Draft α) (field : Field α) (value : Json) :
    Decoded (Draft α) :=
  if field.name ∈ draft.seen then .error (.duplicateField field.name)
  else return ⟨← field.read value draft.value, field.name :: draft.seen⟩

def readMember (fields : List (Field α)) (draft : Draft α) (member : String × Json) :
    Decoded (Draft α) :=
  match fields.find? fun field => field.isNamed member.1 with
  | some field => draft.readField field member.2
  | none => .ok draft

def readMembers (fields : List (Field α)) (initial : α)
    (members : List (String × Json)) : Decoded (Draft α) :=
  members.foldlM (readMember fields) ⟨initial, []⟩

def missing? (fields : List (Field α)) (draft : Draft α) : Option String :=
  (fields.find? fun field => field.isRequired && !draft.seen.contains field.name).map
    Field.name

def ofMembers (record : Record α) (initial : α) (members : List (String × Json)) :
    Decoded α := do
  let draft ← readMembers record.fields initial members
  match missing? record.fields draft with
  | some name => .error (.missingField name)
  | none => return draft.value

/-- The place of the first field at `size` or later that has to be there. -/
def missingAt? (fields : List (Field α)) (size : Nat) : Option Nat :=
  (fields.zipIdx.find? fun (field, index) => field.isRequired && size ≤ index).map
    Prod.snd

def ofItems (record : Record α) (initial : α) (items : List Json) : Decoded α := do
  let draft ← (record.fields.zip items).foldlM
    (fun draft (field, item) => draft.readField field item) (⟨initial, []⟩ : Draft α)
  match missingAt? record.fields items.length with
  | some index => .error (.tooShort index record.name record.fields.length)
  | none =>
      if record.fields.length < items.length then .error (.tooLong items.length)
      else return draft.value

def decode (record : Record α) (initial : α) : Json → Decoded α
  | .object members => record.ofMembers initial members
  | .array items => record.ofItems initial items
  | other => .error (.wrongType other (.record record.name))

/-- A record that has another one as a part, with the fields of both in one object:
its own fields are read first, then those of the part. -/
def decodeWith (record : Record α) (part : List (Field α)) (initial : α) :
    Json → Decoded α
  | .object members => do
      let draft ← readMembers record.fields initial members
      let draft ← readMembers part draft.value members
      return draft.value
  | other => .error (.wrongType other (.record record.name))

end Record

end AgentGraph
