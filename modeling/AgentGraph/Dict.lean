/-!
Finite maps from texts, kept as a list of entries in the order of the keys by
code points, each key once.
-/

namespace AgentGraph

structure Dict (α : Type) where
  entries : List (String × α)
  sorted : entries.Pairwise fun first second => first.1 < second.1
deriving DecidableEq

namespace Dict

variable {α β : Type}

/-- `entries` with `key` bound to `value`: in its place, or instead of the value it had. -/
def insertEntry (key : String) (value : α) :
    List (String × α) → List (String × α)
  | [] => [(key, value)]
  | (other, held) :: rest =>
      if key < other then (key, value) :: (other, held) :: rest
      else if key = other then (key, value) :: rest
      else (other, held) :: insertEntry key value rest

theorem mem_insertEntry {key : String} {value : α} {entry : String × α}
    {entries : List (String × α)} (h : entry ∈ insertEntry key value entries) :
    entry = (key, value) ∨ entry ∈ entries := by
  induction entries with
  | nil => simpa [insertEntry] using h
  | cons head rest ih =>
      obtain ⟨other, held⟩ := head
      simp only [insertEntry] at h
      split at h
      · simpa using h
      · split at h
        · rcases List.mem_cons.mp h with h | h
          · exact .inl h
          · exact .inr (List.mem_cons_of_mem _ h)
        · rcases List.mem_cons.mp h with h | h
          · exact .inr (h ▸ List.mem_cons_self)
          · exact (ih h).imp id (List.mem_cons_of_mem _)

theorem pairwise_insertEntry (key : String) (value : α)
    {entries : List (String × α)}
    (sorted : entries.Pairwise fun first second => first.1 < second.1) :
    (insertEntry key value entries).Pairwise
      fun first second => first.1 < second.1 := by
  induction entries with
  | nil => simp [insertEntry]
  | cons head rest ih =>
      obtain ⟨other, held⟩ := head
      have ⟨below, tail⟩ := List.pairwise_cons.mp sorted
      simp only [insertEntry]
      split
      · rename_i before
        refine List.pairwise_cons.mpr ⟨?_, sorted⟩
        intro entry mem
        rcases List.mem_cons.mp mem with rfl | mem
        · exact before
        · exact String.lt_trans before (below entry mem)
      · split
        · rename_i same
          subst same
          exact List.pairwise_cons.mpr ⟨below, tail⟩
        · rename_i notBefore different
          refine List.pairwise_cons.mpr ⟨?_, ih tail⟩
          intro entry mem
          rcases mem_insertEntry mem with rfl | mem
          · by_cases after : other < key
            · exact after
            · exact absurd (String.le_antisymm (String.not_lt.mp after)
                (String.not_lt.mp notBefore)) different
          · exact below entry mem

protected def empty : Dict α := ⟨[], List.Pairwise.nil⟩

instance : Inhabited (Dict α) := ⟨Dict.empty⟩

def insert (dict : Dict α) (key : String) (value : α) : Dict α :=
  ⟨insertEntry key value dict.entries, pairwise_insertEntry key value dict.sorted⟩

def find? (dict : Dict α) (key : String) : Option α :=
  dict.entries.lookup key

def contains (dict : Dict α) (key : String) : Bool :=
  (dict.find? key).isSome

def findD (dict : Dict α) (key : String) (fallback : α) : α :=
  (dict.find? key).getD fallback

def update (dict : Dict α) (key : String) (initial : α) (change : α → α) : Dict α :=
  dict.insert key (change (dict.findD key initial))

def size (dict : Dict α) : Nat := dict.entries.length

def isEmpty (dict : Dict α) : Bool := dict.entries.isEmpty

def keys (dict : Dict α) : List String := dict.entries.map Prod.fst

def values (dict : Dict α) : List α := dict.entries.map Prod.snd

/-- The map that binds each key to its last value in `entries`. -/
def ofList (entries : List (String × α)) : Dict α :=
  entries.foldl (fun dict entry => dict.insert entry.1 entry.2) Dict.empty

def map (f : String → α → β) (dict : Dict α) : Dict β where
  entries := dict.entries.map fun entry => (entry.1, f entry.1 entry.2)
  sorted := List.pairwise_map.mpr dict.sorted

theorem find?_insertEntry_self (key : String) (value : α)
    (entries : List (String × α)) :
    (insertEntry key value entries).lookup key = some value := by
  induction entries with
  | nil => simp [insertEntry]
  | cons head rest ih =>
      obtain ⟨other, held⟩ := head
      simp only [insertEntry]
      split
      · simp
      · split
        · simp
        · rename_i different
          simp [List.lookup_cons, beq_eq_false_iff_ne.mpr different, ih]

theorem find?_insertEntry_of_ne {key asked : String} (value : α)
    (entries : List (String × α)) (different : asked ≠ key) :
    (insertEntry key value entries).lookup asked = entries.lookup asked := by
  induction entries with
  | nil => simp [insertEntry, different]
  | cons head rest ih =>
      obtain ⟨other, held⟩ := head
      simp only [insertEntry]
      split
      · simp [List.lookup_cons, beq_eq_false_iff_ne.mpr different]
      · split
        · rename_i same
          subst same
          simp [List.lookup_cons, beq_eq_false_iff_ne.mpr different]
        · simp [List.lookup_cons, ih]

@[simp] theorem find?_empty (key : String) :
    (Dict.empty : Dict α).find? key = none := rfl

@[simp] theorem find?_insert_self (dict : Dict α) (key : String) (value : α) :
    (dict.insert key value).find? key = some value :=
  find?_insertEntry_self key value dict.entries

theorem find?_insert_of_ne (dict : Dict α) {key asked : String} (value : α)
    (different : asked ≠ key) :
    (dict.insert key value).find? asked = dict.find? asked :=
  find?_insertEntry_of_ne value dict.entries different

end Dict

end AgentGraph
