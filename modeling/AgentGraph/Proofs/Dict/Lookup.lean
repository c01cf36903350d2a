import AgentGraph.Proofs.Dict.Entries
import Mathlib.Data.List.Induction

/-!
Maps by what they bind: look-ups after changes, and how entries and look-ups agree.
-/

namespace AgentGraph.Dict

variable {α β : Type}

theorem lookup_of_mem {entries : List (String × α)} {key : String} {value : α}
    (sorted : entries.Pairwise fun first second => first.1 < second.1)
    (member : (key, value) ∈ entries) : entries.lookup key = some value := by
  induction entries with
  | nil => exact absurd member List.not_mem_nil
  | cons head rest ih =>
      obtain ⟨other, held⟩ := head
      obtain ⟨below, tail⟩ := List.pairwise_cons.mp sorted
      rcases List.mem_cons.mp member with here | there
      · injection here with sameKey sameValue
        simp [sameKey, sameValue]
      · have different : key ≠ other :=
          fun same => String.lt_irrefl key (same ▸ below (key, value) there)
        rw [List.lookup_cons, beq_eq_false_iff_ne.mpr different]
        exact ih tail there

theorem mem_of_lookup {entries : List (String × α)} {key : String} {value : α}
    (found : entries.lookup key = some value) : (key, value) ∈ entries := by
  obtain ⟨before, after, same, _⟩ := List.lookup_eq_some_iff.mp found
  rw [same]
  exact List.mem_append_right _ List.mem_cons_self

theorem find?_eq_some_iff {dict : Dict α} {key : String} {value : α} :
    dict.find? key = some value ↔ (key, value) ∈ dict.entries :=
  ⟨mem_of_lookup, lookup_of_mem dict.sorted⟩

theorem find?_map (f : String → α → β) (dict : Dict α) (key : String) :
    (dict.map f).find? key = (dict.find? key).map (f key) := by
  have listed : ∀ entries : List (String × α),
      (entries.map fun entry => (entry.1, f entry.1 entry.2)).lookup key =
        (entries.lookup key).map (f key) := by
    intro entries
    induction entries with
    | nil => rfl
    | cons head rest ih =>
        obtain ⟨other, held⟩ := head
        simp only [List.map_cons, List.lookup_cons]
        by_cases same : key = other
        · subst same
          simp
        · rw [beq_eq_false_iff_ne.mpr same]
          exact ih
  exact listed dict.entries

theorem findD_insert_self (dict : Dict α) (key : String) (value fallback : α) :
    (dict.insert key value).findD key fallback = value := by
  rw [findD, find?_insert_self, Option.getD_some]

theorem findD_insert_of_ne (dict : Dict α) {key asked : String} (value fallback : α)
    (different : asked ≠ key) :
    (dict.insert key value).findD asked fallback = dict.findD asked fallback := by
  rw [findD, find?_insert_of_ne dict value different, findD]

theorem findD_update (dict : Dict α) (key asked : String) (initial : α) (change : α → α) :
    (dict.update key initial change).findD asked initial =
      if key = asked then change (dict.findD asked initial) else dict.findD asked initial := by
  unfold update
  split
  · next same => rw [← same, findD_insert_self]
  · next different =>
      exact findD_insert_of_ne dict _ initial fun same => different same.symm

theorem find?_ofList_concat (entries : List (String × α)) (key asked : String) (value : α) :
    (ofList (entries ++ [(key, value)])).find? asked =
      if asked = key then some value else (ofList entries).find? asked := by
  rw [ofList, List.foldl_append]
  split
  · next same => simp [same]
  · next different => exact find?_insert_of_ne _ value different

theorem find?_ofList_isSome {entries : List (String × α)} {key : String} :
    ((ofList entries).find? key).isSome = true ↔ key ∈ entries.map Prod.fst := by
  induction entries using List.reverseRecOn with
  | nil => simp [ofList]
  | append_singleton entries last ih =>
      obtain ⟨other, held⟩ := last
      rw [find?_ofList_concat, List.map_append, List.mem_append]
      split
      · next same => simp [same]
      · next different =>
          rw [ih]
          simp [different]

end AgentGraph.Dict
