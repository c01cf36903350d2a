import AgentGraph.Dict

/-!
Maps by their entries: what building a map from a list keeps, and that sorted
entries are kept as they are.
-/

namespace AgentGraph.Dict

variable {α β : Type}

theorem ext_entries {first second : Dict α} (same : first.entries = second.entries) :
    first = second := by
  cases first
  cases second
  simp only at same
  subst same
  rfl

theorem nodup_keys (dict : Dict α) : dict.keys.Nodup := by
  refine List.pairwise_map.mpr (dict.sorted.imp fun below same => ?_)
  rw [same] at below
  exact String.lt_irrefl _ below

theorem mem_entries_ofList {entry : String × α} {entries : List (String × α)}
    (member : entry ∈ (ofList entries).entries) : entry ∈ entries := by
  have folded : ∀ (rest : List (String × α)) (dict : Dict α),
      entry ∈ (rest.foldl (fun dict entry => dict.insert entry.1 entry.2) dict).entries →
        entry ∈ rest ∨ entry ∈ dict.entries := by
    intro rest
    induction rest with
    | nil => exact fun dict member => .inr member
    | cons head rest ih =>
        intro dict member
        rcases ih _ member with inRest | inserted
        · exact .inl (List.mem_cons_of_mem _ inRest)
        · rcases mem_insertEntry inserted with rfl | old
          · exact .inl List.mem_cons_self
          · exact .inr old
  cases folded entries Dict.empty member with
  | inl found => exact found
  | inr found => exact absurd found List.not_mem_nil

theorem entries_ofList (entries : List (String × α)) :
    (ofList entries).entries =
      entries.foldl (fun found entry => insertEntry entry.1 entry.2 found) [] :=
  (List.foldl_hom Dict.entries fun _ _ => rfl).symm

/-- A key greater than all the others goes to the end. -/
theorem insertEntry_of_last {key : String} (value : α) {entries : List (String × α)}
    (last : ∀ entry ∈ entries, entry.1 < key) :
    insertEntry key value entries = entries ++ [(key, value)] := by
  induction entries with
  | nil => rfl
  | cons head rest ih =>
      obtain ⟨other, held⟩ := head
      have before : other < key := last (other, held) List.mem_cons_self
      have notAfter : ¬ key < other := String.lt_asymm before
      have different : key ≠ other := fun same => String.lt_irrefl key (same ▸ before)
      rw [insertEntry, if_neg notAfter, if_neg different,
        ih fun entry member => last entry (List.mem_cons_of_mem _ member)]
      rfl

theorem entries_ofList_of_sorted {entries : List (String × α)}
    (sorted : entries.Pairwise fun first second => first.1 < second.1) :
    (ofList entries).entries = entries := by
  have folded : ∀ (rest : List (String × α)) (dict : Dict α),
      ((dict.entries ++ rest).Pairwise fun first second => first.1 < second.1) →
        (rest.foldl (fun dict entry => dict.insert entry.1 entry.2) dict).entries =
          dict.entries ++ rest := by
    intro rest
    induction rest with
    | nil => simp
    | cons head rest ih =>
        intro dict sorted
        have last : ∀ entry ∈ dict.entries, entry.1 < head.1 := by
          intro entry member
          exact (List.pairwise_append.mp sorted).2.2 entry member head List.mem_cons_self
        have inserted : (dict.insert head.1 head.2).entries = dict.entries ++ [head] :=
          insertEntry_of_last head.2 last
        rw [List.foldl_cons, ih _ (by simpa [inserted] using sorted), inserted]
        simp
  simpa [ofList, Dict.empty] using folded entries Dict.empty (by simpa [Dict.empty] using sorted)

theorem ofList_entries (dict : Dict α) : ofList dict.entries = dict :=
  ext_entries (entries_ofList_of_sorted dict.sorted)

end AgentGraph.Dict
