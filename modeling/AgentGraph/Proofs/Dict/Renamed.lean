import AgentGraph.Proofs.Dict.Lookup
import Mathlib.Data.List.Perm.Basic

/-!
Maps whose keys are renamed. The order of the entries changes with the keys, but they stay
the same entries, so that look-ups, the size and the bound values agree.
-/

namespace AgentGraph.Dict

variable {α : Type}

/-- An insertion puts one entry in the place of those with its key. -/
theorem insertEntry_perm (key : String) (value : α) {entries : List (String × α)}
    (sorted : entries.Pairwise fun first second => first.1 < second.1) :
    (insertEntry key value entries).Perm
      ((key, value) :: entries.filter fun entry => entry.1 != key) := by
  induction entries with
  | nil => exact .refl _
  | cons head rest ih =>
      obtain ⟨other, held⟩ := head
      obtain ⟨below, tail⟩ := List.pairwise_cons.mp sorted
      have above (notAfter : ¬other < key) : rest.filter (fun entry => entry.1 != key) = rest := by
        apply List.filter_eq_self.mpr
        intro entry inside
        apply bne_iff_ne.mpr
        rintro rfl
        exact notAfter (below entry inside)
      rw [insertEntry]
      split
      · next before =>
          have differs : ((other, held).1 != key) = true :=
            bne_iff_ne.mpr fun same => String.lt_irrefl key (same ▸ before)
          rw [List.filter_cons, if_pos differs, above (String.lt_asymm before)]
      · split
        · next same =>
            subst same
            rw [List.filter_cons_of_neg (by simp), above (String.lt_irrefl key)]
        · next different =>
            have differs : ((other, held).1 != key) = true := bne_iff_ne.mpr (Ne.symm different)
            rw [List.filter_cons, if_pos differs]
            exact ((ih tail).cons _).trans (.swap ..)

/-- Whether `other` has the entries of `dict` under the new keys. -/
def Renamed (rename : String → String) (dict other : Dict α) : Prop :=
  other.entries.Perm (dict.entries.map (Prod.map rename id))

namespace Renamed

variable {rename : String → String} {dict other : Dict α}

theorem empty : Renamed rename (Dict.empty : Dict α) Dict.empty := .refl _

theorem size (renamed : Renamed rename dict other) : other.size = dict.size := by
  rw [Dict.size, Dict.size, renamed.length_eq, List.length_map]

theorem values (renamed : Renamed rename dict other) : other.values.Perm dict.values := by
  have mapped := renamed.map Prod.snd
  rwa [List.map_map] at mapped

variable (injective : Function.Injective rename)

include injective

theorem find? (renamed : Renamed rename dict other) (key : String) :
    other.find? (rename key) = dict.find? key := by
  ext value
  rw [find?_eq_some_iff, find?_eq_some_iff, renamed.mem_iff, List.mem_map]
  constructor
  · rintro ⟨⟨held, bound⟩, inside, same⟩
    obtain ⟨sameKey, rfl⟩ := Prod.mk.inj same
    exact injective sameKey ▸ inside
  · exact fun inside => ⟨(key, value), inside, rfl⟩

theorem insert (renamed : Renamed rename dict other) (key : String) (value : α) :
    Renamed rename (dict.insert key value) (other.insert (rename key) value) := by
  have kept : (fun entry : String × α => entry.1 != rename key) ∘ Prod.map rename id =
      fun entry => entry.1 != key := by
    funext entry
    exact Bool.eq_iff_iff.mpr (by simp [injective.eq_iff])
  calc List.Perm (insertEntry (rename key) value other.entries)
        ((rename key, value) :: other.entries.filter fun entry => entry.1 != rename key) :=
        insertEntry_perm _ value other.sorted
    List.Perm _ ((rename key, value) ::
        (dict.entries.map (Prod.map rename id)).filter fun entry => entry.1 != rename key) :=
        (renamed.filter _).cons _
    _ = ((key, value) :: dict.entries.filter fun entry => entry.1 != key).map
        (Prod.map rename id) := by rw [List.filter_map, kept]; rfl
    List.Perm _ ((insertEntry key value dict.entries).map (Prod.map rename id)) :=
        ((insertEntry_perm key value dict.sorted).map _).symm

theorem ofList (entries : List (String × α)) :
    Renamed rename (Dict.ofList entries) (Dict.ofList (entries.map (Prod.map rename id))) := by
  induction entries using List.reverseRecOn with
  | nil => exact empty
  | append_singleton entries last ih =>
      rw [List.map_append, Dict.ofList, Dict.ofList, List.foldl_append, List.foldl_append]
      exact insert injective ih last.1 last.2

end Renamed

end AgentGraph.Dict
