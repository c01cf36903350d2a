import AgentGraph.Proofs.Naming.Resolved
import AgentGraph.Proofs.Naming.Valid
import Mathlib.Data.List.Perm.Subperm

/-!
Names that are resolved one after the other are distinct: typed names are taken from the
start, and a made-up one is taken from then on.
-/

namespace AgentGraph

namespace Dict

variable {α β : Type}

/-- Whether different keys are bound to values that differ in this part. -/
def Separates (dict : Dict α) (part : α → β) : Prop :=
  ∀ first second one other, dict.find? first = some one → dict.find? second = some other →
    part one = part other → first = second

theorem separates_ofList {entries : List (String × α)} {part : α → β}
    (distinct : (entries.map fun entry => part entry.2).Nodup) :
    (ofList entries).Separates part := by
  intro first second one other found otherFound same
  have entry := mem_entries_ofList (find?_eq_some_iff.mp found)
  have otherEntry := mem_entries_ofList (find?_eq_some_iff.mp otherFound)
  exact congrArg Prod.fst (List.inj_on_of_nodup_map distinct entry otherEntry same)

theorem separates_of_values_nodup {dict : Dict α} (distinct : dict.values.Nodup) :
    dict.Separates id := by
  rw [← ofList_entries dict]
  exact separates_ofList distinct

theorem insertEntry_subperm (key : String) (value : α) (entries : List (String × α)) :
    (insertEntry key value entries).Subperm ((key, value) :: entries) := by
  induction entries with
  | nil => exact .refl _
  | cons head rest ih =>
      obtain ⟨other, held⟩ := head
      rw [insertEntry]
      split
      · exact .refl _
      · split
        · exact ((List.sublist_cons_self _ rest).cons_cons _).subperm
        · exact ((List.subperm_cons _).mpr ih).trans (List.Perm.swap _ _ _).subperm

theorem values_insert_subperm (dict : Dict α) (key : String) (value : α) :
    (dict.insert key value).values.Subperm (value :: dict.values) := by
  obtain ⟨entries, perm, sublist⟩ := insertEntry_subperm key value dict.entries
  exact ⟨entries.map Prod.snd, perm.map Prod.snd, sublist.map Prod.snd⟩

end Dict

namespace Naming

theorem filterMap_cons_toList {α β : Type} (f : α → Option β) (head : α) (rest : List α) :
    (head :: rest).filterMap f = (f head).toList ++ rest.filterMap f := by
  rw [List.filterMap_cons]
  cases f head <;> rfl

variable {stem field name : String} {start : Nat} {used coming taken : List String}

/-- While names are resolved: those in use and the typed ones to come are distinct, and all
of them are taken. -/
structure Apart (used coming taken : List String) : Prop where
  nodup : (coming ++ used).Nodup
  subset : coming ++ used ⊆ taken

theorem Apart.resolve (apart : Apart used ((typed? field).toList ++ coming) taken) :
    Apart ((resolve stem start field taken).1 :: used) coming
      (resolve stem start field taken).2 := by
  obtain ⟨nodup, subset⟩ := apart
  rcases resolve_cases stem start field taken with
    ⟨name, typed, same⟩ | ⟨number, typed, free, same⟩
  · rw [typed] at nodup subset
    rw [same]
    refine ⟨List.nodup_middle.mpr nodup, fun other inside => subset ?_⟩
    exact List.perm_middle.subset inside
  · rw [typed] at nodup subset
    rw [same]
    refine ⟨List.nodup_middle.mpr (List.nodup_cons.mpr ⟨?_, nodup⟩), fun other inside => ?_⟩
    · exact fun inside => free (subset inside)
    · exact List.cons_subset_cons _ subset (List.perm_middle.subset inside)

theorem Apart.of_subperm {more : List String} (apart : Apart more coming taken)
    (fewer : used.Subperm more) : Apart used coming taken := by
  have part := (List.subperm_append_left coming).mpr fewer
  refine ⟨?_, fun name inside => apart.subset (part.subset inside)⟩
  obtain ⟨permuted, perm, sublist⟩ := part
  exact perm.nodup_iff.mp (apart.nodup.sublist sublist)

theorem Apart.initially (distinct : coming.Nodup) (subset : coming ⊆ taken) :
    Apart [] coming taken := by
  refine ⟨?_, ?_⟩
  · rwa [List.append_nil]
  · rwa [List.append_nil]

end Naming

open Naming

namespace Relations

variable {settings : Settings} {nodes : List Node}

/-- The agents' names and classes are distinct, also from those in use before. -/
theorem resolveAgents_nodup {nodes : List Node} :
    ∀ {number : Nat} {names classes usedNames usedClasses : List String},
      Apart usedNames (instanceNames nodes) names →
      Apart usedClasses (agentClasses nodes) classes →
        ((resolveAgents settings number names classes nodes).map
          (fun entry => entry.2.instanceName) ++ usedNames).Nodup ∧
        ((resolveAgents settings number names classes nodes).map
          (fun entry => entry.2.className) ++ usedClasses).Nodup := by
  induction nodes with
  | nil => exact fun names classes => ⟨names.nodup, classes.nodup⟩
  | cons node nodes ih =>
      intro number names classes usedNames usedClasses apartNames apartClasses
      rw [instanceNames, filterMap_cons_toList, Node.instanceName?] at apartNames
      rw [agentClasses, filterMap_cons_toList, Node.agentClass?] at apartClasses
      rw [resolveAgents]
      cases agent : node.payload.agent? with
      | none =>
          rw [agent] at apartNames apartClasses
          exact ih apartNames apartClasses
      | some shared =>
          rw [agent] at apartNames apartClasses
          obtain ⟨instances, agents⟩ := ih apartNames.resolve apartClasses.resolve
          exact ⟨List.nodup_middle.mp instances, List.nodup_middle.mp agents⟩

/-- Different agents have different names and different classes. -/
theorem identitiesOf_separates (settings : Settings) (rules : IsValid nodes) :
    (identitiesOf settings nodes).Separates Identity.instanceName ∧
      (identitiesOf settings nodes).Separates Identity.className := by
  have names : Apart [] (instanceNames nodes) (instanceNames nodes) :=
    .initially rules.instanceNames_nodup (List.Subset.refl _)
  have classes : Apart [] (agentClasses nodes) (allClasses nodes) :=
    .initially rules.agentClasses_nodup (List.subset_append_left _ _)
  have distinct := @resolveAgents_nodup settings nodes 1 _ _ _ _ names classes
  rw [List.append_nil, List.append_nil] at distinct
  exact ⟨Dict.separates_ofList distinct.1, Dict.separates_ofList distinct.2⟩

end Relations

namespace Plan

/-- The behaviours' classes are distinct, also from those found before. -/
theorem resolveBehaviours_nodup {nodes : List Node} :
    ∀ {found : Dict String} {taken : List String},
      Apart found.values (Naming.behaviourClasses nodes) taken →
        (resolveBehaviours found taken nodes).values.Nodup := by
  induction nodes with
  | nil => exact fun apart => apart.nodup
  | cons node nodes ih =>
      intro found taken apart
      rw [Naming.behaviourClasses, filterMap_cons_toList, Node.behaviourClass?] at apart
      rw [resolveBehaviours]
      cases payload : node.payload.behaviour? with
      | none =>
          rw [payload] at apart
          exact ih apart
      | some behaviour =>
          rw [payload] at apart
          exact ih (apart.resolve.of_subperm (Dict.values_insert_subperm ..))

end Plan

end AgentGraph
