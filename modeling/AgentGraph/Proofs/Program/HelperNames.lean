import AgentGraph.Proofs.Program.Helpers
import AgentGraph.Proofs.Program.SoundNames
import Mathlib.Data.List.Nodup

/-!
The variables that the main function binds are distinct: an agent's name, the word and the
number can be read off a variable's name, and within an agent each number is used once.
-/

namespace AgentGraph

open Naming

theorem parts_eq_of_last {α : Type} {mark : α} {first second other another : List α}
    (last : mark ∉ second) (lastOther : mark ∉ another)
    (same : first ++ mark :: second = other ++ mark :: another) :
    first = other ∧ second = another := by
  rw [List.append_eq_append_iff] at same
  rcases same with ⟨between, rfl, same⟩ | ⟨between, rfl, same⟩
  · cases between with
    | nil => exact ⟨(List.append_nil first).symm, List.tail_eq_of_cons_eq same⟩
    | cons c between => simp_all
  · cases between with
    | nil => exact ⟨List.append_nil other, (List.tail_eq_of_cons_eq same).symm⟩
    | cons c between => simp_all

namespace Plan

theorem toList_helper (agent kind : String) (number : Nat) :
    (helper agent kind number).toList =
      (agent.toList ++ '_' :: kind.toList) ++ '_' :: Nat.toDigits 10 number := by
  simp [helper]

theorem helper_injective {agent other kind another : String} {number count : Nat}
    (plain : '_' ∉ kind.toList) (plainOther : '_' ∉ another.toList)
    (same : helper agent kind number = helper other another count) :
    agent = other ∧ kind = another ∧ number = count := by
  have digits (number : Nat) : '_' ∉ Nat.toDigits 10 number := by
    intro inside
    have digit := Nat.isDigit_of_mem_toDigits (by omega) (by omega) inside
    contradiction
  have chars := congrArg String.toList same
  rw [toList_helper, toList_helper] at chars
  obtain ⟨front, numbers⟩ := parts_eq_of_last (digits number) (digits count) chars
  obtain ⟨agents, kinds⟩ := parts_eq_of_last plain plainOther front
  exact ⟨String.toList_inj.mp agents, String.toList_inj.mp kinds, toDigits_injective numbers⟩

variable {settings : Settings} {graph : Graph}

theorem IsHelper.eq_helper {agentId agent name : String}
    (isHelper : IsHelper graph agentId agent name) :
    ∃ kind number, '_' ∉ kind.toList ∧ name = helper agent kind number := by
  cases isHelper with
  | template | message | behaviour => exact ⟨_, _, by decide, rfl⟩

/-- Agents with a variable in common have the same name. -/
theorem IsHelper.agent_eq {agentId otherId agent other name : String}
    (isHelper : IsHelper graph agentId agent name)
    (isOther : IsHelper graph otherId other name) : agent = other := by
  obtain ⟨kind, number, plain, rfl⟩ := isHelper.eq_helper
  obtain ⟨another, count, plainOther, same⟩ := isOther.eq_helper
  exact (helper_injective plain plainOther same).1

theorem numbered_nodup {ids counted : List String} (nodup : ids.Nodup)
    (subset : ∀ id ∈ ids, id ∈ counted) (agent : String) {kind : String}
    (plain : '_' ∉ kind.toList) :
    (ids.map fun id => helper agent kind (counted.idxOf id + 1)).Nodup := by
  refine nodup.map_on fun first inFirst second inSecond same => ?_
  obtain ⟨_, _, numbers⟩ := helper_injective plain plain same
  exact (List.idxOf_inj (subset first inFirst)).mp (Nat.succ.inj numbers)

section Distinct

variable (settings) (distinct : (graph.nodes.map Node.id).Nodup)

include distinct

theorem agentStatements_helpers_nodup (agentId : String) (identity : Identity) :
    (((ofGraph settings graph).agentStatements agentId identity).filterMap
      Statement.helper?).Nodup := by
  rw [agentStatements_helpers settings distinct]
  refine List.nodup_append.mpr ⟨List.nodup_append.mpr ⟨?_, ?_, ?_⟩, ?_, ?_⟩
  · refine numbered_nodup ?_ ?_ _ (by decide)
    · have templates := Relations.templatesOf_build graph.nodes settings graph.edges agentId
      rw [ofGraph, build, templates]
      exact Relations.nodup_foldl_addOnce _ _ List.nodup_nil
    · intro id inside
      obtain ⟨_, _, bound⟩ := (mem_templatesOf settings).mp inside
      exact template_mem_idsOf bound
  · refine numbered_nodup (Relations.nodup_foldl_addOnce _ _ List.nodup_nil) ?_ _ (by decide)
    intro id inside
    obtain ⟨_, _, bound⟩ := (mem_messagesOf settings distinct).mp inside
    exact message_mem_idsOf bound
  · intro first inFirst second inSecond same
    obtain ⟨_, _, rfl⟩ := List.mem_map.mp inFirst
    obtain ⟨_, _, rfl⟩ := List.mem_map.mp inSecond
    exact absurd (helper_injective (by decide) (by decide) same).2.1 (by decide)
  · refine List.nodup_range.map fun first second same => ?_
    exact Nat.succ.inj (helper_injective (by decide) (by decide) same).2.2
  · intro first inFirst second inSecond same
    obtain ⟨_, _, rfl⟩ := List.mem_map.mp inSecond
    rcases List.mem_append.mp inFirst with template | message
    · obtain ⟨_, _, rfl⟩ := List.mem_map.mp template
      exact absurd (helper_injective (by decide) (by decide) same).2.1 (by decide)
    · obtain ⟨_, _, rfl⟩ := List.mem_map.mp message
      exact absurd (helper_injective (by decide) (by decide) same).2.1 (by decide)

theorem identified_pairwise (rules : IsValid graph.nodes) :
    (ofGraph settings graph).identified.Pairwise fun first second =>
      first.2.instanceName ≠ second.2.instanceName := by
  have agents : (ofGraph settings graph).agents.Pairwise fun first second =>
      first.id ≠ second.id :=
    List.pairwise_map.mp (distinct.sublist ((List.filter_sublist).map Node.id))
  have entries : (ofGraph settings graph).identified.Pairwise fun first second =>
      first.1 ≠ second.1 := by
    refine agents.filterMap _ fun first second differ one named other otherNamed => ?_
    obtain ⟨_, _, rfl⟩ := Option.map_eq_some_iff.mp named
    obtain ⟨_, _, rfl⟩ := Option.map_eq_some_iff.mp otherNamed
    exact differ
  refine entries.imp_of_mem fun {first second} inFirst inSecond differ same => ?_
  exact differ ((identities_separates rules).1 _ _ _ _ (mem_identified.mp inFirst)
    (mem_identified.mp inSecond) same)

/-- Where agents have distinct names, no variable is bound twice. -/
theorem helpers_nodup (valid : violations graph.nodes = []) :
    (ofGraph settings graph).helpers.Nodup := by
  have rules := (violations_eq_nil_iff graph.nodes).mp valid
  rw [helpers_eq_flatMap, List.nodup_flatMap]
  constructor
  · exact fun entry _ => agentStatements_helpers_nodup settings distinct entry.1 entry.2
  · refine (identified_pairwise settings distinct rules).imp fun differ name one other => ?_
    exact differ (((mem_agentStatements_helpers settings distinct).mp one).agent_eq
      ((mem_agentStatements_helpers settings distinct).mp other))

end Distinct

end Plan

end AgentGraph
