import AgentGraph.Program.Plan

/-!
How the agents' classes are put in order: what one step chooses, and what a whole run lists.
-/

namespace AgentGraph.Plan

variable {relations : Relations}

theorem isReady_iff {emitted : List String} {node : Node} :
    isReady relations emitted node = true ↔
      ∀ parent ∈ relations.parentsOf node.id, parent ∈ emitted := by
  simp [isReady]

theorem isReady_eq_false {emitted : List String} {node : Node} :
    isReady relations emitted node = false ↔
      ∃ parent ∈ relations.parentsOf node.id, parent ∉ emitted := by
  simp [isReady]

def Heir.id (heir : Heir) : String := heir.node.id

/-- An order of the agents in `remaining` after those in `emitted`, step by step. An agent
comes next that is ready, or any one where none is; none that it is preferred to is ready. -/
inductive Follows (relations : Relations) :
    (emitted : List String) → (remaining : List Node) → List Heir → Prop
  | done {emitted : List String} : Follows relations emitted [] []
  | next {emitted : List String} {front back : List Node} {node : Node} {heirs : List Heir}
      (passedOver : ∀ other ∈ front, isReady relations emitted other = false)
      (chosen : isReady relations emitted node = true ∨
        ∀ other ∈ front ++ node :: back, isReady relations emitted other = false)
      (rest : Follows relations (node.id :: emitted) (front ++ back) heirs) :
      Follows relations emitted (front ++ node :: back)
        (⟨node, (relations.parentsOf node.id).filter fun parent =>
          emitted.contains parent⟩ :: heirs)

/-- What one step of the order does. -/
theorem nextAgent?_cons (relations : Relations) (emitted : List String) (head : Node)
    (tail : List Node) :
    ∃ front node back, head :: tail = front ++ node :: back ∧
      nextAgent? relations emitted (head :: tail) = some node ∧
      withoutNext relations emitted (head :: tail) = front ++ back ∧
      (∀ other ∈ front, isReady relations emitted other = false) ∧
      (isReady relations emitted node = true ∨
        ∀ other ∈ front ++ node :: back, isReady relations emitted other = false) := by
  cases found : (head :: tail).find? (isReady relations emitted) with
  | some node =>
      obtain ⟨ready, front, back, split, passedOver⟩ := List.find?_eq_some_iff_append.mp found
      have notReady : ∀ other ∈ front, isReady relations emitted other = false :=
        fun other inside => Bool.not_eq_true' _ ▸ passedOver other inside
      refine ⟨front, node, back, split, ?_, ?_, notReady, .inl ready⟩
      · rw [nextAgent?, found, Option.some_or]
      · have present : (head :: tail).any (isReady relations emitted) = true :=
          List.any_eq_true.mpr ⟨node, List.mem_of_find?_eq_some found, ready⟩
        rw [withoutNext, if_pos present, split,
          List.eraseP_append_right _ (by simpa using notReady), List.eraseP_cons_of_pos ready]
  | none =>
      have stuck : ∀ other ∈ head :: tail, isReady relations emitted other = false := by
        simpa using List.find?_eq_none.mp found
      refine ⟨[], head, tail, rfl, ?_, ?_, by simp, .inr stuck⟩
      · rw [nextAgent?, found]
        rfl
      · have absent : (head :: tail).any (isReady relations emitted) = false :=
          List.any_eq_false.mpr (by simpa using stuck)
        rw [withoutNext, absent]
        rfl

theorem inheritanceOrder_follows (count : Nat) :
    ∀ {emitted : List String} {remaining : List Node}, remaining.length = count →
      Follows relations emitted remaining (inheritanceOrder relations count emitted remaining) := by
  induction count with
  | zero =>
      intro emitted remaining none_left
      rw [List.length_eq_zero_iff.mp none_left]
      exact .done
  | succ count ih =>
      intro emitted remaining length
      cases remaining with
      | nil => contradiction
      | cons head tail =>
          obtain ⟨front, node, back, split, next, without, passedOver, chosen⟩ :=
            nextAgent?_cons relations emitted head tail
          rw [inheritanceOrder, next, without]
          rw [split] at length ⊢
          refine .next passedOver chosen (ih ?_)
          simp only [List.length_append, List.length_cons] at length ⊢
          omega

theorem Follows.perm {emitted : List String} {remaining : List Node} {heirs : List Heir}
    (follows : Follows relations emitted remaining heirs) :
    (heirs.map Heir.node).Perm remaining := by
  induction follows with
  | done => exact .refl _
  | next _ _ _ ih => exact (ih.cons _).trans List.perm_middle.symm

theorem follows_heirs (plan : Plan) : Follows plan.relations [] plan.agents plan.heirs :=
  inheritanceOrder_follows _ rfl

theorem mem_of_heirs {plan : Plan} {heir : Heir} (inside : heir ∈ plan.heirs) :
    heir.node ∈ plan.nodes ∧ heir.node.isAgent = true :=
  List.mem_filter.mp (plan.follows_heirs.perm.subset (List.mem_map_of_mem inside))

end AgentGraph.Plan
