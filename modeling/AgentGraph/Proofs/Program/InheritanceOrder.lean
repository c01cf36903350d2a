import AgentGraph.Proofs.Program.Heirs
import AgentGraph.Proofs.Program.Names
import AgentGraph.Proofs.Relations.Ends
import Mathlib.Logic.Relation
import Mathlib.Order.WellFoundedSet

/-!
The order of the agents' classes. Every agent comes once, after those of its parents that it
extends, and an agent is overtaken only while it waits for a parent. Parents are left out on
account of a cycle only.
-/

namespace AgentGraph

namespace Relations

def IsParent (relations : Relations) (parent child : String) : Prop :=
  parent ∈ relations.parentsOf child

/-- Whether neither the agent nor any agent above it is above itself. -/
def IsCycleFree (relations : Relations) (agentId : String) : Prop :=
  ∀ ancestor, Relation.ReflTransGen relations.IsParent ancestor agentId →
    ¬Relation.TransGen relations.IsParent ancestor ancestor

end Relations

namespace Plan

variable {relations : Relations}

namespace Follows

variable {emitted : List String} {remaining : List Node} {heirs before after : List Heir}
  {heir : Heir}

theorem parents_eq (follows : Follows relations emitted remaining heirs)
    (split : heirs = before ++ heir :: after) :
    heir.parents = (relations.parentsOf heir.node.id).filter fun parent =>
      decide (parent ∈ emitted ∨ parent ∈ before.map Heir.id) := by
  induction follows generalizing before with
  | done => simp at split
  | @next emitted front back node heirs _ _ _ ih =>
      cases before with
      | nil =>
          injection split with first
          rw [← first]
          simp
      | cons first before =>
          injection split with same split
          rw [ih split, ← same]
          congr 1
          funext parent
          simp only [List.mem_cons, List.map_cons, decide_eq_decide]
          tauto

/-- Going up from an agent that is above no cycle ends at one that is ready. -/
theorem ready_of_cycleFree {node : Node}
    (closed : ∀ other ∈ remaining, ∀ parent ∈ relations.parentsOf other.id,
      parent ∈ emitted ∨ parent ∈ remaining.map Node.id)
    (inside : node ∈ remaining) (free : relations.IsCycleFree node.id) :
    ∃ other ∈ remaining, isReady relations emitted other = true := by
  let below (ancestor child : String) : Prop :=
    Relation.TransGen relations.IsParent ancestor child ∧
      Relation.ReflTransGen relations.IsParent child node.id
  have strict : IsStrictOrder String below :=
    { irrefl := fun id ⟨loop, above⟩ => free id above loop
      trans := fun _ _ _ ⟨first, _⟩ ⟨second, above⟩ => ⟨first.trans second, above⟩ }
  have wellFounded := (List.finite_toSet (remaining.map Node.id)).wellFoundedOn (r := below)
  refine wellFounded.induction (P := fun id => Relation.ReflTransGen relations.IsParent id node.id →
    ∃ other ∈ remaining, isReady relations emitted other = true)
    (List.mem_map_of_mem inside) ?_ .refl
  intro id held ih above
  obtain ⟨other, inside, rfl⟩ := List.mem_map.mp held
  cases ready : isReady relations emitted other with
  | true => exact ⟨other, inside, ready⟩
  | false =>
      obtain ⟨parent, isParent, missing⟩ := isReady_eq_false.mp ready
      have left := (closed other inside parent isParent).resolve_left missing
      exact ih parent left ⟨.single isParent, above⟩ (.head isParent above)

theorem closed_next {front back : List Node} {node : Node}
    (closed : ∀ other ∈ front ++ node :: back, ∀ parent ∈ relations.parentsOf other.id,
      parent ∈ emitted ∨ parent ∈ (front ++ node :: back).map Node.id) :
    ∀ other ∈ front ++ back, ∀ parent ∈ relations.parentsOf other.id,
      parent ∈ node.id :: emitted ∨ parent ∈ (front ++ back).map Node.id := by
  intro other inside parent isParent
  have held : other ∈ front ++ node :: back := by
    simp only [List.mem_append, List.mem_cons] at inside ⊢
    tauto
  have known := closed other held parent isParent
  simp only [List.map_append, List.map_cons, List.mem_append, List.mem_cons] at known ⊢
  tauto

theorem parents_of_cycleFree (follows : Follows relations emitted remaining heirs)
    (closed : ∀ other ∈ remaining, ∀ parent ∈ relations.parentsOf other.id,
      parent ∈ emitted ∨ parent ∈ remaining.map Node.id)
    (inside : heir ∈ heirs) (free : relations.IsCycleFree heir.node.id) :
    heir.parents = relations.parentsOf heir.node.id := by
  induction follows with
  | done => exact absurd inside List.not_mem_nil
  | @next emitted front back node heirs passedOver chosen rest ih =>
      rcases List.mem_cons.mp inside with rfl | later
      · have held : node ∈ front ++ node :: back :=
          List.mem_append_right _ List.mem_cons_self
        obtain ⟨other, left, ready⟩ := ready_of_cycleFree closed held free
        have ready : isReady relations emitted node = true := by
          refine chosen.resolve_right fun stuck => ?_
          rw [stuck other left] at ready
          contradiction
        rw [List.filter_eq_self]
        simpa using isReady_iff.mp ready
      · exact ih (closed_next closed) later

/-- Whoever was before an agent in the list and comes after it was waiting for a parent. -/
theorem waits_of_overtaken (follows : Follows relations emitted remaining heirs)
    (distinct : remaining.Nodup) (split : heirs = before ++ heir :: after)
    {front back : List Node} (listed : remaining = front ++ heir.node :: back) {other : Node}
    (earlier : other ∈ front) (later : other ∈ after.map Heir.node) :
    ∃ parent ∈ relations.parentsOf other.id,
      parent ∉ emitted ∧ parent ∉ before.map Heir.id := by
  induction follows generalizing before front back with
  | done => simp at split
  | @next emitted passed back' node heirs passedOver _ rest ih =>
      have apart : node ∉ passed ++ back' := (List.nodup_middle.mp distinct).notMem
      cases before with
      | nil =>
          injection split with first _
          subst first
          rw [List.mem_append, not_or] at apart
          obtain ⟨rfl, -, -⟩ := (List.append_cons_inj_of_notMem apart.1 apart.2).mp listed
          obtain ⟨parent, isParent, missing⟩ := isReady_eq_false.mp (passedOver other earlier)
          exact ⟨parent, isParent, missing, List.not_mem_nil⟩
      | cons first before =>
          injection split with same split
          -- The agent that came first is neither of the two, so the rest lists them alike.
          have remains : ∀ heir ∈ heirs, heir.node ≠ node := by
            rintro heir inside rfl
            exact apart (rest.perm.subset (List.mem_map_of_mem inside))
          have heirRemains : heir.node ≠ node :=
            remains heir (split ▸ List.mem_append_right _ List.mem_cons_self)
          have otherRemains : other ≠ node := by
            obtain ⟨heir, inside, rfl⟩ := List.mem_map.mp later
            exact remains heir
              (split ▸ List.mem_append_right _ (List.mem_cons_of_mem _ inside))
          have relisted : passed ++ back' =
              front.filter (· ≠ node) ++ heir.node :: back.filter (· ≠ node) := by
            have kept : (passed ++ back').filter (· ≠ node) = passed ++ back' :=
              List.filter_eq_self.mpr fun other inside =>
                decide_eq_true fun equal => apart (equal ▸ inside)
            calc passed ++ back' = (passed ++ node :: back').filter (· ≠ node) := by
                  rw [List.filter_append, List.filter_cons_of_neg (by simp), ← List.filter_append,
                    kept]
              _ = front.filter (· ≠ node) ++ heir.node :: back.filter (· ≠ node) := by
                  rw [listed, List.filter_append,
                    List.filter_cons_of_pos (by simpa using heirRemains)]
          have rest := (List.nodup_middle.mp distinct).of_cons
          obtain ⟨parent, isParent, missing, notBefore⟩ := ih rest split relisted
            (List.mem_filter.mpr ⟨earlier, decide_eq_true otherRemains⟩)
          rw [List.mem_cons, not_or] at missing
          refine ⟨parent, isParent, missing.2, ?_⟩
          rw [List.map_cons, List.mem_cons, not_or, ← same]
          exact ⟨missing.1, notBefore⟩

theorem map_node_of_parentsFirst (follows : Follows relations emitted remaining heirs)
    (parentsFirst : ∀ front node back, remaining = front ++ node :: back →
      ∀ parent ∈ relations.parentsOf node.id, parent ∈ emitted ∨ parent ∈ front.map Node.id) :
    heirs.map Heir.node = remaining := by
  induction follows with
  | done => rfl
  | @next emitted front back node heirs passedOver _ _ ih =>
      have first : front = [] := by
        cases front with
        | nil => rfl
        | cons head front =>
            have ready : isReady relations emitted head = true :=
              isReady_iff.mpr fun parent isParent => by
                simpa using parentsFirst [] head _ rfl parent isParent
            rw [passedOver head List.mem_cons_self] at ready
            contradiction
      subst first
      rw [List.nil_append, List.map_cons, ih]
      · rfl
      · rintro front other back rfl parent isParent
        have known := parentsFirst (node :: front) other back rfl parent isParent
        simp only [List.map_cons, List.mem_cons] at known ⊢
        tauto

end Follows

/-- An order of `agents` by inheritance, in which those of the parents that could not come
first are left out. -/
structure OrdersByInheritance (relations : Relations) (agents : List Node) (heirs : List Heir) :
    Prop where
  perm : (heirs.map Heir.node).Perm agents
  nodup : (heirs.map Heir.id).Nodup
  parents_sublist : ∀ heir ∈ heirs, heir.parents.Sublist (relations.parentsOf heir.node.id)
  parents_nodup : ∀ heir ∈ heirs, heir.parents.Nodup
  parents_before : ∀ before heir after, heirs = before ++ heir :: after →
    ∀ parent ∈ heir.parents, parent ∈ before.map Heir.id
  parents_complete : ∀ heir ∈ heirs, relations.IsCycleFree heir.node.id →
    heir.parents = relations.parentsOf heir.node.id
  overtakes_waiting : ∀ before heir after, heirs = before ++ heir :: after →
    ∀ front back, agents = front ++ heir.node :: back →
      ∀ other ∈ front, other ∈ after.map Heir.node →
        ∃ parent ∈ relations.parentsOf other.id, parent ∉ before.map Heir.id
  keeps_order : (∀ front node back, agents = front ++ node :: back →
      ∀ parent ∈ relations.parentsOf node.id, parent ∈ front.map Node.id) →
    heirs.map Heir.node = agents

theorem ordersByInheritance_heirs (settings : Settings) {graph : Graph}
    (distinct : (graph.nodes.map Node.id).Nodup) :
    OrdersByInheritance (ofGraph settings graph).relations (ofGraph settings graph).agents
      (ofGraph settings graph).heirs := by
  have follows := (ofGraph settings graph).follows_heirs
  have ids : ((ofGraph settings graph).agents.map Node.id).Nodup :=
    distinct.sublist (List.filter_sublist.map Node.id)
  have parents_eq : ∀ agentId, (ofGraph settings graph).relations.parentsOf agentId = _ :=
    Relations.parentsOf_build graph.nodes settings graph.edges
  have closed : ∀ other ∈ (ofGraph settings graph).agents,
      ∀ parent ∈ (ofGraph settings graph).relations.parentsOf other.id,
        parent ∈ [] ∨ parent ∈ (ofGraph settings graph).agents.map Node.id := by
    intro other _ parent isParent
    rw [parents_eq, Relations.mem_foldl_addOnce, or_iff_right List.not_mem_nil] at isParent
    obtain ⟨source, _, rfl, _, joins⟩ := Relations.joins_of_inherited isParent
    have isAgent : source.isAgent = true := (Bool.and_eq_true_iff.mp joins.fits).1
    exact .inr (List.mem_map_of_mem (List.mem_filter.mpr ⟨joins.sourceInside, isAgent⟩))
  have sublist : ∀ heir ∈ (ofGraph settings graph).heirs,
      heir.parents.Sublist ((ofGraph settings graph).relations.parentsOf heir.node.id) := by
    intro heir inside
    obtain ⟨before, after, split⟩ := List.append_of_mem inside
    rw [follows.parents_eq split]
    exact List.filter_sublist
  refine {
    perm := follows.perm
    nodup := ?_
    parents_sublist := sublist
    parents_nodup := ?_
    parents_before := ?_
    parents_complete := fun heir inside free => follows.parents_of_cycleFree closed inside free
    overtakes_waiting := ?_
    keeps_order := ?_ }
  · have perm := follows.perm.map Node.id
    rw [List.map_map] at perm
    exact perm.nodup_iff.mpr ids
  · intro heir inside
    refine (sublist heir inside).nodup ?_
    rw [parents_eq]
    exact Relations.nodup_foldl_addOnce _ [] List.nodup_nil
  · intro before heir after split parent inside
    rw [follows.parents_eq split, List.mem_filter] at inside
    simpa using inside.2
  · intro before heir after split front back listed other earlier later
    obtain ⟨parent, isParent, -, missing⟩ :=
      follows.waits_of_overtaken ids.of_map split listed earlier later
    exact ⟨parent, isParent, missing⟩
  · intro parentsFirst
    exact follows.map_node_of_parentsFirst fun front node back listed parent isParent =>
      .inr (parentsFirst front node back listed parent isParent)

def tangled : Graph where
  nodes := [⟨"a", none, .agent {}⟩, ⟨"b", none, .agent {}⟩, ⟨"x", none, .prompted {}⟩,
    ⟨"y", none, .agent {}⟩, ⟨"d", none, .reasoning {}⟩]
  edges := [{ id := "1", source := "b", target := "a", kind := .inheritance },
    { id := "2", source := "x", target := "y", kind := .inheritance },
    { id := "3", source := "y", target := "x", kind := .inheritance },
    { id := "4", source := "y", target := "d", kind := .inheritance },
    { id := "5", source := "b", target := "d", kind := .inheritance }]

theorem ordersByInheritance_heirs_tangled :
    (tangled.nodes.map Node.id).Nodup ∧
      OrdersByInheritance (ofGraph {} tangled).relations (ofGraph {} tangled).agents
        (ofGraph {} tangled).heirs :=
  ⟨by decide +kernel, ordersByInheritance_heirs {} (by decide +kernel)⟩

example : (ofGraph {} tangled).heirs.map (fun heir => (heir.id, heir.parents)) =
    [("b", []), ("a", ["b"]), ("x", []), ("y", ["x"]), ("d", ["y", "b"])] := by
  decide +kernel

end Plan

end AgentGraph
