import Mathlib.Data.List.Flatten
import Mathlib.Data.List.Nodup
import Mathlib.Data.List.Perm.Basic
import Mathlib.Data.List.TakeWhile

/-!
The order in which a class and the classes above it are searched, merged from those of its
bases: of the first members of the orders, the first one comes next that no order has later on.
The merge comes to its end just where one order without repetitions keeps to all of them.
-/

namespace AgentGraph.Linearisation

variable {α : Type} {orders : List (List α)} {order merged : List α}

/-- Whether `merged` keeps to all orders and has their members only. -/
structure Merges (orders : List (List α)) (merged : List α) : Prop where
  sublist : ∀ order ∈ orders, order.Sublist merged
  nodup : merged.Nodup
  subset : merged ⊆ orders.flatten

theorem Merges.of_flatten_eq_nil (none_left : orders.flatten = []) : Merges orders [] where
  sublist order inside := by rw [List.flatten_eq_nil_iff.mp none_left order inside]
  nodup := List.nodup_nil
  subset := List.nil_subset _

/-- Where one order has all the members with `p`, these come in its order. -/
theorem Merges.filter_eq {p : α → Bool} (merges : Merges orders merged) (isOrder : order ∈ orders)
    (all : ∀ other ∈ orders, ∀ member ∈ other, p member = true → member ∈ order) :
    merged.filter p = order.filter p := by
  have fewer : (order.filter p).Sublist (merged.filter p) := (merges.sublist order isOrder).filter p
  refine (fewer.eq_of_length_le ((merges.nodup.filter p).length_le_of_subset ?_)).symm
  intro member inside
  obtain ⟨isMerged, holds⟩ := List.mem_filter.mp inside
  obtain ⟨other, isOther, here⟩ := List.mem_flatten.mp (merges.subset isMerged)
  exact List.mem_filter.mpr ⟨all other isOther member here holds, holds⟩

variable [DecidableEq α] {chosen : α}

/-- Whether no order has the member after its first one. -/
def isFree (orders : List (List α)) (member : α) : Bool :=
  orders.all fun order => !order.tail.contains member

def next? (orders : List (List α)) : Option α :=
  (orders.filterMap List.head?).find? (isFree orders)

/-- What is left of an order when `chosen` has come next. -/
def without (chosen : α) : List α → List α
  | [] => []
  | head :: tail => if head = chosen then tail else head :: tail

/-- The merged order, if there is one; `count` is the number of members in all orders or more. -/
def merge : (count : Nat) → (orders : List (List α)) → Option (List α)
  | 0, _ => some []
  | count + 1, orders =>
      if orders.flatten.isEmpty then some []
      else (next? orders).bind fun chosen =>
        (merge count (orders.map (without chosen))).map (chosen :: ·)

def linearise (orders : List (List α)) : Option (List α) := merge orders.flatten.length orders

theorem of_next? (found : next? orders = some chosen) :
    chosen ∈ orders.flatten ∧ ∀ order ∈ orders, chosen ∉ order.tail := by
  obtain ⟨order, inside, first⟩ := List.mem_filterMap.mp (List.mem_of_find?_eq_some found)
  refine ⟨List.mem_flatten.mpr ⟨order, inside, List.mem_of_mem_head? first⟩, ?_⟩
  simpa [isFree] using List.find?_some found

theorem without_sublist (chosen : α) (order : List α) : (without chosen order).Sublist order := by
  cases order with
  | nil => exact .refl _
  | cons head tail =>
      rw [without]
      split
      · exact List.sublist_cons_self _ _
      · exact .refl _

theorem sublist_cons_of_without (rest : (without chosen order).Sublist merged) :
    order.Sublist (chosen :: merged) := by
  cases order with
  | nil => exact List.nil_sublist _
  | cons head tail =>
      rw [without] at rest
      split at rest
      · next same => exact same ▸ rest.cons_cons head
      · exact rest.cons chosen

theorem not_mem_without (free : chosen ∉ order.tail) : chosen ∉ without chosen order := by
  cases order with
  | nil => exact List.not_mem_nil
  | cons head tail =>
      rw [without]
      split
      · exact free
      · next apart =>
          rw [List.mem_cons, not_or]
          exact ⟨fun same => apart same.symm, free⟩

theorem flatten_without_sublist (chosen : α) (orders : List (List α)) :
    (orders.map (without chosen)).flatten.Sublist orders.flatten := by
  rw [← List.flatMap_def, ← List.flatMap_id']
  exact List.Sublist.flatMap_right orders fun order _ => without_sublist chosen order

theorem not_mem_flatten_without (found : next? orders = some chosen) :
    chosen ∉ (orders.map (without chosen)).flatten := by
  intro inside
  obtain ⟨_, held, here⟩ := List.mem_flatten.mp inside
  obtain ⟨order, isOrder, rfl⟩ := List.mem_map.mp held
  exact not_mem_without ((of_next? found).2 order isOrder) here

theorem length_flatten_without (found : next? orders = some chosen) :
    (orders.map (without chosen)).flatten.length < orders.flatten.length := by
  have fewer := flatten_without_sublist chosen orders
  refine Nat.lt_of_le_of_ne fewer.length_le fun same => not_mem_flatten_without found ?_
  rw [fewer.eq_of_length same]
  exact (of_next? found).1

theorem Merges.cons (found : next? orders = some chosen)
    (merges : Merges (orders.map (without chosen)) merged) : Merges orders (chosen :: merged) where
  sublist _ inside := sublist_cons_of_without (merges.sublist _ (List.mem_map_of_mem inside))
  nodup := List.nodup_cons.mpr
    ⟨fun again => not_mem_flatten_without found (merges.subset again), merges.nodup⟩
  subset := List.cons_subset.mpr ⟨(of_next? found).1, fun _ inside =>
    (flatten_without_sublist chosen orders).subset (merges.subset inside)⟩

theorem merges_of_merge {count : Nat} : ∀ {orders : List (List α)} {merged : List α},
    orders.flatten.length ≤ count → merge count orders = some merged → Merges orders merged := by
  induction count with
  | zero =>
      intro orders merged enough made
      injection made with same
      exact same ▸ .of_flatten_eq_nil (List.length_eq_zero_iff.mp (Nat.le_zero.mp enough))
  | succ count ih =>
      intro orders merged enough made
      rw [merge] at made
      split at made
      · next none_left =>
          injection made with same
          exact same ▸ .of_flatten_eq_nil (List.isEmpty_iff.mp none_left)
      · obtain ⟨chosen, found, made⟩ := Option.bind_eq_some_iff.mp made
        obtain ⟨rest, madeRest, rfl⟩ := Option.map_eq_some_iff.mp made
        have shorter := length_flatten_without found
        exact .cons found (ih (by omega) madeRest)

/-- Of the members that are left, the first one in a common order may come next. -/
theorem exists_next? {common : List α} (nodup : common.Nodup)
    (kept : ∀ order ∈ orders, order.Sublist common) (some_left : orders.flatten ≠ []) :
    ∃ chosen, next? orders = some chosen := by
  obtain ⟨member, left⟩ := List.exists_mem_of_ne_nil _ some_left
  obtain ⟨order, isOrder, inOrder⟩ := List.mem_flatten.mp left
  have present : (common.find? fun member => decide (member ∈ orders.flatten)).isSome = true :=
    List.find?_isSome.mpr ⟨member, (kept order isOrder).subset inOrder, decide_eq_true left⟩
  obtain ⟨first, found⟩ := Option.isSome_iff_exists.mp present
  obtain ⟨firstLeft, front, back, split, passed⟩ := List.find?_eq_some_iff_append.mp found
  have absent : first ∉ back := by
    rw [split] at nodup
    exact (List.nodup_cons.mp nodup.of_append_right).1
  -- What comes before it in the common order is gone from all orders.
  have later : ∀ order ∈ orders, order.Sublist (first :: back) := by
    intro order isOrder
    obtain ⟨early, late, rfl, isEarly, isLate⟩ :=
      List.sublist_append_iff.mp (split ▸ kept order isOrder)
    cases early with
    | nil => exact isLate
    | cons head early =>
        have gone := passed head (isEarly.subset List.mem_cons_self)
        have here : head ∈ orders.flatten :=
          List.mem_flatten.mpr ⟨_, isOrder, List.mem_cons_self⟩
        simp [here] at gone
  have heads : ∃ order ∈ orders, order.head? = some first := by
    obtain ⟨order, isOrder, inOrder⟩ := List.mem_flatten.mp (of_decide_eq_true firstLeft)
    refine ⟨order, isOrder, ?_⟩
    cases later order isOrder with
    | cons _ sublist => exact absurd (sublist.subset inOrder) absent
    | cons_cons _ _ => rfl
  have free : isFree orders first = true := by
    simp only [isFree, List.all_eq_true, Bool.not_eq_true', List.contains_eq_mem,
      decide_eq_false_iff_not]
    intro order isOrder inTail
    cases later order isOrder with
    | cons _ sublist => exact absent (sublist.subset (List.mem_of_mem_tail inTail))
    | cons_cons _ sublist => exact absent (sublist.subset inTail)
  exact Option.isSome_iff_exists.mp
    (List.find?_isSome.mpr ⟨first, List.mem_filterMap.mpr heads, free⟩)

theorem exists_merge {common : List α} (nodup : common.Nodup) (count : Nat) :
    ∀ {orders : List (List α)}, (∀ order ∈ orders, order.Sublist common) →
      ∃ merged, merge count orders = some merged := by
  induction count with
  | zero => exact fun _ => ⟨[], rfl⟩
  | succ count ih =>
      intro orders kept
      rw [merge]
      split
      · exact ⟨[], rfl⟩
      · next some_left =>
          obtain ⟨chosen, found⟩ :=
            exists_next? nodup kept fun none_left => some_left (List.isEmpty_iff.mpr none_left)
          have keptStill : ∀ order ∈ orders.map (without chosen), order.Sublist common := by
            intro _ inside
            obtain ⟨order, isOrder, rfl⟩ := List.mem_map.mp inside
            exact (without_sublist chosen order).trans (kept order isOrder)
          obtain ⟨merged, made⟩ := ih keptStill
          exact ⟨chosen :: merged, by rw [found, Option.bind_some, made, Option.map_some]⟩

theorem merges_of_linearise (made : linearise orders = some merged) : Merges orders merged :=
  merges_of_merge (Nat.le_refl _) made

theorem linearise_isSome_iff (orders : List (List α)) :
    (linearise orders).isSome = true ↔
      ∃ common : List α, common.Nodup ∧ ∀ order ∈ orders, order.Sublist common := by
  rw [Option.isSome_iff_exists]
  constructor
  · rintro ⟨merged, made⟩
    have merges := merges_of_linearise made
    exact ⟨merged, merges.nodup, merges.sublist⟩
  · rintro ⟨common, nodup, kept⟩
    exact exists_merge nodup _ kept

example : linearise [[2, 0], [1, 0], [2, 1]] = some [2, 1, 0] ∧
    linearise [[2, 1], [1, 2]] = none := by
  decide

section Interleaved

variable (own : α → Bool)

/-- One order for many that have members of their own between shared ones: all their own members
before the first shared one come first. -/
def interleaved : (shared : List α) → (orders : List (List α)) → List α
  | [], orders => orders.flatMap (List.filter own)
  | next :: shared, orders =>
      orders.flatMap (List.takeWhile own) ++
        next :: interleaved shared (orders.map fun order => without next (order.dropWhile own))

variable {own}

omit [DecidableEq α] in
theorem not_own_of_dropWhile {head : α} {tail : List α}
    (left : order.dropWhile own = head :: tail) : own head = false := by
  have stops := List.head?_dropWhile_not own order
  rw [left] at stops
  simpa using stops

theorem filter_without_sublist {next : α} {shared : List α}
    (sublist : (order.filter fun member => !own member).Sublist (next :: shared)) :
    ((without next (order.dropWhile own)).filter fun member => !own member).Sublist shared := by
  have none_ahead : (order.takeWhile own).filter (fun member => !own member) = [] :=
    List.filter_eq_nil_iff.mpr fun _ inside => by simp [List.mem_takeWhile_imp inside]
  rw [← @List.takeWhile_append_dropWhile _ own order, List.filter_append, none_ahead,
    List.nil_append] at sublist
  cases left : order.dropWhile own with
  | nil => exact List.nil_sublist _
  | cons head tail =>
      have shared := not_own_of_dropWhile left
      rw [left, List.filter_cons_of_pos (by simp [shared])] at sublist
      rw [without]
      split
      · next same => exact List.cons_sublist_cons.mp (same ▸ sublist)
      · next apart =>
          rw [List.filter_cons_of_pos (by simp [shared])]
          cases sublist with
          | cons _ rest => exact rest
          | cons_cons _ _ => exact absurd rfl apart

theorem filter_without_dropWhile (next : α) (order : List α) :
    (without next (order.dropWhile own)).filter own = (order.dropWhile own).filter own := by
  cases left : order.dropWhile own with
  | nil => rfl
  | cons head tail =>
      have shared := not_own_of_dropWhile left
      rw [without]
      split
      · rw [List.filter_cons_of_neg (by simp [shared])]
      · rfl

/-- Every own member of an order comes once, and so does every shared one. -/
theorem interleaved_perm (shared : List α) : ∀ orders : List (List α),
    (interleaved own shared orders).Perm (orders.flatMap (List.filter own) ++ shared) := by
  induction shared with
  | nil =>
      intro orders
      rw [List.append_nil]
      exact .refl _
  | cons next shared ih =>
      intro orders
      have later := ih (orders.map fun order => without next (order.dropWhile own))
      simp only [List.flatMap_map, filter_without_dropWhile] at later
      have parts (order : List α) : order.takeWhile own ++ (order.dropWhile own).filter own =
          order.filter own := by
        have whole : (order.takeWhile own).filter own = order.takeWhile own :=
          List.filter_eq_self.mpr fun _ => List.mem_takeWhile_imp
        conv_rhs => rw [← @List.takeWhile_append_dropWhile _ own order, List.filter_append, whole]
      have both := List.flatMap_append_perm orders (List.takeWhile own) fun order =>
        (order.dropWhile own).filter own
      simp only [parts] at both
      refine ((later.cons next).append_left _).trans ?_
      refine (List.perm_middle.symm.append_left _).trans ?_
      rw [← List.append_assoc]
      exact both.append_right _

theorem sublist_interleaved {shared : List α} : ∀ {orders : List (List α)} {order : List α},
    order ∈ orders → (order.filter fun member => !own member).Sublist shared →
      order.Sublist (interleaved own shared orders) := by
  induction shared with
  | nil =>
      intro orders order isOrder sublist
      have all : order.filter own = order := by
        simpa using List.sublist_nil.mp sublist
      rw [← all, interleaved, List.flatMap_def]
      exact List.sublist_flatten_of_mem (List.mem_map_of_mem isOrder)
  | cons next shared ih =>
      intro orders order isOrder sublist
      have ahead : (order.takeWhile own).Sublist (orders.flatMap (List.takeWhile own)) := by
        rw [List.flatMap_def]
        exact List.sublist_flatten_of_mem (List.mem_map_of_mem isOrder)
      have left : without next (order.dropWhile own) ∈
          orders.map fun order => without next (order.dropWhile own) :=
        List.mem_map.mpr ⟨order, isOrder, rfl⟩
      have behind := ih left (filter_without_sublist sublist)
      rw [← @List.takeWhile_append_dropWhile _ own order, interleaved]
      exact ahead.append (sublist_cons_of_without behind)

theorem nodup_interleaved {shared : List α} (orders : List (List α)) (nodup : shared.Nodup)
    (notOwn : ∀ member ∈ shared, own member = false)
    (apart : (orders.flatMap (List.filter own)).Nodup) :
    (interleaved own shared orders).Nodup := by
  rw [(interleaved_perm shared orders).nodup_iff]
  refine List.nodup_append'.mpr ⟨apart, nodup, fun member isOwn isShared => ?_⟩
  obtain ⟨order, _, held⟩ := List.mem_flatMap.mp isOwn
  have own := (List.mem_filter.mp held).2
  rw [notOwn member isShared] at own
  contradiction

end Interleaved

end AgentGraph.Linearisation
