import AgentGraph.Naming.Fallback
import AgentGraph.Proofs.Binary64.Text
import Mathlib.Data.Finset.Card
import Mathlib.Order.Bounds.Defs

/-!
Fallbacks are new: of the names with consecutive numbers more are tried than are taken. The
number of a fallback is the first one from the given number on whose name is free.
-/

namespace AgentGraph.Naming

theorem toList_numbered (stem : String) (number : Nat) :
    (numbered stem number).toList = stem.toList ++ Nat.toDigits 10 number := by
  rw [numbered, String.toList_append, Nat.toList_repr]

theorem numbered_injective (stem : String) : Function.Injective (numbered stem) := by
  intro first second same
  have chars := congrArg String.toList same
  rw [toList_numbered, toList_numbered] at chars
  exact toDigits_injective (List.append_cancel_left chars)

/-- The numbers from `start` on whose names are not taken. -/
def freeNumbers (stem : String) (start : Nat) (taken : List String) : Set Nat :=
  {number | start ≤ number ∧ numbered stem number ∉ taken}

theorem isLeast_freeNumbers_self {stem : String} {start : Nat} {taken : List String}
    (free : numbered stem start ∉ taken) : IsLeast (freeNumbers stem start taken) start :=
  ⟨⟨Nat.le_refl start, free⟩, fun _ inside => inside.1⟩

theorem freeNumbers_succ {stem : String} {start : Nat} {taken : List String}
    (used : numbered stem start ∈ taken) :
    freeNumbers stem (start + 1) taken = freeNumbers stem start taken := by
  ext number
  refine ⟨fun ⟨later, free⟩ => ⟨Nat.le_of_succ_le later, free⟩, fun ⟨bound, free⟩ => ⟨?_, free⟩⟩
  have other : start ≠ number := by
    rintro rfl
    exact free used
  omega

theorem isLeast_firstFree {stem : String} {taken : List String} (fuel : Nat) :
    ∀ {start : Nat}, (∃ step ≤ fuel, numbered stem (start + step) ∉ taken) →
      IsLeast (freeNumbers stem start taken) (firstFree stem taken fuel start) := by
  induction fuel with
  | zero =>
      rintro start ⟨step, atStart, free⟩
      obtain rfl := Nat.le_zero.mp atStart
      exact isLeast_freeNumbers_self free
  | succ fuel ih =>
      rintro start ⟨step, bound, free⟩
      rw [firstFree]
      split
      · next used =>
          cases step with
          | zero => exact absurd used free
          | succ step =>
              rw [← freeNumbers_succ used]
              refine ih ⟨step, Nat.le_of_succ_le_succ bound, ?_⟩
              rwa [Nat.add_assoc, Nat.add_comm 1]
      · next unused => exact isLeast_freeNumbers_self unused

/-- As many names as are taken, and one more, cannot all be taken. -/
theorem exists_free (stem : String) (start : Nat) (taken : List String) :
    ∃ step ≤ taken.toFinset.card, numbered stem (start + step) ∉ taken := by
  let tried := (Finset.range (taken.toFinset.card + 1)).image fun step =>
    numbered stem (start + step)
  have different : tried.card = taken.toFinset.card + 1 := by
    rw [Finset.card_image_of_injective, Finset.card_range]
    exact fun first second same => Nat.add_left_cancel (numbered_injective stem same)
  have fewer : taken.toFinset.card < tried.card := by omega
  obtain ⟨name, inside, free⟩ := Finset.exists_mem_notMem_of_card_lt_card fewer
  obtain ⟨step, bound, rfl⟩ := Finset.mem_image.mp inside
  refine ⟨step, Nat.le_of_lt_succ (Finset.mem_range.mp bound), fun used => free ?_⟩
  exact List.mem_toFinset.mpr used

/-- The number of a fallback is the first one that is free. -/
theorem isLeast_fallback (stem : String) (start : Nat) (taken : List String) :
    IsLeast (freeNumbers stem start taken) (firstFree stem taken taken.length start) := by
  obtain ⟨step, bound, free⟩ := exists_free stem start taken
  exact isLeast_firstFree _ ⟨step, bound.trans taken.toFinset_card_le, free⟩

theorem fallback_not_mem (stem : String) (start : Nat) (taken : List String) :
    (fallback stem start taken).1 ∉ taken :=
  (isLeast_fallback stem start taken).1.2

/-- What a field resolves to: what was typed into it, or else a new numbered name. -/
theorem resolve_cases (stem : String) (start : Nat) (field : String) (taken : List String) :
    (∃ name, typed? field = some name ∧ resolve stem start field taken = (name, taken)) ∨
      ∃ number, typed? field = none ∧ numbered stem number ∉ taken ∧
        resolve stem start field taken =
          (numbered stem number, numbered stem number :: taken) := by
  unfold resolve
  cases typed? field with
  | some name => exact .inl ⟨name, rfl, rfl⟩
  | none => exact .inr ⟨_, rfl, fallback_not_mem stem start taken, rfl⟩

end AgentGraph.Naming
