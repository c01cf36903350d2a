import AgentGraph.Proofs.Naming.Fallback
import Mathlib.Data.List.Nodup
import Mathlib.Logic.Function.Iterate

/-!
The search for a fallback, round by round, with a counter that holds numbers up to a limit: the
next numbered name is put among the taken ones, and the search is over where it was not there
before, or where the counter cannot go on. Where the counter has room for as many numbers as there
are taken names, the search ends with the first free name, after at most one round more; and
searches that follow each other find different names.
-/

namespace AgentGraph.Naming

inductive Search where
  | trying (number : Nat) (taken : List String)
  | found (name : String) (taken : List String)
  | overflowed

/-- The taken names with `name` among them, and whether it is new there. -/
def record (name : String) (taken : List String) : Bool × List String :=
  if name ∈ taken then (false, taken) else (true, name :: taken)

def Search.round (limit : Nat) (stem : String) : Search → Search
  | .trying number taken =>
      match record (numbered stem number) taken with
      | (true, taken) => .found (numbered stem number) taken
      | (false, taken) => if number < limit then .trying (number + 1) taken else .overflowed
  | .found name taken => .found name taken
  | .overflowed => .overflowed

/-- Whether the search from `start` is over in time, as `last`. -/
def Search.EndsAs (limit : Nat) (stem : String) (start : Nat) (taken : List String)
    (last : Search) : Prop :=
  ∃ rounds ≤ taken.toFinset.card + 1, (round limit stem)^[rounds] (.trying start taken) = last

/-- Whether no number that the counter can reach is free. -/
def IsFull (limit : Nat) (stem : String) (start : Nat) (taken : List String) : Prop :=
  ∀ number, start ≤ number → number ≤ limit → numbered stem number ∈ taken

structure FindsFirstFree (limit : Nat) (stem : String) (start : Nat) (taken : List String)
    (outcome : String × List String) : Prop where
  ends : Search.EndsAs limit stem start taken (.found outcome.1 outcome.2)
  first : ∃ number ≤ limit,
    IsLeast (freeNumbers stem start taken) number ∧ outcome.1 = numbered stem number
  records : ∀ name, name ∈ outcome.2 ↔ name = outcome.1 ∨ name ∈ taken

/-- Whether calls with these stems and numbers, one after the other, return `names` and leave
`after` as the taken names. -/
inductive Search.Returns (limit : Nat) : (calls : List (String × Nat)) → (taken : List String) →
    (names after : List String) → Prop where
  | nil (taken : List String) : Returns limit [] taken [] taken
  | cons {stem : String} {start rounds : Nat} {calls : List (String × Nat)}
      {taken between names after : List String} {name : String}
      (found : (round limit stem)^[rounds] (.trying start taken) = .found name between)
      (later : Returns limit calls between names after) :
      Returns limit ((stem, start) :: calls) taken (name :: names) after

def fallbacks : List (String × Nat) → List String → List String × List String
  | [], taken => ([], taken)
  | (stem, start) :: calls, taken =>
      let (name, taken) := fallback stem start taken
      let (names, taken) := fallbacks calls taken
      (name :: names, taken)

/-- Whether each call returned a name that was not taken before, and is taken from then on. -/
structure ReturnsNew (calls : List (String × Nat)) (taken names after : List String) : Prop where
  length : names.length = calls.length
  nodup : names.Nodup
  new : names.Disjoint taken
  records : ∀ name, name ∈ after ↔ name ∈ names ∨ name ∈ taken

namespace Search

variable {limit : Nat} {stem : String} {start number : Nat} {taken : List String}

theorem round_of_mem (used : numbered stem number ∈ taken) (room : number < limit) :
    round limit stem (.trying number taken) = .trying (number + 1) taken := by
  simp only [round, record, if_pos used, if_pos room]

theorem round_of_last (used : numbered stem number ∈ taken) (last : limit ≤ number) :
    round limit stem (.trying number taken) = .overflowed := by
  simp only [round, record, if_pos used, if_neg (Nat.not_lt.mpr last)]

theorem round_of_not_mem (free : numbered stem number ∉ taken) :
    round limit stem (.trying number taken) =
      .found (numbered stem number) (numbered stem number :: taken) := by
  simp only [round, record, if_neg free]

theorem iterate_round (rounds : Nat) (room : start + rounds ≤ limit)
    (used : ∀ number, start ≤ number → number < start + rounds →
      numbered stem number ∈ taken) :
    (round limit stem)^[rounds] (.trying start taken) = .trying (start + rounds) taken := by
  induction rounds with
  | zero => rfl
  | succ rounds ih =>
      have earlier := ih (by omega) fun number bound before => used number bound (by omega)
      rw [Function.iterate_succ_apply', earlier,
        round_of_mem (used (start + rounds) (by omega) (by omega)) (by omega), Nat.add_assoc]

theorem iterate_round_of_isLeast (least : IsLeast (freeNumbers stem start taken) number)
    (room : number ≤ limit) :
    (round limit stem)^[number - start + 1] (.trying start taken) =
      .found (numbered stem number) (numbered stem number :: taken) := by
  obtain ⟨⟨bound, free⟩, first⟩ := least
  have used : ∀ other, start ≤ other → other < start + (number - start) →
      numbered stem other ∈ taken := by
    intro other otherBound before
    by_contra otherFree
    have later := first ⟨otherBound, otherFree⟩
    omega
  have reached : start + (number - start) = number := by omega
  have passed : (round limit stem)^[number - start] (.trying start taken) =
      .trying (start + (number - start)) taken := iterate_round _ (by omega) used
  rw [Function.iterate_succ_apply', passed, reached, round_of_not_mem free]

theorem iterate_round_of_used (fits : start ≤ limit)
    (used : ∀ number, start ≤ number → number ≤ limit → numbered stem number ∈ taken) :
    (round limit stem)^[limit - start + 1] (.trying start taken) = .overflowed := by
  have reached : start + (limit - start) = limit := by omega
  have passed : (round limit stem)^[limit - start] (.trying start taken) =
      .trying (start + (limit - start)) taken :=
    iterate_round _ (by omega) fun number bound before => used number bound (by omega)
  rw [Function.iterate_succ_apply', passed, reached,
    round_of_last (used limit fits (Nat.le_refl limit)) (Nat.le_refl limit)]

/-- What a search tells at any time of the numbers that it has passed. -/
def Tells (limit : Nat) (stem : String) (start : Nat) (taken : List String) : Search → Prop
  | .trying number held => held = taken ∧ start ≤ number ∧
      ∀ earlier, start ≤ earlier → earlier < number → numbered stem earlier ∈ taken
  | .found name held => ∃ number, IsLeast (freeNumbers stem start taken) number ∧
      name = numbered stem number ∧ held = name :: taken
  | .overflowed => IsFull limit stem start taken

theorem tells_round {search : Search} (tells : search.Tells limit stem start taken) :
    (search.round limit stem).Tells limit stem start taken := by
  cases search with
  | found | overflowed => exact tells
  | trying number held =>
      obtain ⟨rfl, bound, passed⟩ := tells
      by_cases used : numbered stem number ∈ held
      · have still : ∀ earlier, start ≤ earlier → earlier < number + 1 →
            numbered stem earlier ∈ held := by
          intro earlier later before
          rcases Nat.lt_succ_iff_lt_or_eq.mp before with before | rfl
          · exact passed earlier later before
          · exact used
        by_cases room : number < limit
        · rw [round_of_mem used room]
          exact ⟨rfl, Nat.le_succ_of_le bound, still⟩
        · rw [round_of_last used (Nat.not_lt.mp room)]
          exact fun earlier later inside => still earlier later (by omega)
      · rw [round_of_not_mem used]
        refine ⟨number, ⟨⟨bound, used⟩, fun other free => ?_⟩, rfl, rfl⟩
        by_contra before
        exact free.2 (passed other free.1 (Nat.not_le.mp before))

theorem tells_iterate_round (limit : Nat) (stem : String) (start : Nat) (taken : List String)
    (rounds : Nat) :
    ((round limit stem)^[rounds] (.trying start taken)).Tells limit stem start taken := by
  induction rounds with
  | zero =>
      exact ⟨rfl, Nat.le_refl start, fun _ later before =>
        absurd later (Nat.not_le.mpr before)⟩
  | succ rounds ih =>
      rw [Function.iterate_succ_apply']
      exact tells_round ih

theorem endsAs_overflowed_iff (fits : start ≤ limit) :
    EndsAs limit stem start taken .overflowed ↔ IsFull limit stem start taken := by
  constructor
  · rintro ⟨rounds, _, last⟩
    have tells := tells_iterate_round limit stem start taken rounds
    rw [last] at tells
    exact tells
  · intro full
    obtain ⟨step, bound, free⟩ := exists_free stem start taken
    have beyond : limit < start + step := by
      by_contra inside
      exact free (full (start + step) (by omega) (by omega))
    exact ⟨_, by omega, iterate_round_of_used fits full⟩

end Search

theorem isLeast_le_add_card {stem : String} {start number : Nat} {taken : List String}
    (least : IsLeast (freeNumbers stem start taken) number) :
    number ≤ start + taken.toFinset.card := by
  obtain ⟨step, bound, free⟩ := exists_free stem start taken
  have first := least.2 ⟨Nat.le_add_right start step, free⟩
  omega

theorem not_isFull_of_room {limit : Nat} {stem : String} {start : Nat} {taken : List String}
    (room : start + taken.toFinset.card ≤ limit) : ¬ IsFull limit stem start taken := by
  intro full
  obtain ⟨step, bound, free⟩ := exists_free stem start taken
  exact free (full (start + step) (by omega) (by omega))

theorem findsFirstFree_iff (limit : Nat) (stem : String) (start : Nat) (taken : List String) :
    FindsFirstFree limit stem start taken (fallback stem start taken) ↔
      ¬ IsFull limit stem start taken := by
  have least := isLeast_fallback stem start taken
  constructor
  · rintro ⟨_, ⟨number, inside, isLeast, _⟩, _⟩ full
    exact isLeast.1.2 (full number isLeast.1.1 inside)
  · intro some_free
    simp only [IsFull, not_forall] at some_free
    obtain ⟨number, bound, inside, free⟩ := some_free
    have room := (least.2 ⟨bound, free⟩).trans inside
    have near := isLeast_le_add_card least
    exact {
      ends := ⟨_, by omega, Search.iterate_round_of_isLeast least room⟩
      first := ⟨_, room, least, rfl⟩
      records := fun _ => List.mem_cons }

theorem Search.Returns.returnsNew {limit : Nat} {calls : List (String × Nat)}
    {taken names after : List String} (returns : Returns limit calls taken names after) :
    ReturnsNew calls taken names after := by
  induction returns with
  | nil taken =>
      exact ⟨rfl, List.nodup_nil, List.disjoint_nil_left taken, fun _ => by simp⟩
  | @cons stem start rounds calls taken between names after name found later ih =>
      have tells := tells_iterate_round limit stem start taken rounds
      rw [found] at tells
      obtain ⟨number, least, rfl, rfl⟩ := tells
      obtain ⟨apart, disjoint⟩ := List.disjoint_cons_right.mp ih.new
      refine ⟨?_, ?_, ?_, ?_⟩
      · rw [List.length_cons, List.length_cons, ih.length]
      · exact List.nodup_cons.mpr ⟨apart, ih.nodup⟩
      · exact List.disjoint_cons_left.mpr ⟨least.1.2, disjoint⟩
      · intro other
        rw [ih.records, List.mem_cons, List.mem_cons]
        tauto

theorem returns_fallbacks (limit : Nat) (calls : List (String × Nat)) :
    ∀ taken : List String,
      (∀ call ∈ calls, call.2 + taken.toFinset.card + calls.length ≤ limit + 1) →
        Search.Returns limit calls taken (fallbacks calls taken).1 (fallbacks calls taken).2 := by
  induction calls with
  | nil => exact fun taken _ => .nil taken
  | cons call calls ih =>
      obtain ⟨stem, start⟩ := call
      intro taken room
      have own := room (stem, start) List.mem_cons_self
      rw [List.length_cons] at own
      have finds := (findsFirstFree_iff limit stem start taken).mpr
        (not_isFull_of_room (by omega))
      obtain ⟨_, _, found⟩ := finds.ends
      refine .cons found (ih _ fun call inside => ?_)
      have one_more : (fallback stem start taken).2.toFinset.card ≤ taken.toFinset.card + 1 := by
        rw [fallback, List.toFinset_cons]
        exact Finset.card_insert_le _ _
      have before := room call (List.mem_cons_of_mem _ inside)
      rw [List.length_cons] at before
      omega

/-- With a counter that goes up to `limit`, a search finds the fallback, which is the first free
name, wherever one is in reach, as one is where the counter has room for the taken names; else it
overflows. Calls that return one after the other return new names, each once. -/
theorem fallbacks_firstFree_and_new (limit : Nat) :
    (∀ stem start taken, start + taken.toFinset.card ≤ limit →
        FindsFirstFree limit stem start taken (fallback stem start taken)) ∧
      (∀ stem start taken, start ≤ limit →
        (FindsFirstFree limit stem start taken (fallback stem start taken) ↔
          ¬ IsFull limit stem start taken) ∧
        (Search.EndsAs limit stem start taken .overflowed ↔ IsFull limit stem start taken)) ∧
      (∀ calls taken names after, Search.Returns limit calls taken names after →
        ReturnsNew calls taken names after) ∧
      ∀ calls taken,
        (∀ call ∈ calls, call.2 + taken.toFinset.card + calls.length ≤ limit + 1) →
          Search.Returns limit calls taken (fallbacks calls taken).1
            (fallbacks calls taken).2 :=
  ⟨fun stem start taken room =>
      (findsFirstFree_iff limit stem start taken).mpr (not_isFull_of_room room),
    fun stem start taken fits =>
      ⟨findsFirstFree_iff limit stem start taken, Search.endsAs_overflowed_iff fits⟩,
    fun _ _ _ _ returns => returns.returnsNew, returns_fallbacks limit⟩

/-- A counter of 64 bits. It overflows where the name with its largest number is taken. Of four
calls in turn, the second one passes over the name of the first one, and the last one, with
another stem, over the name of the third one. -/
theorem fallbacks_firstFree_and_new_word :
    (1 + ["agent1"].toFinset.card ≤ UInt64.size - 1 ∧
      FindsFirstFree (UInt64.size - 1) "agent" 1 ["agent1"] ("agent2", ["agent2", "agent1"])) ∧
    (IsFull (UInt64.size - 1) "agent" (UInt64.size - 1) ["agent18446744073709551615"] ∧
      Search.EndsAs (UInt64.size - 1) "agent" (UInt64.size - 1) ["agent18446744073709551615"]
        .overflowed) ∧
    Search.Returns (UInt64.size - 1) [("agent", 1), ("agent", 2), ("agent", 11), ("agent1", 1)]
      ["agent1"] ["agent2", "agent3", "agent11", "agent12"]
      ["agent12", "agent11", "agent3", "agent2", "agent1"] ∧
    ReturnsNew [("agent", 1), ("agent", 2), ("agent", 11), ("agent1", 1)] ["agent1"]
      ["agent2", "agent3", "agent11", "agent12"]
      ["agent12", "agent11", "agent3", "agent2", "agent1"] := by
  obtain ⟨finds, overflows, new, returns⟩ := fallbacks_firstFree_and_new (UInt64.size - 1)
  have full : IsFull (UInt64.size - 1) "agent" (UInt64.size - 1) ["agent18446744073709551615"] := by
    intro number bound inside
    obtain rfl := Nat.le_antisymm inside bound
    decide +kernel
  have inTurn := returns [("agent", 1), ("agent", 2), ("agent", 11), ("agent1", 1)] ["agent1"]
    (by decide)
  have outcome : fallbacks [("agent", 1), ("agent", 2), ("agent", 11), ("agent1", 1)]
      ["agent1"] = (["agent2", "agent3", "agent11", "agent12"],
        ["agent12", "agent11", "agent3", "agent2", "agent1"]) := by
    decide +kernel
  have second : fallback "agent" 1 ["agent1"] = ("agent2", ["agent2", "agent1"]) := by
    decide +kernel
  rw [outcome] at inTurn
  exact ⟨⟨by decide, second ▸ finds "agent" 1 ["agent1"] (by decide)⟩,
    ⟨full, (overflows _ _ _ (Nat.le_refl _)).2.mpr full⟩, inTurn, new _ _ _ _ inTurn⟩

end AgentGraph.Naming
