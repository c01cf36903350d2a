import AgentGraph.Proofs.Naming.Words

/-!
Made-up names are identifiers, and never reserved: they end in a digit, and no reserved
name does.
-/

namespace AgentGraph.Naming

variable {stem name : String} {taken : List String} {typed : Option String}

theorem isIdentifier_numbered (identifier : isIdentifier stem = true) (number : Nat) :
    isIdentifier (numbered stem number) = true := by
  unfold isIdentifier at identifier ⊢
  cases chars : stem.toList with
  | nil => simp [chars] at identifier
  | cons head rest =>
      rw [chars] at identifier
      obtain ⟨start, others⟩ := Bool.and_eq_true_iff.mp identifier
      have digits : (Nat.toDigits 10 number).all isNameChar = true := by
        rw [← Nat.toList_repr]
        exact List.all_eq_true.mpr (isWord_repr number)
      rw [toList_numbered, chars]
      simp [start, others, digits]

theorem isDigit_last_of_isReserved {c : Char} (reserved : isReserved name = true)
    (last : name.toList.getLast? = some c) : c.isDigit = false := by
  have table : (keywords ++ programNames).all (fun name =>
      name.toList.getLast?.all fun c => !c.isDigit) = true := by decide
  rw [isReserved, Bool.or_eq_true, List.contains_iff_mem, List.contains_iff_mem] at reserved
  have shown := List.all_eq_true.mp table name (List.mem_append.mpr reserved)
  rwa [last, Option.all_some, Bool.not_eq_true'] at shown

theorem isReserved_numbered (stem : String) (number : Nat) :
    isReserved (numbered stem number) = false := by
  have some_digits : Nat.toDigits 10 number ≠ [] := Nat.toDigits_ne_nil
  have last : (numbered stem number).toList.getLast? =
      some ((Nat.toDigits 10 number).getLast some_digits) := by
    rw [toList_numbered, List.getLast?_append_of_ne_nil _ some_digits,
      List.getLast?_eq_some_getLast some_digits]
  have digit : ((Nat.toDigits 10 number).getLast some_digits).isDigit = true :=
    Nat.isDigit_of_mem_toDigits (by decide) (by decide) (List.getLast_mem some_digits)
  cases reserved : isReserved (numbered stem number) with
  | false => rfl
  | true =>
      rw [isDigit_last_of_isReserved reserved last] at digit
      contradiction

theorem IsResolved.isIdentifier (resolved : IsResolved stem taken typed name)
    (stemIsIdentifier : isIdentifier stem = true)
    (typedIsIdentifier : ∀ name ∈ typed, Naming.isIdentifier name = true) :
    Naming.isIdentifier name = true := by
  rcases resolved with isTyped | ⟨_, _, number, rfl⟩
  · exact typedIsIdentifier name isTyped
  · exact isIdentifier_numbered stemIsIdentifier number

theorem IsResolved.isReserved (resolved : IsResolved stem taken typed name)
    (typedIsFree : ∀ name ∈ typed, Naming.isReserved name = false) :
    Naming.isReserved name = false := by
  rcases resolved with isTyped | ⟨_, _, number, rfl⟩
  · exact typedIsFree name isTyped
  · exact isReserved_numbered stem number

end AgentGraph.Naming
