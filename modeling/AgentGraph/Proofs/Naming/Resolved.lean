import AgentGraph.Program.Plan
import AgentGraph.Proofs.Dict.Lookup
import AgentGraph.Proofs.Naming.Fallback

/-!
The names in the generated program. Each is the one that was typed, or a numbered one
that was not taken before.
-/

namespace AgentGraph

namespace Naming

/-- Whether `name` is the typed name or, for want of one, a numbered one not in `taken`. -/
def IsResolved (stem : String) (taken : List String) (typed : Option String)
    (name : String) : Prop :=
  typed = some name ∨
    typed = none ∧ name ∉ taken ∧ ∃ number, name = numbered stem number

variable {stem field : String} {start : Nat} {taken more : List String}

theorem IsResolved.mono {typed : Option String} {name : String} (subset : taken ⊆ more)
    (resolved : IsResolved stem more typed name) : IsResolved stem taken typed name := by
  rcases resolved with same | ⟨none, free, numbered⟩
  · exact .inl same
  · exact .inr ⟨none, fun inside => free (subset inside), numbered⟩

theorem IsResolved.eq_of_typed {typed name : String}
    (resolved : IsResolved stem taken (some typed) name) : typed = name := by
  rcases resolved with same | ⟨none, _, _⟩
  · exact Option.some.inj same
  · contradiction

/-- A made-up name is none of the taken ones. -/
theorem IsResolved.not_mem {typed : Option String} {name : String}
    (resolved : IsResolved stem taken typed name) (untyped : typed = none) : name ∉ taken := by
  rcases resolved with isTyped | ⟨_, free, _⟩
  · rw [untyped] at isTyped
    contradiction
  · exact free

theorem resolve_isResolved :
    IsResolved stem taken (typed? field) (resolve stem start field taken).1 := by
  rcases resolve_cases stem start field taken with
    ⟨name, typed, same⟩ | ⟨number, typed, free, same⟩
  · rw [typed, same]
    exact .inl rfl
  · rw [typed, same]
    exact .inr ⟨rfl, free, number, rfl⟩

theorem subset_resolve : taken ⊆ (resolve stem start field taken).2 := by
  rcases resolve_cases stem start field taken with
    ⟨name, _, same⟩ | ⟨number, _, _, same⟩
  · rw [same]
    exact List.Subset.refl _
  · rw [same]
    exact List.subset_cons_self _ _

end Naming

open Naming

namespace Relations

/-- What the names of an agent are resolved from. -/
structure Identifies (settings : Settings) (names classes : List String) (node : Node)
    (identity : Identity) : Prop where
  isAgent : node.payload.isAgent = true
  instanceName : IsResolved "agent" names node.instanceName? identity.instanceName
  className : IsResolved "MyAgent" classes node.agentClass? identity.className
  jid : ∀ agent ∈ node.payload.agent?, identity.jid =
    identity.instanceName ++ "@" ++ Text.trimmedOr agent.host settings.defaultHost

variable {settings : Settings}

theorem resolveAgents_mem {nodes : List Node} :
    ∀ {number : Nat} {names classes : List String} {entry : String × Identity},
      entry ∈ resolveAgents settings number names classes nodes →
        ∃ node ∈ nodes, node.id = entry.1 ∧
          Identifies settings names classes node entry.2 := by
  induction nodes with
  | nil => exact fun inside => absurd inside List.not_mem_nil
  | cons node nodes ih =>
      intro number names classes entry inside
      rw [resolveAgents] at inside
      cases agent : node.payload.agent? with
      | none =>
          rw [agent] at inside
          obtain ⟨other, held, sameId, identifies⟩ := ih inside
          exact ⟨other, List.mem_cons_of_mem _ held, sameId, identifies⟩
      | some settings =>
          rw [agent] at inside
          rcases List.mem_cons.mp inside with here | there
          · refine ⟨node, List.mem_cons_self, by rw [here], ?_, ?_, ?_, ?_⟩
            · rw [Payload.isAgent, agent]
              rfl
            · rw [here, Node.instanceName?, agent]
              exact resolve_isResolved
            · rw [here, Node.agentClass?, agent]
              exact resolve_isResolved
            · intro other given
              rw [agent] at given
              injection given with same
              rw [here, same]
          · obtain ⟨other, held, sameId, identifies⟩ := ih there
            exact ⟨other, List.mem_cons_of_mem _ held, sameId, identifies.isAgent,
              identifies.instanceName.mono subset_resolve,
              identifies.className.mono subset_resolve, identifies.jid⟩

theorem resolveAgents_ids (nodes : List Node) : ∀ (number : Nat) (names classes : List String),
    (resolveAgents settings number names classes nodes).map Prod.fst =
      (nodes.filter Node.isAgent).map Node.id := by
  induction nodes with
  | nil => exact fun _ _ _ => rfl
  | cons node nodes ih =>
      intro number names classes
      rw [resolveAgents]
      cases agent : node.payload.agent? with
      | none =>
          have other : node.isAgent = false := by rw [Node.isAgent, Payload.isAgent, agent]; rfl
          rw [List.filter_cons_of_neg (by simp [other])]
          exact ih number names classes
      | some settings =>
          have own : node.isAgent = true := by rw [Node.isAgent, Payload.isAgent, agent]; rfl
          rw [List.filter_cons_of_pos own, List.map_cons, List.map_cons, ih]

theorem identitiesOf_find? {nodes : List Node} {id : String} {identity : Identity}
    (found : (identitiesOf settings nodes).find? id = some identity) :
    ∃ node ∈ nodes, node.id = id ∧
      Identifies settings (instanceNames nodes) (allClasses nodes) node identity :=
  resolveAgents_mem (Dict.mem_entries_ofList (Dict.find?_eq_some_iff.mp found))

theorem identitiesOf_isSome {nodes : List Node} {node : Node} (inside : node ∈ nodes)
    (isAgent : node.isAgent = true) :
    ((identitiesOf settings nodes).find? node.id).isSome = true := by
  rw [identitiesOf, Dict.find?_ofList_isSome, resolveAgents_ids]
  exact List.mem_map_of_mem (List.mem_filter.mpr ⟨inside, isAgent⟩)

end Relations

namespace Plan

theorem resolveBehaviours_find? {nodes : List Node} :
    ∀ {found : Dict String} {taken : List String} {id className : String},
      (resolveBehaviours found taken nodes).find? id = some className →
        found.find? id = some className ∨
          ∃ node ∈ nodes, node.id = id ∧ node.payload.isBehaviour = true ∧
            IsResolved "MyBehaviour" taken node.behaviourClass? className := by
  induction nodes with
  | nil => exact fun given => .inl given
  | cons node nodes ih =>
      intro found taken id className given
      rw [resolveBehaviours] at given
      cases payload : node.payload.behaviour? with
      | none =>
          rw [payload] at given
          rcases ih given with old | ⟨other, held, rest⟩
          · exact .inl old
          · exact .inr ⟨other, List.mem_cons_of_mem _ held, rest⟩
      | some behaviour =>
          rw [payload] at given
          have isBehaviour : node.payload.isBehaviour = true := by
            cases known : node.payload <;> simp [known, Payload.behaviour?] at payload
            rfl
          rcases ih given with inserted | ⟨other, held, sameId, isBehaviour, resolved⟩
          · by_cases same : id = node.id
            · subst same
              rw [Dict.find?_insert_self] at inserted
              injection inserted with isName
              refine .inr ⟨node, List.mem_cons_self, rfl, isBehaviour, ?_⟩
              rw [← isName, Node.behaviourClass?, payload]
              exact resolve_isResolved
            · rw [Dict.find?_insert_of_ne _ _ same] at inserted
              exact .inl inserted
          · exact .inr ⟨other, List.mem_cons_of_mem _ held, sameId, isBehaviour,
              resolved.mono subset_resolve⟩

theorem resolveBehaviours_isSome {nodes : List Node} {id : String} :
    ∀ {found : Dict String} {taken : List String},
      ((found.find? id).isSome = true ∨
        ∃ node ∈ nodes, node.id = id ∧ node.payload.isBehaviour = true) →
      ((resolveBehaviours found taken nodes).find? id).isSome = true := by
  induction nodes with
  | nil =>
      rintro found taken (known | ⟨node, inside, _⟩)
      · exact known
      · exact absurd inside List.not_mem_nil
  | cons node nodes ih =>
      intro found taken given
      rw [resolveBehaviours]
      cases payload : node.payload.behaviour? with
      | none =>
          apply ih
          rcases given with known | ⟨other, inside, sameId, isBehaviour⟩
          · exact .inl known
          · rcases List.mem_cons.mp inside with rfl | later
            · cases known : other.payload <;>
                simp [known, Payload.behaviour?, Payload.isBehaviour] at payload isBehaviour
            · exact .inr ⟨other, later, sameId, isBehaviour⟩
      | some behaviour =>
          apply ih
          by_cases same : id = node.id
          · subst same
            exact .inl (by rw [Dict.find?_insert_self]; rfl)
          · rw [Dict.find?_insert_of_ne _ _ same]
            rcases given with known | ⟨other, inside, sameId, isBehaviour⟩
            · exact .inl known
            · rcases List.mem_cons.mp inside with rfl | later
              · exact absurd sameId.symm same
              · exact .inr ⟨other, later, sameId, isBehaviour⟩

end Plan

end AgentGraph
