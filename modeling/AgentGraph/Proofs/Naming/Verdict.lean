import AgentGraph.Program.Basic
import AgentGraph.Proofs.Naming.Valid
import Mathlib.Data.List.Count
import Mathlib.Data.List.Flatten
import Mathlib.Data.List.Perm.Subperm

/-!
The violations told without the order of the nodes: what each node violates by itself, and
the names that are repeated, each as often as it is used again.
-/

namespace AgentGraph.Naming

/-- The names that an earlier one equals, in the list or in `earlier`. -/
def repeatsAfter (earlier : List String) : List String → List String
  | [] => []
  | name :: rest =>
      (if name ∈ earlier then [name] else []) ++ repeatsAfter (name :: earlier) rest

theorem count_repeatsAfter (name : String) (names : List String) : ∀ earlier : List String,
    (repeatsAfter earlier names).count name =
      if name ∈ earlier then names.count name else names.count name - 1 := by
  induction names with
  | nil => simp [repeatsAfter]
  | cons head rest ih =>
      intro earlier
      rw [repeatsAfter, List.count_append, ih, List.count_cons]
      by_cases same : head = name
      · subst same
        by_cases known : head ∈ earlier
        · simp [known, Nat.add_comm]
        · simp [known]
      · have other : name ≠ head := fun equal => same equal.symm
        by_cases known : head ∈ earlier
        · simp [known, same, other]
        · simp [known, same, other]

def repeats (names : List String) : List String := repeatsAfter [] names

theorem count_repeats (name : String) (names : List String) :
    (repeats names).count name = names.count name - 1 := by
  rw [repeats, count_repeatsAfter, if_neg List.not_mem_nil]

theorem repeats_subperm {names others : List String} (more : names.Subperm others) :
    (repeats names).Subperm (repeats others) := by
  refine List.subperm_ext_iff.mpr fun name _ => ?_
  rw [count_repeats, count_repeats]
  exact Nat.sub_le_sub_right (more.count_le name) 1

/-- What a node violates apart from names that are used before. -/
def faults (classes : List String) (node : Node) : List Violation :=
  nodeViolations classes [] node

/-- The kinds of names; within each of them a name is used only once. -/
inductive Kind where
  | instanceName
  | agentClass
  | behaviourClass
deriving DecidableEq

namespace Kind

def all : List Kind := [.instanceName, .agentClass, .behaviourClass]

def name? : Kind → Node → Option String
  | .instanceName => Node.instanceName?
  | .agentClass => Node.agentClass?
  | .behaviourClass => Node.behaviourClass?

def repeated : Kind → String → Violation
  | .instanceName => .agentNameRepeated
  | .agentClass => .agentClassRepeated
  | .behaviourClass => .behaviourClassRepeated

/-- The names of this kind that were typed into the nodes. -/
def names (kind : Kind) (nodes : List Node) : List String := nodes.filterMap kind.name?

/-- What a node violates if its name of this kind is that of an earlier node. -/
def repetition (kind : Kind) (earlier : List Node) (node : Node) : List Violation :=
  ofTyped (fun name => demand (!(kind.names earlier).contains name) (kind.repeated name))
    (kind.name? node)

theorem map_repeatsAfter_cons (kind : Kind) (earlier rest : List Node) (node : Node) :
    (repeatsAfter (kind.names earlier) (kind.names (node :: rest))).map kind.repeated =
      kind.repetition earlier node ++
        (repeatsAfter (kind.names (node :: earlier)) (kind.names rest)).map kind.repeated := by
  unfold repetition names
  cases name : kind.name? node with
  | none => simp [name, ofTyped]
  | some own =>
      by_cases known : own ∈ earlier.filterMap kind.name?
      · simp [name, ofTyped, repeatsAfter, demand, known]
      · simp [name, ofTyped, repeatsAfter, demand, known]

theorem repeated_eq_iff {kind other : Kind} {name otherName : String} :
    kind.repeated name = other.repeated otherName ↔ kind = other ∧ name = otherName := by
  cases kind <;> cases other <;> simp [repeated]

theorem repeated_injective (kind : Kind) : Function.Injective kind.repeated :=
  fun _ _ same => (repeated_eq_iff.mp same).2

theorem count_map_repeated (kind other : Kind) (names : List String) (name : String) :
    (names.map other.repeated).count (kind.repeated name) =
      if other = kind then names.count name else 0 := by
  split
  · next same =>
      rw [same, List.count_map_of_injective _ _ kind.repeated_injective]
  · next different =>
      refine List.count_eq_zero.mpr fun inside => ?_
      obtain ⟨_, _, same⟩ := List.mem_map.mp inside
      exact different (repeated_eq_iff.mp same).1

end Kind

theorem ofTyped_append (first second : String → List Violation) (typed : Option String) :
    ofTyped (fun name => first name ++ second name) typed =
      ofTyped first typed ++ ofTyped second typed := by
  cases typed with
  | none => rfl
  | some name => rfl

theorem nodeViolations_perm (classes : List String) (earlier : List Node) (node : Node) :
    (nodeViolations classes earlier node).Perm
      (faults classes node ++ Kind.all.flatMap fun kind => kind.repetition earlier node) := by
  have instances : agentNameViolations classes (instanceNames earlier) node.id =
      fun name => agentNameViolations classes [] node.id name ++
        demand (!(Kind.instanceName.names earlier).contains name)
          (Kind.instanceName.repeated name) := by
    funext name
    simp [agentNameViolations, demand, Kind.names, Kind.name?, Kind.repeated, instanceNames]
  have agents : agentClassViolations (agentClasses earlier) node.id =
      fun name => agentClassViolations [] node.id name ++
        demand (!(Kind.agentClass.names earlier).contains name)
          (Kind.agentClass.repeated name) := by
    funext name
    simp [agentClassViolations, demand, Kind.names, Kind.name?, Kind.repeated, agentClasses]
  have behaviours : behaviourClassViolations (behaviourClasses earlier) node.id =
      fun name => behaviourClassViolations [] node.id name ++
        demand (!(Kind.behaviourClass.names earlier).contains name)
          (Kind.behaviourClass.repeated name) := by
    funext name
    simp [behaviourClassViolations, demand, Kind.names, Kind.name?, Kind.repeated,
      behaviourClasses]
  rw [nodeViolations, instances, agents, behaviours, ofTyped_append, ofTyped_append,
    ofTyped_append]
  refine List.perm_iff_count.mpr fun violation => ?_
  simp only [faults, nodeViolations, Kind.all, Kind.repetition, Kind.name?,
    List.flatMap_cons, List.flatMap_nil, List.count_append, List.count_nil, instanceNames,
    agentClasses, behaviourClasses, List.filterMap_nil]
  omega

/-- The names of all kinds that are used again. -/
def repetitionsAfter (earlier nodes : List Node) : List Violation :=
  Kind.all.flatMap fun kind =>
    (repeatsAfter (kind.names earlier) (kind.names nodes)).map kind.repeated

def repetitions (nodes : List Node) : List Violation := repetitionsAfter [] nodes

theorem repetitionsAfter_cons (earlier rest : List Node) (node : Node) :
    (repetitionsAfter earlier (node :: rest)).Perm
      ((Kind.all.flatMap fun kind => kind.repetition earlier node) ++
        repetitionsAfter (node :: earlier) rest) := by
  simp only [repetitionsAfter, Kind.map_repeatsAfter_cons]
  exact (List.flatMap_append_perm ..).symm

theorem violationsAfter_perm_faults (classes : List String) (nodes : List Node) :
    ∀ earlier : List Node, (violationsAfter classes earlier nodes).Perm
      (nodes.flatMap (faults classes) ++ repetitionsAfter earlier nodes) := by
  -- Each step puts its node's names before those found so far, whatever these are.
  induction nodes with
  | nil => exact fun _ => .refl _
  | cons node rest ih =>
      intro earlier
      refine List.perm_iff_count.mpr fun violation => ?_
      have own := (nodeViolations_perm classes earlier node).count_eq violation
      have others := (ih (node :: earlier)).count_eq violation
      have again := (repetitionsAfter_cons earlier rest node).count_eq violation
      simp only [violationsAfter, List.flatMap_cons, List.count_append] at own others again ⊢
      omega

theorem violations_perm (nodes : List Node) :
    (violations nodes).Perm
      (nodes.flatMap (faults (allClasses nodes)) ++ repetitions nodes) :=
  violationsAfter_perm_faults (allClasses nodes) nodes []

theorem faults_sublist {classes more : List String} (subset : classes ⊆ more) (node : Node) :
    (faults classes node).Sublist (faults more node) := by
  refine List.Sublist.append (List.Sublist.append ?_ (.refl _)) (.refl _)
  cases node.instanceName? with
  | none => exact .refl _
  | some name =>
      refine List.Sublist.append ?_ (.refl _)
      split
      · exact .refl _
      · split
        · exact .refl _
        · by_cases isClass : name ∈ classes
          · simp [demand, isClass, subset isClass]
          · simp [demand, isClass]

theorem filterMap_subperm {α β : Type} (f : α → Option β) {items others : List α}
    (more : items.Subperm others) : (items.filterMap f).Subperm (others.filterMap f) := by
  obtain ⟨part, perm, sublist⟩ := more
  exact ⟨part.filterMap f, perm.filterMap f, sublist.filterMap f⟩

theorem repetitions_subperm {nodes others : List Node} (more : nodes.Subperm others) :
    (repetitions nodes).Subperm (repetitions others) := by
  have kind (kind : Kind) : ((repeats (kind.names nodes)).map kind.repeated).Subperm
      ((repeats (kind.names others)).map kind.repeated) :=
    (repeats_subperm (filterMap_subperm kind.name? more)).map kind.repeated_injective
  exact (kind .instanceName).append ((kind .agentClass).append
    ((kind .behaviourClass).append (.refl [])))

/-- Another node only adds to what is violated: it takes names and classes, and frees none. -/
theorem violations_subperm {nodes others : List Node} (more : nodes.Subperm others) :
    (violations nodes).Subperm (violations others) := by
  have classes : allClasses nodes ⊆ allClasses others :=
    ((filterMap_subperm _ more).append (filterMap_subperm _ more)).subset
  have alone : (nodes.flatMap (faults (allClasses nodes))).Subperm
      (others.flatMap (faults (allClasses others))) := by
    obtain ⟨part, perm, sublist⟩ := more
    have fewer := List.Sublist.flatMap_right part fun node _ => faults_sublist classes node
    exact ⟨part.flatMap (faults (allClasses nodes)), perm.flatMap_right _,
      fewer.trans (sublist.flatMap _)⟩
  exact (violations_perm nodes).subperm_right.mpr <|
    (violations_perm others).symm.subperm_left.mp <| alone.append (repetitions_subperm more)

theorem violations_perm_of_perm {nodes others : List Node} (perm : others.Perm nodes) :
    (violations others).Perm (violations nodes) :=
  (violations_subperm perm.subperm).antisymm (violations_subperm perm.symm.subperm)

/-- What is said about the nodes. -/
def reports (nodes : List Node) : List String := (violations nodes).map Violation.message

/-- The words that the message of a repeated name opens with. -/
def Kind.opening : Kind → String
  | .instanceName => "Each Agent node must have a unique Name: '"
  | .agentClass => "Each Agent node must have a unique Class name: '"
  | .behaviourClass => "Each Behaviour node must have a unique Class name: '"

theorem Kind.message_repeated (kind : Kind) (name : String) :
    (kind.repeated name).message = kind.opening ++ name ++ "'" := by
  cases kind <;> rfl

/-- The words that a message opens with. -/
def Violation.opening : Violation → String
  | .agentNameInvalid .. | .agentNameReserved .. | .agentNameClash .. => "Agent name"
  | .agentClassReserved .. => "Agent class"
  | .behaviourClassInvalid .. | .behaviourClassReserved .. => "Behaviour class"
  | .agentNameRepeated _ => Kind.opening .instanceName
  | .agentClassRepeated _ => Kind.opening .agentClass
  | .behaviourClassRepeated _ => Kind.opening .behaviourClass

def openings : List String :=
  ["Agent name", "Agent class", "Behaviour class"] ++ Kind.all.map Kind.opening

theorem opening_unique {first second : String} (held : first ∈ openings)
    (alsoHeld : second ∈ openings) (opens : first.toList <+: second.toList) :
    first = second := by
  have apart : ∀ first ∈ openings, ∀ second ∈ openings,
      first.toList <+: second.toList → first = second := by
    decide +kernel
  exact apart first held second alsoHeld opens

theorem Violation.opening_mem (violation : Violation) : violation.opening ∈ openings := by
  cases violation <;> simp [opening, openings, Kind.all]

theorem prefix_atNode (what name id fault : String) :
    what.toList <+: (what ++ " '" ++ name ++ "' (node " ++ id ++ ") " ++ fault).toList := by
  simp only [String.append_assoc, String.toList_append]
  exact List.prefix_append _ _

theorem prefix_quoted (start name : String) :
    start.toList <+: (start ++ name ++ "'").toList := by
  simp only [String.append_assoc, String.toList_append]
  exact List.prefix_append _ _

theorem Violation.message_opens (violation : Violation) :
    violation.opening.toList <+: violation.message.toList := by
  cases violation with
  | agentNameInvalid | agentNameReserved | agentNameClash | agentClassReserved
  | behaviourClassInvalid | behaviourClassReserved => exact prefix_atNode ..
  | agentNameRepeated | agentClassRepeated | behaviourClassRepeated => exact prefix_quoted ..

theorem Violation.opening_eq_of_message_eq {first second : Violation}
    (same : first.message = second.message) : first.opening = second.opening := by
  have own := first.message_opens
  rw [same] at own
  rcases List.prefix_or_prefix_of_prefix own second.message_opens with opens | opens
  · exact opening_unique first.opening_mem second.opening_mem opens
  · exact (opening_unique second.opening_mem first.opening_mem opens).symm

theorem Kind.exists_of_opening {kind : Kind} {violation : Violation}
    (opens : violation.opening = kind.opening) : ∃ name, violation = kind.repeated name := by
  cases kind <;> cases violation <;> simp_all [Violation.opening, opening, repeated]

/-- The message of a repeated name is that of no other violation. -/
theorem Kind.eq_of_message_eq {kind : Kind} {violation : Violation} {name : String}
    (same : violation.message = (kind.repeated name).message) :
    violation = kind.repeated name := by
  have opening : (kind.repeated name).opening = kind.opening := by cases kind <;> rfl
  obtain ⟨other, rfl⟩ :=
    kind.exists_of_opening ((Violation.opening_eq_of_message_eq same).trans opening)
  rw [message_repeated, message_repeated, String.append_left_inj, String.append_right_inj] at same
  rw [same]

theorem ne_repeated_of_mem_ofTyped {check : String → List Violation} {repeated : Violation}
    (each : ∀ name, ∀ violation ∈ check name, violation ≠ repeated)
    {typed : Option String} {violation : Violation} (inside : violation ∈ ofTyped check typed) :
    violation ≠ repeated := by
  cases typed with
  | none => exact absurd inside List.not_mem_nil
  | some name => exact each name violation inside

theorem ne_repeated_of_mem_faults {classes : List String} {node : Node}
    {violation : Violation} (inside : violation ∈ faults classes node) (kind : Kind)
    (name : String) : violation ≠ kind.repeated name := by
  rw [faults, nodeViolations, List.mem_append, List.mem_append] at inside
  rcases inside with (inside | inside) | inside
  · refine ne_repeated_of_mem_ofTyped (fun name other held => ?_) inside
    simp only [agentNameViolations, demand, instanceNames] at held
    split_ifs at held <;> cases kind <;> simp_all [Kind.repeated]
  · refine ne_repeated_of_mem_ofTyped (fun name other held => ?_) inside
    simp only [agentClassViolations, demand, agentClasses] at held
    split_ifs at held <;> cases kind <;> simp_all [Kind.repeated]
  · refine ne_repeated_of_mem_ofTyped (fun name other held => ?_) inside
    simp only [behaviourClassViolations, demand, behaviourClasses] at held
    split_ifs at held <;> cases kind <;> simp_all [Kind.repeated]

theorem count_repetitions (nodes : List Node) (kind : Kind) (name : String) :
    (repetitions nodes).count (kind.repeated name) = (kind.names nodes).count name - 1 := by
  rw [← count_repeats]
  simp only [repetitions, repetitionsAfter, Kind.all, List.flatMap_cons, List.flatMap_nil,
    List.count_append, List.count_nil, Kind.count_map_repeated]
  cases kind <;> simp [repeats, Kind.names]

/-- A name that is used `k` times is reported `k - 1` times. -/
theorem count_reports (nodes : List Node) (kind : Kind) (name : String) :
    (reports nodes).count (kind.repeated name).message =
      (kind.names nodes).count name - 1 := by
  have unmentioned :
      (nodes.flatMap (faults (allClasses nodes))).count (kind.repeated name) = 0 := by
    refine List.count_eq_zero.mpr fun inside => ?_
    obtain ⟨node, _, fault⟩ := List.mem_flatMap.mp inside
    exact ne_repeated_of_mem_faults fault kind name rfl
  calc (reports nodes).count (kind.repeated name).message =
      (violations nodes).count (kind.repeated name) := by
        rw [reports, List.count, List.countP_map, List.count]
        refine List.countP_congr fun violation _ => ?_
        simp only [Function.comp_apply, beq_iff_eq]
        exact ⟨Kind.eq_of_message_eq, congrArg _⟩
    _ = (repetitions nodes).count (kind.repeated name) := by
        rw [(violations_perm nodes).count_eq, List.count_append, unmentioned, Nat.zero_add]
    _ = (kind.names nodes).count name - 1 := count_repetitions nodes kind name

end AgentGraph.Naming

namespace AgentGraph

open Naming

namespace Program

variable {settings : Settings} {graph : Graph}

theorem generate_eq_error_iff {found : List Violation} :
    generate settings graph = .error found ↔ violations graph.nodes = found ∧ found ≠ [] := by
  rw [generate]
  split
  case h_1 none =>
      rw [none]
      exact ⟨nofun, fun ⟨same, wrong⟩ => absurd same.symm wrong⟩
  case h_2 wrong =>
      constructor
      · rintro ⟨⟩
        exact ⟨rfl, wrong⟩
      · rintro ⟨rfl, _⟩
        rfl

theorem exists_generate_eq_ok_iff :
    (∃ program, generate settings graph = .ok program) ↔ violations graph.nodes = [] := by
  rw [generate]
  split
  case h_1 none => exact ⟨fun _ => none, fun _ => ⟨_, rfl⟩⟩
  case h_2 wrong => exact ⟨nofun, fun none => absurd none wrong⟩

end Program

namespace Naming

/-- How nodes are judged: by their names alone, whatever their order, the edges and the
settings. -/
structure Judged (nodes : List Node) : Prop where
  accepted : violations nodes = [] ↔ IsValid nodes
  anyOrder : ∀ others, others.Perm nodes → (violations others).Perm (violations nodes)
  moreNodes : ∀ others, nodes.Subperm others → (violations nodes).Subperm (violations others)
  repeated : ∀ (kind : Kind) (name : String), (reports nodes).count (kind.repeated name).message =
    (kind.names nodes).count name - 1
  refused : ∀ settings edges found,
    Program.generate settings ⟨nodes, edges⟩ = .error found ↔
      violations nodes = found ∧ found ≠ []
  compiled : ∀ settings edges, (∃ program,
    Program.generate settings ⟨nodes, edges⟩ = .ok program) ↔ violations nodes = []

theorem judged (nodes : List Node) : Judged nodes where
  accepted := violations_eq_nil_iff nodes
  anyOrder _ perm := violations_perm_of_perm perm
  moreNodes _ more := violations_subperm more
  repeated := count_reports nodes
  refused _ _ _ := Program.generate_eq_error_iff
  compiled _ _ := Program.exists_generate_eq_ok_iff

/-- Three agents of one name, twice with white space around it. -/
def triplets : List Node :=
  [⟨"a", none, .agent { instanceName := "anna" }⟩,
    ⟨"b", none, .agent { instanceName := " anna" }⟩,
    ⟨"c", none, .agent { instanceName := "anna\t" }⟩]

example : violations triplets = [.agentNameRepeated "anna", .agentNameRepeated "anna"] := by
  decide +kernel

end Naming

end AgentGraph
